import RmwIceoryx2.Library.Separator

namespace RmwIceoryx2.Common.Names

open RmwIceoryx2.Library.Separator

def context (contextId : ℕ) : String := "ros2://context/" ++ toString contextId

def node (contextId : ℕ) (name : String) (ns : Option String) : String :=
  let s := "ros2://context/" ++ toString contextId ++ "/nodes/"
  match ns with
  | some ns => if ns ≠ "" then s ++ (ns ++ "/") ++ name else s ++ name
  | none => s ++ name

def guardCondition (contextId guardConditionId : ℕ) : String :=
  "ros2://context/" ++ toString contextId ++ "/guard_conditions/" ++ toString guardConditionId

def topic (topic : String) : String := "ros2://topics" ++ topic

theorem guardCondition_inj {contextId contextId' id id' : ℕ}
    (h : guardCondition contextId id = guardCondition contextId' id') :
    contextId = contextId' ∧ id = id' := by
  have hsep : "/guard_conditions/".toList = '/' :: "guard_conditions/".toList := by simp
  exact numbered_inj hsep h

theorem topic_injective : Function.Injective topic := fun _ _ ↦ append_left_inj

end RmwIceoryx2.Common.Names
