import RmwIceoryx2.Common.Error
import RmwIceoryx2.Common.Names

namespace RmwIceoryx2.Runtime

open Common

structure HandleAnswers where
  instanceName : String → Except String Unit
  localNode : String → Except String Unit
  ipcNode : String → Except String Unit

def HandleAnswers.granting : HandleAnswers := ⟨fun _ ↦ .ok (), fun _ ↦ .ok (), fun _ ↦ .ok ()⟩

def Iceoryx2.create (mw : HandleAnswers) (instanceName : String) :
    Except (Failure HandleError) Unit :=
  match mw.instanceName instanceName with
  | .error e => .error ⟨.invalidInstanceName, [e]⟩
  | .ok () =>
    match mw.localNode instanceName with
    | .error e => .error ⟨.iceoryxHandleCreationFailure, [e]⟩
    | .ok () =>
      match mw.ipcNode instanceName with
      | .error e => .error ⟨.iceoryxHandleCreationFailure, [e]⟩
      | .ok () => .ok ()

/-- `rmw_context_impl_s`. Both numbers are kept in full; what the code stores of them is their
remainder in 32 bits. -/
structure Context where
  instanceId : ℕ
  guardConditionCounter : ℕ
  deriving DecidableEq, Repr

namespace Context

def create (mw : HandleAnswers) (instanceId : ℕ) : Except (Failure ContextError) Context :=
  match Iceoryx2.create mw (Names.context (instanceId % 2 ^ 32)) with
  | .error f => .error (f.wrap .handleCreationFailure "failed to create Handle")
  | .ok () => .ok ⟨instanceId, 0⟩

def id (c : Context) : ℕ := c.instanceId % 2 ^ 32

def generateGuardConditionId (c : Context) : ℕ × Context :=
  (c.guardConditionCounter % 2 ^ 32, { c with guardConditionCounter := c.guardConditionCounter + 1 })

def next (c : Context) : Context := c.generateGuardConditionId.2

end Context

structure GuardConditionAnswers where
  serviceName : String → Except String Unit
  event : String → Except String Unit
  notifier : Except String Unit

def GuardConditionAnswers.granting : GuardConditionAnswers :=
  ⟨fun _ ↦ .ok (), fun _ ↦ .ok (), .ok ()⟩

structure GuardCondition where
  triggerId : ℕ
  serviceName : String
  deriving DecidableEq, Repr

/-- The identifier is generated first, and used up also if the creation fails. -/
def GuardCondition.create (mw : GuardConditionAnswers) (context : Context) :
    Context × Except (Failure GuardConditionError) GuardCondition :=
  let (triggerId, context) := context.generateGuardConditionId
  let serviceName := Names.guardCondition context.id triggerId
  match mw.serviceName serviceName with
  | .error e => (context, .error ⟨.serviceNameCreationFailure, [e]⟩)
  | .ok () =>
    match mw.event serviceName with
    | .error e => (context, .error ⟨.serviceCreationFailure, [e]⟩)
    | .ok () =>
      match mw.notifier with
      | .error e => (context, .error ⟨.notifierCreationFailure, [e]⟩)
      | .ok () => (context, .ok ⟨triggerId, serviceName⟩)

structure Node where
  name : String
  graphGuardCondition : GuardCondition
  deriving DecidableEq, Repr

def Node.create (handle : HandleAnswers) (mw : GuardConditionAnswers) (context : Context)
    (name ns : String) : Context × Except (Failure NodeError) Node :=
  match Iceoryx2.create handle (Names.node context.id name (some ns)) with
  | .error f => (context, .error (f.wrap .handleCreationFailure "failed to create Handle"))
  | .ok () =>
    match GuardCondition.create mw context with
    | (context, .error f) => (context, .error
        (f.wrap .graphGuardConditionCreationFailure "failed to create GuardCondition"))
    | (context, .ok graphGuardCondition) => (context, .ok ⟨name, graphGuardCondition⟩)

variable {mw : GuardConditionAnswers} {context context' : Context}

theorem GuardCondition.create_ok {g : GuardCondition}
    (h : GuardCondition.create mw context = (context', .ok g)) : context' = context.next ∧
      g.serviceName = Names.guardCondition (context.instanceId % 2 ^ 32)
        (context.guardConditionCounter % 2 ^ 32) := by
  simp only [create] at h
  repeat' split at h
  all_goals cases h
  exact ⟨rfl, rfl⟩

theorem Node.create_ok {handle : HandleAnswers} {name ns : String} {n : Node}
    (h : Node.create handle mw context name ns = (context', .ok n)) : context' = context.next ∧
      n.graphGuardCondition.serviceName = Names.guardCondition (context.instanceId % 2 ^ 32)
        (context.guardConditionCounter % 2 ^ 32) := by
  simp only [create] at h
  split at h
  · cases h
  · split at h
    · cases h
    · rename_i hcreate
      cases h
      exact GuardCondition.create_ok hcreate

end RmwIceoryx2.Runtime
