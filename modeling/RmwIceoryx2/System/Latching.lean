import RmwIceoryx2.System.Readiness

namespace RmwIceoryx2.System

open RmwIceoryx2.Common RmwIceoryx2.Runtime RmwIceoryx2.Runtime.WaitSet RmwIceoryx2.Rmw
open RmwIceoryx2.Library.Execution RmwIceoryx2.Library.FirstOccurrence

variable {P : Type} {mw : Middleware} {w : World P}

def TriggeredOn (g : GuardCondition) (w : World P) (op : Op P) : Prop :=
  op = .trigger g ∧ (w.waitSet.findListener .guardCondition (serviceName g)).isSome

def WaitReturnedListing (g : GuardCondition) (w : World P) (op : Op P) : Prop :=
  ∃ mw c, op = .waitLeave mw ∧ w.waiting = some c ∧ some g ∈ c.arrays.guardConditions.getD []

theorem serviceName_guardCondition_injective :
    Function.Injective (serviceName : GuardCondition → String) := by
  intro g g' h
  obtain ⟨hcontext, htrigger⟩ := Names.guardCondition_inj h
  cases g
  cases g'
  exact GuardCondition.mk.injEq .. ▸ ⟨hcontext, htrigger⟩

theorem triggeredOn_eq (g : GuardCondition) :
    TriggeredOn (P := P) g = NotifiedOn .guardCondition (serviceName g) := by
  funext w op
  cases op <;>
    simp [TriggeredOn, NotifiedOn, Op.notified, serviceName_guardCondition_injective.eq_iff]

theorem lists_guardCondition_iff {a : Arrays} {g : GuardCondition} :
    (∃ e ∈ a.entries, e.key = (.guardCondition, serviceName g)) ↔
      some g ∈ a.guardConditions.getD [] := by
  constructor
  · intro h
    obtain ⟨e, he, hkey⟩ := h
    rw [Entry.key, Prod.mk.injEq] at hkey
    rcases List.mem_append.mp he with hg | hs
    · obtain ⟨-, i, g', hg', -, hname⟩ := mem_arrayEntries.mp hg
      obtain rfl := serviceName_guardCondition_injective (hname.symm.trans hkey.2)
      exact List.mem_of_getElem? hg'
    · rw [(mem_arrayEntries.mp hs).1] at hkey
      cases hkey.1
  · intro hg
    obtain ⟨i, hi⟩ := List.mem_iff_getElem?.mp hg
    exact ⟨⟨.guardCondition, i, serviceName g⟩, List.mem_append_left _
      (mem_arrayEntries.mpr ⟨rfl, i, g, hi, (Nat.zero_add i).symm, rfl⟩), rfl⟩

theorem waitReturnedListing_eq (g : GuardCondition) :
    WaitReturnedListing (P := P) g = ReturnedOn .guardCondition (serviceName g) := by
  funext w op
  simp only [WaitReturnedListing, ReturnedOn, lists_guardCondition_iff]

/-- A wait returns ok and leaves a guard condition in its array exactly when it was triggered, while
the wait set had its listener, after the last wait that listed it returned. -/
theorem latched_iff_triggered_since {ops : List (Op P)}
    (h : Admissible exec Ideal (.initial P) (ops ++ [.waitLeave mw])) {c : Waiting}
    (hc : (run exec (.initial P) ops).waiting = some c) {i : RmwIndex} {g : GuardCondition}
    (hi : (c.arrays.guardConditions.getD [])[i]? = some (some g))
    (hfirst : ∀ j < i, (c.arrays.guardConditions.getD [])[j]? ≠ some (some g)) :
    ∃ out, (run exec (.initial P) (ops ++ [.waitLeave mw])).returned = some out ∧
      ((out.ret = .ok ∧ (out.arrays.guardConditions.getD [])[i]? = some (some g)) ↔
        Since exec (TriggeredOn g) (WaitReturnedListing g) (.initial P) ops) := by
  have hf : (⟨.guardCondition, i, serviceName g⟩ : Entry) ∈ firsts Entry.key c.arrays.entries := by
    refine guardCondition_mem_firsts hi fun j hj g' hg' hname ↦ ?_
    obtain rfl := serviceName_guardCondition_injective hname
    exact hfirst j hj hg'
  obtain ⟨triggers, out, hout, hret, harr, hsince⟩ := reported_iff_notified_since h hc hf
  refine ⟨out, hout, ?_⟩
  rw [triggeredOn_eq, waitReturnedListing_eq, ← hsince, hret, harr]
  exact kept_iff_triggered hi

def bell : GuardCondition := ⟨5, 0⟩

def bellArrays : Arrays := ⟨none, some [some bell], none, none, none⟩

def bellFirstWait (ids : List AttachmentId) : Middleware :=
  .offering [((.guardCondition, serviceName bell), 7)] ids

def triggerThenWait : List (Op String) :=
  [.trigger bell, .waitEnter (bellFirstWait []) bellArrays (some ⟨1, 0⟩),
    .waitLeave (bellFirstWait [.interval])]

def waitThenTrigger : List (Op String) :=
  [.waitEnter (bellFirstWait []) bellArrays none, .trigger bell]

theorem canListen_bell (ws : WaitSet) (ids : List AttachmentId) :
    ∀ e ∈ bellArrays.entries, CanListen (bellFirstWait ids) ws e.waitableType e.serviceName := by
  intro e he
  obtain rfl := List.mem_singleton.mp he
  have hbell : (bellFirstWait []).createListener .guardCondition (serviceName bell) = .ok 7 := by
    decide
  exact Or.inr ⟨rfl, 7, hbell⟩

/-- The first wait creates the listener, too late for a trigger before it. -/
theorem trigger_before_first_wait_lost :
    Admissible exec Ideal (.initial String) triggerThenWait ∧
    ∃ out, (run exec (.initial String) triggerThenWait).returned = some out ∧
      out.ret = .timeout := by
  refine ⟨⟨trivial, ⟨rfl, fresh_offering_one _ _ _, canListen_bell _ _⟩,
    ⟨fun _ ↦ rfl, fun _ ↦ rfl, fun _ ↦ rfl, fun _ ↦ rfl, fun c hc ↦ ?_⟩, trivial⟩, _, rfl,
    by decide⟩
  cases hc
  exact handsOverReady_of_one ⟨.guardCondition, 0, 0⟩ ⟨serviceName bell, ⟨7, false⟩⟩
    (by decide) (by decide) (by decide)

theorem latched_iff_triggered_since_bell :
    ∃ out, (run exec (.initial String) (waitThenTrigger ++
        [.waitLeave (bellFirstWait [.notification 7])])).returned = some out ∧
      ((out.ret = .ok ∧ (out.arrays.guardConditions.getD [])[0]? = some (some bell)) ↔
        Since exec (TriggeredOn bell) (WaitReturnedListing bell) (.initial String)
          waitThenTrigger) := by
  have hrun : Admissible exec Ideal (.initial String)
      (waitThenTrigger ++ [.waitLeave (bellFirstWait [.notification 7])]) := by
    refine ⟨⟨rfl, fresh_offering_one _ _ _, canListen_bell _ _⟩, trivial,
      ⟨fun _ ↦ rfl, fun _ ↦ rfl, fun _ ↦ rfl, fun _ ↦ rfl, fun c hc ↦ ?_⟩, trivial⟩
    cases hc
    exact handsOverReady_of_one ⟨.guardCondition, 0, 0⟩ ⟨serviceName bell, ⟨7, true⟩⟩
      (by decide) (by decide) (by decide)
  exact latched_iff_triggered_since hrun (c := ⟨bellArrays, none⟩) (i := 0) (g := bell) rfl rfl
    (fun j hj ↦ absurd hj (Nat.not_lt_zero j))

end RmwIceoryx2.System
