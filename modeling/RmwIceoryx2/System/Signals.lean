import RmwIceoryx2.Library.Execution
import RmwIceoryx2.Rmw.Context
import RmwIceoryx2.Runtime.Readiness

namespace RmwIceoryx2.System.Signals

open RmwIceoryx2.Common RmwIceoryx2.Runtime RmwIceoryx2.Rmw RmwIceoryx2.Library.Execution

inductive Handle
  | guardCondition (address : ℕ)
  | node (address : ℕ)
  deriving DecidableEq, Repr

/-- A guard condition that lives. Beside it stand the instance id of its context and how many
identifiers that context had generated before. -/
structure Signal where
  handle : Handle
  instanceId : ℕ
  serial : ℕ
  guardCondition : Runtime.GuardCondition
  deriving DecidableEq, Repr

/-- The contexts of a process, by their addresses, and all guard conditions that live. -/
structure Process where
  contexts : ℕ → RmwContext
  impls : Impls
  signals : List Signal

def Process.initial : Process := ⟨fun _ ↦ zeroContext, [], []⟩

inductive Op
  | init (env : InitAnswers) (options : Option RmwInitOptions) (context : ℕ)
  | shutdown (context : ℕ)
  | fini (context : ℕ)
  | createGuardCondition (env : GuardConditionEnv) (context : ℕ)
  | createNode (env : NodeEnv) (context : ℕ) (name ns : Option String)
  | destroyGuardCondition (address : ℕ)
  | destroyNode (address : ℕ)

def Process.withContext (w : Process) (context : ℕ) (out : ContextOutcome) : Process :=
  { w with
    contexts := Function.update w.contexts context (out.context.getD (w.contexts context))
    impls := out.impls }

/-- A guard condition that is created in the context, together with the numbers of its creation. -/
def Process.signal (w : Process) (context : ℕ) (handle : Handle)
    (guardCondition : Runtime.GuardCondition) : Signal :=
  let impl := implOf w.impls (w.contexts context)
  ⟨handle, (impl.map (·.instanceId)).getD 0, (impl.map (·.guardConditionCounter)).getD 0,
    guardCondition⟩

def Process.destroy (w : Process) (handle : Handle) : Process :=
  { w with signals := w.signals.filter (·.handle ≠ handle) }

def exec (w : Process) : Op → Process
  | .init env options c =>
    w.withContext c (rmwInit env w.impls options (some (w.contexts c)))
  | .shutdown c => w.withContext c (rmwShutdown w.impls (some (w.contexts c)))
  | .fini c => w.withContext c (rmwContextFini w.impls (some (w.contexts c)))
  | .createGuardCondition env c =>
    match rmwCreateGuardCondition env w.impls (some (w.contexts c)) with
    | .error _ => w
    | .ok (impls, .error _) => { w with impls := impls }
    | .ok (impls, .ok (address, guardCondition)) =>
      { w with
        impls := impls
        signals := w.signals ++ [w.signal c (.guardCondition address) guardCondition] }
  | .createNode env c name ns =>
    match rmwCreateNode env w.impls (some (w.contexts c)) name ns with
    | .error _ => w
    | .ok (impls, .error _) => { w with impls := impls }
    | .ok (impls, .ok (address, node)) =>
      { w with
        impls := impls
        signals := w.signals ++ [w.signal c (.node address) node.graphGuardCondition] }
  | .destroyGuardCondition address => w.destroy (.guardCondition address)
  | .destroyNode address => w.destroy (.node address)

def created (w : Process) : Op → Option Signal
  | .createGuardCondition env c =>
    match rmwCreateGuardCondition env w.impls (some (w.contexts c)) with
    | .ok (_, .ok (address, guardCondition)) =>
      some (w.signal c (.guardCondition address) guardCondition)
    | _ => none
  | .createNode env c name ns =>
    match rmwCreateNode env w.impls (some (w.contexts c)) name ns with
    | .ok (_, .ok (address, node)) => some (w.signal c (.node address) node.graphGuardCondition)
    | _ => none
  | _ => none

/-- What `GuardCondition::trigger` does to a wait set. -/
def trigger (ws : WaitSet) (g : Runtime.GuardCondition) : WaitSet :=
  ws.notify .guardCondition g.serviceName

/-- The names differ, and no wait set is told of one by a trigger of the other. -/
def Independent (s t : Signal) : Prop :=
  s.guardCondition.serviceName ≠ t.guardCondition.serviceName ∧ ∀ ws : WaitSet,
    ((trigger ws s.guardCondition).Ready .guardCondition t.guardCondition.serviceName ↔
      ws.Ready .guardCondition t.guardCondition.serviceName) ∧
    ((trigger ws t.guardCondition).Ready .guardCondition s.guardCondition.serviceName ↔
      ws.Ready .guardCondition s.guardCondition.serviceName)

def SignalsApart (w : Process) : Prop := w.signals.Pairwise Independent

/-- Modulo `2 ^ 32`, the contexts have one instance id and the creations one number. -/
def SameNumbers (s t : Signal) : Prop :=
  s.instanceId % 2 ^ 32 = t.instanceId % 2 ^ 32 ∧ s.serial % 2 ^ 32 = t.serial % 2 ^ 32

/-- No guard condition that lives has the numbers of the one that is created. -/
def FreshNumbers (w : Process) (op : Op) : Prop :=
  ∀ t, created w op = some t → ∀ s ∈ w.signals, ¬ SameNumbers s t

def Named (s : Signal) : Prop :=
  s.guardCondition.serviceName = Names.guardCondition (s.instanceId % 2 ^ 32) (s.serial % 2 ^ 32)

def AllNamed (w : Process) : Prop := ∀ s ∈ w.signals, Named s

structure NamedApart (w : Process) : Prop where
  named : AllNamed w
  apart : SignalsApart w

variable {w : Process} {op : Op} {s t : Signal}

theorem independent_iff : Independent s t ↔
    s.guardCondition.serviceName ≠ t.guardCondition.serviceName := by
  constructor
  · intro h
    exact h.1
  · intro h
    refine ⟨h, fun ws ↦ ⟨?_, ?_⟩⟩
    · rw [trigger, WaitSet.ready_notify]
      exact or_iff_right fun hsame ↦ h hsame.2.1.symm
    · rw [trigger, WaitSet.ready_notify]
      exact or_iff_right fun hsame ↦ h hsame.2.1

theorem independent_iff_numbers (hs : Named s) (ht : Named t) :
    Independent s t ↔ ¬ SameNumbers s t := by
  rw [independent_iff, hs, ht, not_iff_not]
  constructor
  · intro h
    exact Names.guardCondition_inj h
  · intro h
    rw [h.1, h.2]

theorem signal_named {context : ℕ} {handle : Handle} {g : Runtime.GuardCondition}
    (h : ∃ c, implOf w.impls (w.contexts context) = some c ∧ g.serviceName =
      Names.guardCondition (c.instanceId % 2 ^ 32) (c.guardConditionCounter % 2 ^ 32)) :
    Named (w.signal context handle g) := by
  obtain ⟨c, himpl, hname⟩ := h
  simp only [Named, Process.signal, himpl, Option.map_some, Option.getD_some]
  exact hname

theorem exec_cases (w : Process) (op : Op) :
    (∃ t, created w op = some t ∧ Named t ∧ (exec w op).signals = w.signals ++ [t]) ∨
      (created w op = none ∧ (exec w op).signals.Sublist w.signals) := by
  cases op with
  | createGuardCondition env c =>
    simp only [created, exec]
    cases hcreate : rmwCreateGuardCondition env w.impls (some (w.contexts c)) with
    | error stale => exact Or.inr ⟨rfl, List.Sublist.refl _⟩
    | ok outcome =>
      obtain ⟨impls, f | ⟨address, g⟩⟩ := outcome
      · exact Or.inr ⟨rfl, List.Sublist.refl _⟩
      · exact Or.inl ⟨_, rfl, signal_named (rmwCreateGuardCondition_ok hcreate), rfl⟩
  | createNode env c name ns =>
    simp only [created, exec]
    cases hcreate : rmwCreateNode env w.impls (some (w.contexts c)) name ns with
    | error stale => exact Or.inr ⟨rfl, List.Sublist.refl _⟩
    | ok outcome =>
      obtain ⟨impls, f | ⟨address, node⟩⟩ := outcome
      · exact Or.inr ⟨rfl, List.Sublist.refl _⟩
      · exact Or.inl ⟨_, rfl, signal_named (rmwCreateNode_ok hcreate), rfl⟩
  | init env options c => exact Or.inr ⟨rfl, List.Sublist.refl _⟩
  | shutdown c => exact Or.inr ⟨rfl, List.Sublist.refl _⟩
  | fini c => exact Or.inr ⟨rfl, List.Sublist.refl _⟩
  | destroyGuardCondition address => exact Or.inr ⟨rfl, List.filter_sublist⟩
  | destroyNode address => exact Or.inr ⟨rfl, List.filter_sublist⟩

theorem allNamed_exec (h : AllNamed w) : AllNamed (exec w op) := by
  intro s hs
  obtain ⟨t, -, ht, hsignals⟩ | ⟨-, hsub⟩ := exec_cases w op
  · rw [hsignals, List.mem_append, List.mem_singleton] at hs
    obtain hs | rfl := hs
    · exact h s hs
    · exact ht
  · exact h s (hsub.subset hs)

/-- A step keeps the guard conditions apart exactly if it brings no numbers to life again. -/
theorem apart_exec_iff (hnamed : AllNamed w) (h : SignalsApart w) :
    SignalsApart (exec w op) ↔ FreshNumbers w op := by
  obtain ⟨t, hcreated, ht, hsignals⟩ | ⟨hcreated, hsub⟩ := exec_cases w op
  · have hlast : SignalsApart (exec w op) ↔ ∀ s ∈ w.signals, Independent s t := by
      rw [SignalsApart, hsignals, List.pairwise_append]
      constructor
      · intro hall s hs
        exact hall.2.2 s hs t (List.mem_singleton_self t)
      · intro hall
        refine ⟨h, List.pairwise_singleton _ t, fun s hs t' ht' ↦ ?_⟩
        rw [List.mem_singleton.mp ht']
        exact hall s hs
    rw [hlast, FreshNumbers, hcreated]
    constructor
    · intro hall t' ht' s hs
      obtain rfl := Option.some_inj.mp ht'
      exact (independent_iff_numbers (hnamed s hs) ht).mp (hall s hs)
    · intro hall s hs
      exact (independent_iff_numbers (hnamed s hs) ht).mpr (hall t rfl s hs)
  · refine iff_of_true (h.sublist hsub) fun t ht ↦ ?_
    rw [hcreated] at ht
    cases ht

theorem namedApart_exec_iff (h : NamedApart w) : NamedApart (exec w op) ↔ FreshNumbers w op := by
  rw [← apart_exec_iff h.named h.apart]
  constructor
  · intro hexec
    exact hexec.apart
  · intro hapart
    exact ⟨allNamed_exec h.named, hapart⟩

/-- Guard conditions never share a signal in a run exactly if each is created while none lives whose
context and number are the same in 32 bits. -/
theorem signals_apart_iff (ops : List Op) :
    (∀ pre, pre <+: ops → SignalsApart (run exec .initial pre)) ↔
      Admissible exec FreshNumbers .initial ops := by
  have hinitial : NamedApart .initial := ⟨fun _ hs ↦ absurd hs List.not_mem_nil, .nil⟩
  have hall : ∀ pre, Admissible exec (fun _ _ ↦ True) .initial pre :=
    fun _ ↦ admissible_of_forall _ fun _ _ _ ↦ trivial
  have hnamed : ∀ pre, AllNamed (run exec .initial pre) :=
    fun pre ↦ invariant (fun _ _ hw _ ↦ allNamed_exec hw) hinitial.named (hall pre)
  have hruns : (∀ pre, pre <+: ops → NamedApart (run exec .initial pre)) ↔
      Admissible exec FreshNumbers .initial ops :=
    always_iff (fun _ _ hw _ ↦ namedApart_exec_iff hw) hinitial (hall ops)
  rw [← hruns]
  constructor
  · intro h pre hpre
    exact ⟨hnamed pre, h pre hpre⟩
  · intro h pre hpre
    exact (h pre hpre).apart

def firstOptions : RmwInitOptions := ⟨1, some rmwGetImplementationIdentifier, some "", some ()⟩

def createAt (address : ℕ) : Op := .createGuardCondition ⟨some address, true, .granting⟩ 0

def oneContext (n : ℕ) (signals : List Signal) : Process :=
  ⟨Function.update (fun _ ↦ zeroContext) 0 ⟨1, some rmwGetImplementationIdentifier, some 0⟩,
    [some ⟨1, n⟩], signals⟩

def nth (address n : ℕ) : Signal :=
  ⟨.guardCondition address, 1, n, ⟨n % 2 ^ 32, Names.guardCondition 1 (n % 2 ^ 32)⟩⟩

/-- One guard condition lives on while `k` others are created and destroyed, and one more is
created. -/
def longRun (k : ℕ) : List Op :=
  .init .granting (some firstOptions) 0 :: createAt 0 ::
    ((List.replicate k [createAt 1, .destroyGuardCondition 1]).flatten ++ [createAt 1])

theorem exec_init_first :
    exec .initial (.init .granting (some firstOptions) 0) = oneContext 0 [] := rfl

theorem exec_createAt (n address : ℕ) (signals : List Signal) :
    exec (oneContext n signals) (createAt address) =
      oneContext (n + 1) (signals ++ [nth address n]) := rfl

theorem run_pairs (k n : ℕ) :
    run exec (oneContext n [nth 0 0])
        (List.replicate k [createAt 1, .destroyGuardCondition 1]).flatten =
      oneContext (n + k) [nth 0 0] := by
  induction k generalizing n with
  | zero => rfl
  | succ k ih =>
    have hpair : run exec (oneContext n [nth 0 0]) [createAt 1, .destroyGuardCondition 1] =
        oneContext (n + 1) [nth 0 0] := by
      rw [run_cons, exec_createAt]
      rfl
    rw [List.replicate_succ, List.flatten_cons, run_append, hpair, ih, Nat.add_assoc, Nat.add_comm 1]

theorem run_longRun (k : ℕ) :
    run exec .initial (longRun k) = oneContext (k + 2) [nth 0 0, nth 1 (k + 1)] := by
  rw [longRun, run_cons, exec_init_first, run_cons, exec_createAt, List.nil_append, run_append,
    run_pairs, run_cons, run_nil, exec_createAt, List.singleton_append, Nat.zero_add, Nat.add_comm 1]

/-- After `2 ^ 32` guard conditions the context generates the first identifier again, while the
guard condition that has it still lives. -/
theorem counter_wraps :
    (run exec .initial (longRun (2 ^ 32 - 1))).signals.map (·.guardCondition.serviceName) =
      [Names.guardCondition 1 0, Names.guardCondition 1 0] ∧
    ¬ ∀ pre, pre <+: longRun (2 ^ 32 - 1) → SignalsApart (run exec .initial pre) := by
  have hlast : (nth 1 (2 ^ 32 - 1 + 1)).guardCondition.serviceName = Names.guardCondition 1 0 := rfl
  constructor
  · rw [run_longRun]
    simp only [oneContext, List.map_cons, List.map_nil, hlast]
    rfl
  · intro hall
    have hend := hall _ List.prefix_rfl
    rw [run_longRun] at hend
    have hpair := List.pairwise_cons.mp hend
    exact (hpair.1 _ (List.mem_singleton_self _)).1 hlast.symm

end RmwIceoryx2.System.Signals
