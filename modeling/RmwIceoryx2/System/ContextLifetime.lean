import RmwIceoryx2.Library.Execution
import RmwIceoryx2.Rmw.Endpoint
import RmwIceoryx2.Rmw.WaitContext

namespace RmwIceoryx2.System.ContextLifetime

open RmwIceoryx2.Common RmwIceoryx2.Runtime RmwIceoryx2.Message RmwIceoryx2.Rmw
open RmwIceoryx2.Library.Execution

/-- One `rmw_context_t` and everything that is created through it; `none` is left of what was
destroyed. -/
structure World (M : Type) where
  context : RmwContext
  impls : Impls
  nodes : List (Option Node)
  guardConditions : List (Option Runtime.GuardCondition)
  publishers : List (Option (RmwPublisher M))
  subscriptions : List (Option (RmwSubscription M))
  waitSets : List (Option (RmwWaitSet × ImplPtr))
  stale : Bool

def World.initial (M : Type) : World M := ⟨zeroContext, [], [], [], [], [], [], false⟩

inductive GuardConditionRef
  | created (guardCondition : ℕ)
  | ofNode (node : ℕ)
  deriving DecidableEq, Repr

inductive Op (M : Type)
  | init (env : InitAnswers) (options : Option RmwInitOptions)
  | shutdown
  | fini
  | createNode (env : NodeEnv) (name ns : Option String)
  | createGuardCondition (env : GuardConditionEnv)
  | createPublisher (env : EndpointAnswers) (mw : CreationAnswers) (node : ℕ)
    (typeSupport : Option (TypeSupport M)) (topicName : Option String) (qos : Option QosProfile)
    (options : Option Unit)
  | createSubscription (env : EndpointAnswers) (mw : SubscriberCreationAnswers) (node : ℕ)
    (typeSupport : Option (TypeSupport M)) (topicName : Option String) (qos : Option QosProfile)
    (options : Option Unit)
  | createWaitSet (env : WaitSetEnv)
  | wait (mw : Middleware) (waitSet : ℕ) (arrays : WaitArrays ℕ GuardConditionRef)
    (waitTimeout : Option RmwTime)
  | destroyNode (node : ℕ)
  | destroyGuardCondition (guardCondition : ℕ)
  | destroyPublisher (node publisher : ℕ)
  | destroySubscription (node subscription : ℕ)
  | destroyWaitSet (waitSet : ℕ)

variable {M : Type}

def World.withContext (w : World M) (out : ContextOutcome) : World M :=
  { w with context := out.context.getD w.context, impls := out.impls }

/-- A node's handle, which leads to the context as it is at the time of the call. -/
def World.node (w : World M) (node : ℕ) : Option RmwNode :=
  (w.nodes[node]?).join.map fun _ ↦
    ⟨rmwGetImplementationIdentifier, some (w.context.impl.map fun _ ↦ ()), some ()⟩

def World.subscriberName (w : World M) (subscription : ℕ) : Option String :=
  (w.subscriptions[subscription]?).join.bind fun s ↦ s.data.map (·.serviceName)

def World.guardConditionName (w : World M) : GuardConditionRef → Option String
  | .created guardCondition => (w.guardConditions[guardCondition]?).join.map (·.serviceName)
  | .ofNode node => (w.nodes[node]?).join.map (·.graphGuardCondition.serviceName)

def World.resolve (w : World M) (a : WaitArrays ℕ GuardConditionRef) : WaitArrays String String :=
  { a with
    subscriptions := a.subscriptions.map fun es ↦ es.map fun e ↦ e.bind w.subscriberName
    guardConditions := a.guardConditions.map fun es ↦ es.map fun e ↦ e.bind w.guardConditionName }

def World.waited (w : World M) (waitSet : ℕ) (context : ImplPtr)
    (out : WaitOutcome String String) : World M :=
  match out.waitSet with
  | some h => { w with waitSets := w.waitSets.set waitSet (some (h, context)) }
  | none => w

/-- One call, unless it uses a context that was destroyed. -/
def step (w : World M) : Op M → Except Stale (World M)
  | .init env options => .ok (w.withContext (rmwInit env w.impls options (some w.context)))
  | .shutdown => .ok (w.withContext (rmwShutdown w.impls (some w.context)))
  | .fini => .ok (w.withContext (rmwContextFini w.impls (some w.context)))
  | .createNode env name ns =>
    match rmwCreateNode env w.impls (some w.context) name ns with
    | .error stale => .error stale
    | .ok (impls, .error _) => .ok { w with impls := impls }
    | .ok (impls, .ok (_, node)) => .ok { w with impls := impls, nodes := w.nodes ++ [some node] }
  | .createGuardCondition env =>
    match rmwCreateGuardCondition env w.impls (some w.context) with
    | .error stale => .error stale
    | .ok (impls, .error _) => .ok { w with impls := impls }
    | .ok (impls, .ok (_, guardCondition)) =>
      .ok { w with impls := impls, guardConditions := w.guardConditions ++ [some guardCondition] }
  | .createPublisher env mw node typeSupport topicName qos options =>
    match rmwCreatePublisher env mw (w.node node) typeSupport topicName qos options with
    | .error _ => .ok w
    | .ok publisher => .ok { w with publishers := w.publishers ++ [some publisher] }
  | .createSubscription env mw node typeSupport topicName qos options =>
    match rmwCreateSubscription env mw (w.node node) typeSupport topicName qos options with
    | .error _ => .ok w
    | .ok subscription => .ok { w with subscriptions := w.subscriptions ++ [some subscription] }
  | .createWaitSet env =>
    match rmwCreateWaitSet env w.impls (some w.context) with
    | .error stale => .error stale
    | .ok (.error _) => .ok w
    | .ok (.ok (waitSet, context)) =>
      .ok { w with
        waitSets := w.waitSets ++
          [some (⟨rmwGetImplementationIdentifier, some waitSet⟩, context)] }
  | .wait mw waitSet arrays waitTimeout =>
    match (w.waitSets[waitSet]?).join with
    -- A null wait set is refused.
    | none => .ok w
    | some (h, context) =>
      match rmwWaitThrough w.impls context mw (some h) (w.resolve arrays) waitTimeout with
      | .error stale => .error stale
      | .ok out => .ok (w.waited waitSet context out)
  | .destroyNode node =>
    match rmwDestroyNode (w.node node) with
    | .error _ => .ok w
    | .ok () => .ok { w with nodes := w.nodes.set node none }
  | .destroyGuardCondition guardCondition =>
    match rmwDestroyGuardCondition ((w.guardConditions[guardCondition]?).join.map
        fun _ ↦ rmwGetImplementationIdentifier) with
    | .error _ => .ok w
    | .ok () => .ok { w with guardConditions := w.guardConditions.set guardCondition none }
  | .destroyPublisher node publisher =>
    match rmwDestroyPublisher (w.node node) (w.publishers[publisher]?).join with
    | .error _ => .ok w
    | .ok () => .ok { w with publishers := w.publishers.set publisher none }
  | .destroySubscription node subscription =>
    match rmwDestroySubscription (w.node node) (w.subscriptions[subscription]?).join with
    | .error _ => .ok w
    | .ok () => .ok { w with subscriptions := w.subscriptions.set subscription none }
  | .destroyWaitSet waitSet =>
    match rmwDestroyWaitSet ((w.waitSets[waitSet]?).join.map Prod.fst) with
    | .error _ => .ok w
    | .ok () => .ok { w with waitSets := w.waitSets.set waitSet none }

def exec (w : World M) (op : Op M) : World M :=
  match step w op with
  | .error _ => { w with stale := true }
  | .ok w' => w'

/-- A wait on a wait set whose context was destroyed creates no listener. -/
def ContextUnneeded (w : World M) : Op M → Prop
  | .wait _ waitSet arrays _ => ∀ h context, (w.waitSets[waitSet]?).join = some (h, context) →
      (∀ c, deref w.impls context ≠ .ok c) → NeedsNoContext h (w.resolve arrays)
  | _ => True

/-- No call used a context that was destroyed, and `rmw_context_t` leads to none. -/
structure Sound (w : World M) : Prop where
  lives : Lives w.impls w.context
  unused : w.stale = false

variable {w w' : World M} {op : Op M}

theorem lives_withContext {out : ContextOutcome} (h : out.Keeps) :
    Lives (w.withContext out).impls (w.withContext out).context := by
  obtain ⟨context, hcontext, hlives⟩ := h
  simpa only [World.withContext, hcontext, Option.getD_some] using hlives

theorem lives_waited (h : Lives w.impls w.context) (waitSet : ℕ) (context : ImplPtr)
    (out : WaitOutcome String String) :
    Lives (w.waited waitSet context out).impls (w.waited waitSet context out).context ∧
      (w.waited waitSet context out).stale = w.stale := by
  rw [World.waited]
  split <;> exact ⟨h, rfl⟩

/-- What a step that uses no destroyed context makes of the world. -/
def Steps (w : World M) (op : Op M) : Prop :=
  ∃ w', step w op = .ok w' ∧ Lives w'.impls w'.context ∧ w'.stale = w.stale

theorem step_createNode (h : Lives w.impls w.context) (env : NodeEnv) (name ns : Option String) :
    Steps w (.createNode env name ns) := by
  obtain ⟨impls', r, hcreate, hlives⟩ := rmwCreateNode_lives h env name ns
  simp only [Steps, step, hcreate]
  cases r <;> exact ⟨_, rfl, hlives, rfl⟩

theorem step_createGuardCondition (h : Lives w.impls w.context) (env : GuardConditionEnv) :
    Steps w (.createGuardCondition env) := by
  obtain ⟨impls', r, hcreate, hlives⟩ := rmwCreateGuardCondition_lives h env
  simp only [Steps, step, hcreate]
  cases r <;> exact ⟨_, rfl, hlives, rfl⟩

theorem step_createWaitSet (h : Lives w.impls w.context) (env : WaitSetEnv) :
    Steps w (.createWaitSet env) := by
  obtain ⟨r, hcreate⟩ := rmwCreateWaitSet_lives h env
  simp only [Steps, step, hcreate]
  cases r <;> exact ⟨_, rfl, h, rfl⟩

theorem contextUnneeded_wait {mw : Middleware} {waitSet : ℕ}
    {arrays : WaitArrays ℕ GuardConditionRef} {waitTimeout : Option RmwTime} {handle : RmwWaitSet}
    {context : ImplPtr} (hentry : (w.waitSets[waitSet]?).join = some (handle, context)) :
    ContextUnneeded w (.wait mw waitSet arrays waitTimeout) ↔
      ((∀ c, deref w.impls context ≠ .ok c) → NeedsNoContext handle (w.resolve arrays)) := by
  rw [ContextUnneeded, hentry]
  constructor
  · intro h
    exact h handle context rfl
  · intro h _ _ heq
    cases heq
    exact h

theorem step_wait (h : Lives w.impls w.context) (mw : Middleware) (waitSet : ℕ)
    (arrays : WaitArrays ℕ GuardConditionRef) (waitTimeout : Option RmwTime) :
    (ContextUnneeded w (.wait mw waitSet arrays waitTimeout) ∧
      Steps w (.wait mw waitSet arrays waitTimeout)) ∨
    (¬ ContextUnneeded w (.wait mw waitSet arrays waitTimeout) ∧
      ∃ stale, step w (.wait mw waitSet arrays waitTimeout) = .error stale) := by
  cases hentry : (w.waitSets[waitSet]?).join with
  | none =>
    refine Or.inl ⟨?_, w, by simp only [step, hentry], h, rfl⟩
    intro handle context hsome
    rw [hentry] at hsome
    cases hsome
  | some entry =>
    obtain ⟨handle, context⟩ := entry
    rw [contextUnneeded_wait hentry]
    simp only [Steps, step, hentry]
    cases hderef : deref w.impls context with
    | ok c =>
      rw [rmwWaitThrough_live hderef]
      exact Or.inl ⟨fun hdead ↦ absurd rfl (hdead c), _, rfl, lives_waited h _ _ _⟩
    | error stale =>
      have hdead : ∀ c, (Except.error stale : Except Stale Context) ≠ .ok c :=
        fun c hc ↦ by cases hc
      rw [forall_prop_of_true hdead, ← rmwWaitThrough_stale_iff hderef mw handle waitTimeout]
      cases rmwWaitThrough w.impls context mw (some handle) (w.resolve arrays) waitTimeout with
      | ok out => exact Or.inl ⟨⟨out, rfl⟩, _, rfl, lives_waited h _ _ _⟩
      | error stale' =>
        refine Or.inr ⟨fun hok ↦ ?_, _, rfl⟩
        obtain ⟨out, hout⟩ := hok
        cases hout

theorem step_cases (h : Lives w.impls w.context) (op : Op M) :
    (ContextUnneeded w op ∧ Steps w op) ∨
      (¬ ContextUnneeded w op ∧ ∃ stale, step w op = .error stale) := by
  cases op with
  | wait mw waitSet arrays waitTimeout => exact step_wait h mw waitSet arrays waitTimeout
  | init env options =>
    exact Or.inl ⟨trivial, _, rfl, lives_withContext (rmwInit_keeps h env options), rfl⟩
  | shutdown => exact Or.inl ⟨trivial, _, rfl, lives_withContext (rmwShutdown_keeps h), rfl⟩
  | fini => exact Or.inl ⟨trivial, _, rfl, lives_withContext (rmwContextFini_keeps h), rfl⟩
  | createNode env name ns => exact Or.inl ⟨trivial, step_createNode h env name ns⟩
  | createGuardCondition env => exact Or.inl ⟨trivial, step_createGuardCondition h env⟩
  | createWaitSet env => exact Or.inl ⟨trivial, step_createWaitSet h env⟩
  -- The calls that are left look at the context's pointer at most.
  | createPublisher | createSubscription | destroyNode | destroyGuardCondition | destroyPublisher
  | destroySubscription | destroyWaitSet =>
    refine Or.inl ⟨trivial, ?_⟩
    simp only [Steps, step]
    split <;> exact ⟨_, rfl, h, rfl⟩

theorem exec_lives (h : Lives w.impls w.context) :
    Lives (exec w op).impls (exec w op).context := by
  obtain ⟨-, w', hstep, hlives, -⟩ | ⟨-, stale, hstep⟩ := step_cases h op
  · simpa only [exec, hstep] using hlives
  · simpa only [exec, hstep] using h

theorem sound_exec_iff (h : Sound w) : Sound (exec w op) ↔ ContextUnneeded w op := by
  obtain ⟨hneeds, w', hstep, hlives, hsame⟩ | ⟨hneeds, stale, hstep⟩ := step_cases h.lives op
  · refine iff_of_true ?_ hneeds
    simp only [exec, hstep]
    exact ⟨hlives, hsame.trans h.unused⟩
  · refine iff_of_false ?_ hneeds
    simp only [exec, hstep]
    intro hsound
    cases hsound.unused

/-- No call of a run uses a context that was destroyed exactly if every wait on a wait set without
a context gets by without a new listener. -/
theorem no_stale_access_iff (ops : List (Op M)) :
    (∀ pre, pre <+: ops → (run exec (.initial M) pre).stale = false) ↔
      Admissible exec ContextUnneeded (.initial M) ops := by
  have hinitial : Sound (.initial M) := ⟨fun ptr hptr ↦ (by cases hptr), rfl⟩
  have hall : ∀ pre : List (Op M), Admissible exec (fun _ _ ↦ True) (.initial M) pre :=
    fun _ ↦ admissible_of_forall _ fun _ _ _ ↦ trivial
  have hlives : ∀ pre : List (Op M), Lives (run exec (.initial M) pre).impls
      (run exec (.initial M) pre).context := fun pre ↦
    invariant (I := fun w : World M ↦ Lives w.impls w.context) (fun _ _ hw _ ↦ exec_lives hw)
      hinitial.lives (hall pre)
  have hruns : (∀ pre, pre <+: ops → Sound (run exec (.initial M) pre)) ↔
      Admissible exec ContextUnneeded (.initial M) ops :=
    always_iff (fun _ _ hw _ ↦ sound_exec_iff hw) hinitial (hall ops)
  rw [← hruns]
  constructor
  · intro h pre hpre
    exact ⟨hlives pre, h pre hpre⟩
  · intro h pre hpre
    exact (h pre hpre).unused

def options : RmwInitOptions := ⟨1, some rmwGetImplementationIdentifier, some "", some ()⟩

def lateWait : List (Op Unit) :=
  [.init .granting (some options), .createWaitSet ⟨true, true, .ok ()⟩,
    .createGuardCondition ⟨some 0, true, .granting⟩, .shutdown,
    .wait (.offering [] []) 0 ⟨none, some [some (.created 0)], none, none, none⟩ none]

theorem late_wait_uses_context :
    (run exec (.initial Unit) lateWait).stale = true ∧
      ¬ ∀ pre, pre <+: lateWait → (run exec (.initial Unit) pre).stale = false := by
  have hend : (run exec (.initial Unit) lateWait).stale = true := rfl
  refine ⟨hend, fun hall ↦ ?_⟩
  rw [hall _ List.prefix_rfl] at hend
  cases hend

end RmwIceoryx2.System.ContextLifetime
