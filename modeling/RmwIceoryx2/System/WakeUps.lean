import RmwIceoryx2.Library.Progress
import RmwIceoryx2.System.WaitSets
import Mathlib.Tactic.IntervalCases

namespace RmwIceoryx2.System.WaitSets

open RmwIceoryx2.Common RmwIceoryx2.Runtime RmwIceoryx2.Runtime.WaitSet RmwIceoryx2.Rmw
open RmwIceoryx2.Library RmwIceoryx2.Library.Execution Filter

variable {P : Type}

/-- A wait of the wait set begins, with an entry of the service in its arrays. -/
def Enters (i : ℕ) (k : Service) (op : WaitSetsOp P) : Prop :=
  ∃ mw a waitTimeout, op = .waitEnter i mw a waitTimeout ∧
    (containsNull a.guardConditions || containsNull a.subscriptions) = false ∧ k ∈ listed a

/-- A wait of the wait set ends that had an entry of the service in its arrays. -/
def Leaves (i : ℕ) (k : Service) (f : WaitSets P) (op : WaitSetsOp P) : Prop :=
  ∃ mw c, op = .waitLeave i mw ∧ (f.members i).waiting = some c ∧ k ∈ listed c.arrays

variable {f : WaitSets P} {op : WaitSetsOp P} {i : ℕ} {k : Service}

theorem enters_iff : Enters i k op ↔ ∃ ks, signalAt i op = some (.entered ks) ∧ k ∈ ks := by
  constructor
  · intro h
    obtain ⟨mw, a, waitTimeout, rfl, hnull, hk⟩ := h
    refine ⟨listed a, ?_, hk⟩
    rw [signalAt, WaitSetsOp.seenBy, if_pos rfl, Option.bind_some, Op.signal, hnull]
    rfl
  · intro h
    obtain ⟨ks, hs, hk⟩ := h
    obtain ⟨k', hk', -⟩ | ⟨mw, a, waitTimeout, rfl, hs'⟩ | ⟨mw, -, hs'⟩ := signalAt_cases hs
    · cases hk'
    · split at hs'
      · cases hs'
      · rename_i hnull
        cases hs'
        exact ⟨mw, a, waitTimeout, rfl, Bool.eq_false_of_not_eq_true hnull, hk⟩
    · cases hs'

theorem leaves_iff : Leaves i k f op ↔ signalAt i op = some .left ∧
    ∃ ks, (f.world i).board.waiting = some ks ∧ k ∈ ks := by
  constructor
  · intro h
    obtain ⟨mw, c, rfl, hc, hk⟩ := h
    refine ⟨signalAt_waitLeave i mw, listed c.arrays, ?_, hk⟩
    simp only [World.board, world, hc, Option.map_some]
  · intro h
    obtain ⟨hs, ks, hks, hk⟩ := h
    obtain ⟨k', hk', -⟩ | ⟨mw, a, waitTimeout, -, hs'⟩ | ⟨mw, rfl, -⟩ := signalAt_cases hs
    · cases hk'
    · split at hs' <;> cases hs'
    · obtain ⟨c, hc, rfl⟩ := Option.map_eq_some_iff.mp hks
      exact ⟨mw, c, rfl, hc, hk⟩

/-- The wait set has a listener for the service. -/
def Knows (i : ℕ) (k : Service) (f : WaitSets P) : Prop := k ∈ (f.world i).board.known

/-- That listener holds an event. -/
def Pending (i : ℕ) (k : Service) (f : WaitSets P) : Prop := k ∈ (f.world i).board.pending

theorem knows_initial : ¬ Knows i k (initial P) := by
  rw [Knows, board_initial]
  exact id

theorem pending_initial : ¬ Pending i k (initial P) := by
  rw [Pending, board_initial]
  exact id

section Step

variable (hf : WellFormed (f.world i)) (hok : Ideal f op)

include hf hok

theorem board_exec : ((exec f op).world i).board =
    run SignalBoard.step (f.world i).board (signalAt i op).toList :=
  (board_refines i).view_exec f op ⟨trivial, hf⟩ hok

theorem reportsOn_iff_leaves : ReportsOn i k f op ↔ Leaves i k f op ∧ Pending i k f := by
  rw [reportsOn_iff f op hf hok, leaves_iff]
  constructor
  · intro h
    obtain ⟨s, hs, rfl, hpending, hks⟩ := h
    exact ⟨⟨hs, hks⟩, hpending⟩
  · intro h
    obtain ⟨⟨hs, hks⟩, hpending⟩ := h
    exact ⟨.left, hs, rfl, hpending, hks⟩

theorem knows_exec : Knows i k (exec f op) ↔ Enters i k op ∨ Knows i k f := by
  rw [Knows, Knows, board_exec hf hok, enters_iff]
  cases hs : signalAt i op with
  | none => simp
  | some s =>
    rw [Option.toList_some, run_cons, run_nil, SignalBoard.known_step, or_comm]
    simp

theorem pending_notified (hknows : Knows i k f) (hnotifies : Notifies k op) :
    Pending i k (exec f op) := by
  rw [Pending, board_exec hf hok, (notifies_iff i op).mp hnotifies]
  exact SignalBoard.pending_of_notified hknows

theorem pending_lasts (hpending : Pending i k f) (hno : ¬ Leaves i k f op) :
    Pending i k (exec f op) := by
  rw [Pending, board_exec hf hok]
  cases hs : signalAt i op with
  | none => exact hpending
  | some s =>
    apply SignalBoard.pending_lasts hpending
    intro hreports
    obtain ⟨rfl, -, hks⟩ := hreports
    exact hno (leaves_iff.mpr ⟨hs, hks⟩)

theorem pending_exec (h : Pending i k (exec f op)) :
    (Knows i k f ∧ Notifies k op) ∨ (Pending i k f ∧ ¬ Leaves i k f op) := by
  by_cases hleaves : Leaves i k f op
  · obtain ⟨hs, ks, hks, hk⟩ := leaves_iff.mp hleaves
    rw [Pending, board_exec hf hok, hs, Option.toList_some, run_cons, run_nil] at h
    simp only [SignalBoard.step, hks] at h
    exact absurd hk h.2
  · rw [Pending, board_exec hf hok] at h
    cases hs : signalAt i op with
    | none =>
      rw [hs] at h
      exact Or.inr ⟨h, hleaves⟩
    | some s =>
      rw [hs, Option.toList_some, run_cons, run_nil] at h
      rcases SignalBoard.pending_step h with ⟨rfl, hknows⟩ | hpending
      · exact Or.inl ⟨hknows, (notifies_iff i op).mpr hs⟩
      · exact Or.inr ⟨hpending, hleaves⟩

end Step

variable {ops : ℕ → WaitSetsOp P}

theorem wellFormed_stateAt (hops : ∀ n, Ideal (stateAt exec (initial P) ops n) (ops n)) (i n : ℕ) :
    WellFormed ((stateAt exec (initial P) ops n).world i) :=
  (stateAt_invariant (board_refines i).inv_exec ⟨trivial, wellFormed_world_initial i⟩ hops n).2

theorem knows_stateAt (hops : ∀ n, Ideal (stateAt exec (initial P) ops n) (ops n)) {n : ℕ} :
    Knows i k (stateAt exec (initial P) ops n) ↔ ∃ l, l < n ∧ Enters i k (ops l) := by
  induction n with
  | zero => exact iff_of_false knows_initial fun ⟨l, hl, _⟩ ↦ absurd hl (Nat.not_lt_zero l)
  | succ n ih =>
    rw [stateAt_succ, knows_exec (wellFormed_stateAt hops i n) (hops n), ih]
    simp only [Nat.lt_succ_iff_lt_or_eq, or_and_right, exists_or, exists_eq_left]
    exact or_comm

/-- No notification of a service is lost on a wait set that has waited for the service, and none is
reported that was not there: the first of its waits for the service to end after the notification
reports it, and what such a wait reports was notified since the last of them ended. -/
theorem every_signal_reported
    (hops : ∀ n, Ideal (stateAt exec (initial P) ops n) (ops n))
    (hfair : ∃ᶠ n in atTop, Leaves i k (stateAt exec (initial P) ops n) (ops n)) :
    (∀ l n, l < n → Enters i k (ops l) → Notifies k (ops n) → ∃ m, n < m ∧
      ReportsOn i k (stateAt exec (initial P) ops m) (ops m) ∧
        ∀ j, n < j → j < m → ¬ Leaves i k (stateAt exec (initial P) ops j) (ops j)) ∧
    ∀ m, ReportsOn i k (stateAt exec (initial P) ops m) (ops m) → ∃ l n, l < n ∧ n < m ∧
      Enters i k (ops l) ∧ Notifies k (ops n) ∧
        ∀ j, n < j → j < m → ¬ Leaves i k (stateAt exec (initial P) ops j) (ops j) := by
  have hwell := wellFormed_stateAt hops i
  constructor
  · intro l n hl henters hnotifies
    obtain ⟨m, hm, hleaves, hfirst⟩ := next_of_frequently hfair n
    have hraised : Pending i k (stateAt exec (initial P) ops (n + 1)) := by
      rw [stateAt_succ]
      exact pending_notified (hwell n) (hops n) ((knows_stateAt hops).mpr ⟨l, hl, henters⟩)
        hnotifies
    have hlasts : ∀ j, Pending i k (stateAt exec (initial P) ops j) →
        ¬ Leaves i k (stateAt exec (initial P) ops j) (ops j) →
          Pending i k (stateAt exec (initial P) ops (j + 1)) := by
      intro j hj hno
      rw [stateAt_succ]
      exact pending_lasts (hwell j) (hops j) hj hno
    have hpending : Pending i k (stateAt exec (initial P) ops m) :=
      lasts_until hlasts hm hraised fun j hj hless ↦ hfirst j hj hless
    exact ⟨m, hm, (reportsOn_iff_leaves (hwell m) (hops m)).mpr ⟨hleaves, hpending⟩, hfirst⟩
  · intro m hreports
    have hpending := ((reportsOn_iff_leaves (hwell m) (hops m)).mp hreports).2
    have hstep : ∀ n, Pending i k (stateAt exec (initial P) ops (n + 1)) →
        (Knows i k (stateAt exec (initial P) ops n) ∧ Notifies k (ops n)) ∨
          (Pending i k (stateAt exec (initial P) ops n) ∧
            ¬ Leaves i k (stateAt exec (initial P) ops n) (ops n)) := by
      intro n hn
      rw [stateAt_succ] at hn
      exact pending_exec (hwell n) (hops n) hn
    obtain ⟨n, hn, ⟨hknows, hnotifies⟩, hno⟩ :=
      goes_back (p := fun n ↦ Pending i k (stateAt exec (initial P) ops n)) hstep pending_initial
        hpending
    obtain ⟨l, hl, henters⟩ := (knows_stateAt hops).mp hknows
    exact ⟨l, n, hl, hn, henters, hnotifies, hno⟩

section Hello

def helloKey : Service := (.subscriber, Names.topic "/chatter")

def enterHello (mw : Middleware) : WaitSetsOp String :=
  .waitEnter 0 mw chatterArrays (some ⟨1, 0⟩)

/-- While a wait set blocks, a message is published, and the wait returns. -/
def helloRound : List (WaitSetsOp String) := [.publish "/chatter" "hello", .waitLeave 0 laterWait]

/-- Only the first wait needs a listener. -/
def helloOps : ℕ → WaitSetsOp String :=
  after (enterHello firstWait :: helloRound) (cyclic (enterHello laterWait) helloRound)

def helloState : WaitSets String := run exec (initial String) (enterHello firstWait :: helloRound)

theorem helloRound_returns :
    run exec helloState (enterHello laterWait :: helloRound) = helloState := by
  show WaitSets.mk _ _ = WaitSets.mk _ _
  rw [WaitSets.mk.injEq]
  refine ⟨rfl, funext fun i ↦ ?_⟩
  cases i with
  | zero => rfl
  | succ i => rfl

theorem helloOps_cases (n : ℕ) : ∃ f mw,
    ((f = initial String ∧ mw = firstWait) ∨ (f = helloState ∧ mw = laterWait)) ∧
      stateAt exec (initial String) helloOps n =
        run exec f ((enterHello mw :: helloRound).take (n % 3)) ∧
      helloOps n = (enterHello mw :: helloRound).getD (n % 3) (enterHello mw) := by
  by_cases hfirst : n < 3
  · refine ⟨_, _, Or.inl ⟨rfl, rfl⟩, ?_, ?_⟩
    · rw [Nat.mod_eq_of_lt hfirst]
      exact stateAt_take _ _ (by exact hfirst.le)
    · interval_cases n <;> rfl
  · obtain ⟨m, rfl⟩ : ∃ m, n = 3 + m := ⟨n - 3, by omega⟩
    refine ⟨_, _, Or.inr ⟨rfl, rfl⟩, ?_, ?_⟩
    · rw [Nat.add_mod_left]
      exact (stateAt_after (enterHello firstWait :: helloRound) _ m).trans
        (stateAt_cyclic helloRound_returns m)
    · have hlast : (enterHello firstWait :: helloRound)[3 + m]? = none :=
        List.getElem?_eq_none (Nat.le_add_right 3 m)
      rw [helloOps, after, hlast, Nat.add_mod_left]
      exact congrArg (cyclic (enterHello laterWait) helloRound) (Nat.add_sub_cancel_left 3 m)

theorem canListen_laterWait (mw : Middleware) :
    ∀ e ∈ chatterArrays.entries, CanListen mw (helloState.world 0).waitSet e.waitableType
      e.serviceName := by
  intro e he
  obtain rfl := List.mem_singleton.mp he
  exact Or.inl (by decide)

theorem helloOps_ideal (n : ℕ) :
    Ideal (stateAt exec (initial String) helloOps n) (helloOps n) := by
  obtain ⟨f, mw, hf, hstate, hop⟩ := helloOps_cases n
  rw [hstate, hop]
  have hlt : n % 3 < 3 := Nat.mod_lt n (by omega)
  generalize n % 3 = j at hlt
  interval_cases j
  · rcases hf with ⟨rfl, rfl⟩ | ⟨rfl, rfl⟩
    · exact ideal_waitEnter ⟨rfl, fresh_offering_one _ _ _, canListen_firstWait _⟩
    · exact ideal_waitEnter ⟨rfl, fresh_offering_none _ _, canListen_laterWait _⟩
  · exact ideal_publish _ _ _
  · refine ideal_waitLeave ⟨fun _ ↦ rfl, fun _ ↦ rfl, fun _ ↦ rfl, fun _ ↦ rfl, fun c hc ↦ ?_⟩
    rcases hf with ⟨rfl, rfl⟩ | ⟨rfl, rfl⟩
    all_goals
      cases hc
      exact handsOverReady_of_one ⟨.subscriber, 0, 0⟩ ⟨Names.topic "/chatter", ⟨7, true⟩⟩
        (by decide) (by decide) (by decide)

theorem helloOps_leaves : ∃ᶠ n in atTop,
    Leaves 0 helloKey (stateAt exec (initial String) helloOps n) (helloOps n) := by
  refine (Nat.frequently_mod_eq (by omega : 2 < 3)).mono fun n hn ↦ ?_
  obtain ⟨f, mw, hf, hstate, hop⟩ := helloOps_cases n
  rw [hstate, hop, hn]
  refine ⟨laterWait, ⟨chatterArrays, some ⟨1, 0⟩⟩, rfl, ?_, _, List.mem_singleton_self _, rfl⟩
  rcases hf with ⟨rfl, rfl⟩ | ⟨rfl, rfl⟩ <;> rfl

theorem every_signal_reported_hello :
    (∀ l n, l < n → Enters 0 helloKey (helloOps l) → Notifies helloKey (helloOps n) → ∃ m, n < m ∧
      ReportsOn 0 helloKey (stateAt exec (initial String) helloOps m) (helloOps m) ∧
        ∀ j, n < j → j < m →
          ¬ Leaves 0 helloKey (stateAt exec (initial String) helloOps j) (helloOps j)) ∧
    ∀ m, ReportsOn 0 helloKey (stateAt exec (initial String) helloOps m) (helloOps m) →
      ∃ l n, l < n ∧ n < m ∧ Enters 0 helloKey (helloOps l) ∧ Notifies helloKey (helloOps n) ∧
        ∀ j, n < j → j < m →
          ¬ Leaves 0 helloKey (stateAt exec (initial String) helloOps j) (helloOps j) :=
  every_signal_reported helloOps_ideal helloOps_leaves

end Hello

end RmwIceoryx2.System.WaitSets
