import RmwIceoryx2.Library.Handshake
import RmwIceoryx2.Library.Simulation
import Mathlib.Order.Filter.AtTopBot.ModEq

namespace RmwIceoryx2.Library

open Filter

namespace Execution

variable {σ α β : Type} {exec : σ → α → σ} {s : σ} {ops : ℕ → α}

def upTo (ops : ℕ → α) (n : ℕ) : List α := (List.range n).map ops

theorem upTo_succ (ops : ℕ → α) (n : ℕ) : upTo ops (n + 1) = upTo ops n ++ [ops n] := by
  rw [upTo, List.range_succ, List.map_append, List.map_singleton, upTo]

def stateAt (exec : σ → α → σ) (s : σ) (ops : ℕ → α) (n : ℕ) : σ := run exec s (upTo ops n)

theorem stateAt_succ (n : ℕ) :
    stateAt exec s ops (n + 1) = exec (stateAt exec s ops n) (ops n) := by
  rw [stateAt, upTo_succ, run_snoc, stateAt]

theorem stateAt_invariant {ok : σ → α → Prop} {I : σ → Prop}
    (hstep : ∀ s a, I s → ok s a → I (exec s a)) (hs : I s)
    (hok : ∀ n, ok (stateAt exec s ops n) (ops n)) (n : ℕ) : I (stateAt exec s ops n) := by
  induction n with
  | zero => exact hs
  | succ n ih =>
    rw [stateAt_succ]
    exact hstep _ _ ih (hok n)

theorem admissible_upTo {ok : σ → α → Prop} (hok : ∀ n, ok (stateAt exec s ops n) (ops n)) (n : ℕ) :
    Admissible exec ok s (upTo ops n) := by
  induction n with
  | zero => trivial
  | succ n ih =>
    rw [upTo_succ, admissible_snoc]
    exact ⟨ih, hok n⟩

theorem trace_upTo_succ (label : σ → α → Option β) (n : ℕ) :
    trace exec label s (upTo ops (n + 1)) =
      trace exec label s (upTo ops n) ++ (label (stateAt exec s ops n) (ops n)).toList := by
  rw [upTo_succ, trace_snoc, stateAt]

def cyclic (a : α) (period : List α) (n : ℕ) : α :=
  (a :: period).getD (n % (a :: period).length) a

theorem stateAt_cyclic {a : α} {period : List α} (hround : run exec s (a :: period) = s) (n : ℕ) :
    stateAt exec s (cyclic a period) n =
      run exec s ((a :: period).take (n % (a :: period).length)) := by
  have hpos : 0 < (a :: period).length := Nat.succ_pos _
  induction n with
  | zero =>
    rw [Nat.zero_mod, List.take_zero]
    rfl
  | succ n ih =>
    have hlt := Nat.mod_lt n hpos
    have htake : (a :: period).take (n % (a :: period).length) ++ [cyclic a period n] =
        (a :: period).take (n % (a :: period).length + 1) := by
      rw [List.take_add_one, cyclic, List.getD_eq_getElem?_getD, List.getElem?_eq_getElem hlt,
        Option.getD_some, Option.toList_some]
    rw [stateAt_succ, ih, ← run_snoc exec, htake, ← Nat.mod_add_mod]
    by_cases hlast : n % (a :: period).length + 1 = (a :: period).length
    · rw [hlast, Nat.mod_self, List.take_length, List.take_zero, hround, run_nil]
    · rw [Nat.mod_eq_of_lt (by omega : n % (a :: period).length + 1 < (a :: period).length)]

/-- Some steps first, and then those of an infinite run. -/
def after (first : List α) (ops : ℕ → α) (n : ℕ) : α := first[n]?.getD (ops (n - first.length))

theorem stateAt_take (first : List α) (ops : ℕ → α) {n : ℕ} (hn : n ≤ first.length) :
    stateAt exec s (after first ops) n = run exec s (first.take n) := by
  induction n with
  | zero => rw [List.take_zero, stateAt, upTo, List.range_zero, List.map_nil]
  | succ n ih =>
    have hget : first[n]? = some (first.get ⟨n, hn⟩) := List.getElem?_eq_getElem hn
    rw [stateAt_succ, ih (by omega), List.take_add_one, after, hget, Option.getD_some,
      Option.toList_some, run_snoc]

theorem stateAt_after (first : List α) (ops : ℕ → α) (n : ℕ) :
    stateAt exec s (after first ops) (first.length + n) =
      stateAt exec (run exec s first) ops n := by
  induction n with
  | zero =>
    rw [Nat.add_zero, stateAt_take first ops (Nat.le_refl _), List.take_length]
    rfl
  | succ n ih =>
    have hop : after first ops (first.length + n) = ops n := by
      rw [after, List.getElem?_eq_none (by omega), Option.getD_none, Nat.add_sub_cancel_left]
    rw [← Nat.add_assoc, stateAt_succ, stateAt_succ, ih, hop]

end Execution

/-- Whenever the one holds, the other holds then or later. -/
def LeadsTo (p q : ℕ → Prop) : Prop := ∀ n, p n → ∃ m, n ≤ m ∧ q m

variable {p q r help : ℕ → Prop}

theorem LeadsTo.trans (h : LeadsTo p q) (h' : LeadsTo q r) : LeadsTo p r := by
  intro n hn
  obtain ⟨m, hm, hq⟩ := h n hn
  obtain ⟨k, hk, hr⟩ := h' m hq
  exact ⟨k, hm.trans hk, hr⟩

/-- What lasts until the other holds, and is helped to it again and again, leads to it. -/
theorem leadsTo_of_frequently (hlasts : ∀ n, p n → p (n + 1) ∨ q n ∨ q (n + 1))
    (hoften : ∃ᶠ n in atTop, help n) (hhelps : ∀ n, p n → help n → q n ∨ q (n + 1)) :
    LeadsTo p q := by
  intro n hn
  by_contra hnever
  have hnot : ∀ m, n ≤ m → ¬ q m := fun m hm hq ↦ hnever ⟨m, hm, hq⟩
  have hstays : ∀ m, n ≤ m → p m := by
    intro m hm
    induction m, hm using Nat.le_induction with
    | base => exact hn
    | succ m hm ih =>
      rcases hlasts m ih with h | h | h
      · exact h
      · exact absurd h (hnot m hm)
      · exact absurd h (hnot (m + 1) (by omega))
  obtain ⟨m, hm, hhelp⟩ := frequently_atTop.mp hoften n
  rcases hhelps m (hstays m hm) hhelp with h | h
  · exact hnot m hm h
  · exact hnot (m + 1) (by omega) h

theorem next_of_frequently (h : ∃ᶠ n in atTop, q n) (n : ℕ) :
    ∃ m, n < m ∧ q m ∧ ∀ j, n < j → j < m → ¬ q j := by
  classical
  have hex : ∃ m, n < m ∧ q m := by
    obtain ⟨m, hm, hq⟩ := frequently_atTop.mp h (n + 1)
    exact ⟨m, by omega, hq⟩
  obtain ⟨hlt, hq⟩ := Nat.find_spec hex
  refine ⟨_, hlt, hq, fun j hj hless hqj ↦ ?_⟩
  exact Nat.find_min hex hless ⟨hj, hqj⟩

theorem lasts_until (hlasts : ∀ n, p n → ¬ q n → p (n + 1)) {n m : ℕ} (hle : n ≤ m) (hn : p n)
    (hno : ∀ j, n ≤ j → j < m → ¬ q j) : p m := by
  induction m, hle using Nat.le_induction with
  | base => exact hn
  | succ m hm ih =>
    apply hlasts m
    · exact ih fun j hj hless ↦ hno j hj (by omega)
    · exact hno m hm (by omega)

/-- What begins with a cause only and ends with `q` goes back to a cause after the last `q`. -/
theorem goes_back (hstep : ∀ n, p (n + 1) → r n ∨ (p n ∧ ¬ q n)) (hzero : ¬ p 0) {m : ℕ}
    (hm : p m) : ∃ n, n < m ∧ r n ∧ ∀ j, n < j → j < m → ¬ q j := by
  induction m with
  | zero => exact absurd hm hzero
  | succ m ih =>
    rcases hstep m hm with hr | ⟨hp, hq⟩
    · exact ⟨m, by omega, hr, fun j hj hless ↦ by omega⟩
    · obtain ⟨n, hn, hr, hno⟩ := ih hp
      refine ⟨n, by omega, hr, fun j hj hless ↦ ?_⟩
      by_cases hlast : j = m
      · rw [hlast]
        exact hq
      · exact hno j hj (by omega)

namespace Handshake

variable {σ ι : Type} {h : Handshake σ ι} {states : ℕ → σ} {count : ℕ → ℕ}

/-- Every sender finishes its announcement, and the receiver looks for the flag and collects, again
and again; `count` is how many things were collected. -/
structure Fair (h : Handshake σ ι) (states : ℕ → σ) (count : ℕ → ℕ) : Prop where
  announces : ∀ i, ∃ᶠ n in atTop, h.announcing i (states n) → h.raised (states (n + 1))
  looks : ∃ᶠ n in atTop, h.raised (states n) →
    h.collecting (states n) ∨ h.collecting (states (n + 1))
  collects : ∃ᶠ n in atTop, h.collecting (states n) → h.filled (states n) →
    count n < count (n + 1)

theorem filled_leadsTo_collecting (hordered : ∀ n, h.Ordered (states n) (states (n + 1)))
    (hattended : h.Attended (states 0)) (hfair : h.Fair states count) :
    LeadsTo (fun n ↦ h.filled (states n)) (fun n ↦ h.collecting (states n)) := by
  have hraised : LeadsTo (fun n ↦ h.raised (states n)) (fun n ↦ h.collecting (states n)) :=
    leadsTo_of_frequently (fun n hn ↦ ((hordered n).lowers hn).imp_right Or.inr) hfair.looks
      fun n hn hlook ↦ hlook hn
  have hannounced : ∀ i, LeadsTo (fun n ↦ h.announcing i (states n))
      (fun n ↦ h.raised (states n)) := fun i ↦
    leadsTo_of_frequently (fun n hn ↦ ((hordered n).announces i hn).imp_right Or.inr)
      (hfair.announces i) fun n hn hraise ↦ Or.inr (hraise hn)
  have hall : ∀ n, h.Attended (states n) := by
    intro n
    induction n with
    | zero => exact hattended
    | succ n ih => exact (hordered n).attended ih
  intro n hn
  rcases hall n hn with hr | ⟨i, hi⟩ | hc
  · exact hraised n hr
  · exact (hannounced i).trans hraised n hi
  · exact ⟨n, Nat.le_refl n, hc⟩

theorem filled_leadsTo_collected (hordered : ∀ n, h.Ordered (states n) (states (n + 1)))
    (hattended : h.Attended (states 0)) (hfair : h.Fair states count)
    (hcount : ∀ n, count n ≤ count (n + 1))
    (hkeeps : ∀ n, h.filled (states n) → count (n + 1) = count n → h.filled (states (n + 1)))
    {n : ℕ} (hn : h.filled (states n)) : ∃ m, n ≤ m ∧ count n < count m := by
  by_contra hnever
  have hsame : ∀ m, n ≤ m → h.filled (states m) ∧ count m = count n := by
    intro m hm
    induction m, hm using Nat.le_induction with
    | base => exact ⟨hn, rfl⟩
    | succ m hm ih =>
      have hle := hcount m
      have hnot : ¬ count n < count (m + 1) := fun hlt ↦ hnever ⟨m + 1, by omega, hlt⟩
      have heq : count (m + 1) = count m := by omega
      exact ⟨hkeeps m ih.1 heq, heq.trans ih.2⟩
  obtain ⟨m, hm, hcollecting⟩ :=
    filled_leadsTo_collecting hordered hattended hfair n hn
  have hlasts : ∀ k, m ≤ k → h.collecting (states k) := by
    intro k hk
    induction k, hk using Nat.le_induction with
    | base => exact hcollecting
    | succ k hk ih =>
      rcases (hordered k).collects ih with h' | hempty
      · exact h'
      · exact absurd (hsame (k + 1) (by omega)).1 hempty
  obtain ⟨k, hk, hcollect⟩ := frequently_atTop.mp hfair.collects m
  have hlt := hcollect (hlasts k hk) (hsame k (by omega)).1
  have hbefore := (hsame k (by omega)).2
  have hafter := (hsame (k + 1) (by omega)).2
  omega

end Handshake

end RmwIceoryx2.Library
