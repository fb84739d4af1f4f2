import Mathlib.Data.Set.Lattice
import RmwIceoryx2.Library.Simulation

namespace RmwIceoryx2.Library

open Execution

variable {K : Type}

/-- Signals that stay raised until someone who waits for them is told. A signal can be raised once
it was waited for. -/
@[ext] structure SignalBoard (K : Type) where
  known : Set K
  pending : Set K
  waiting : Option (Set K)
  reported : Option (Set K)
  pending_known : pending ⊆ known

namespace SignalBoard

def initial (K : Type) : SignalBoard K := ⟨∅, ∅, none, none, Set.empty_subset _⟩

inductive Step (K : Type)
  | notified (k : K)
  | entered (ks : Set K)
  | refused
  | left

def step (b : SignalBoard K) : Step K → SignalBoard K
  | .notified k =>
    { b with
      pending := b.pending ∪ ({k} ∩ b.known)
      pending_known := Set.union_subset b.pending_known Set.inter_subset_right }
  | .entered ks =>
    { b with
      known := b.known ∪ ks
      waiting := some ks
      pending_known := b.pending_known.trans Set.subset_union_left }
  | .refused => { b with reported := some ∅ }
  | .left =>
    match b.waiting with
    | none => b
    | some ks =>
      { b with
        pending := b.pending \ ks
        waiting := none
        reported := some (ks ∩ b.pending)
        pending_known := Set.sdiff_subset.trans b.pending_known }

def Reports (k : K) (b : SignalBoard K) (s : Step K) : Prop :=
  s = .left ∧ k ∈ b.pending ∧ ∃ ks, b.waiting = some ks ∧ k ∈ ks

def Notifies (k : K) (_ : SignalBoard K) (s : Step K) : Prop := s = .notified k

variable {b : SignalBoard K} {k : K}

theorem pending_left_of_reports {s : Step K} (h : Reports k b s) : k ∉ (b.step s).pending := by
  obtain ⟨rfl, -, ks, hks, hk⟩ := h
  simp only [step, hks, Set.mem_sdiff, hk, not_true_eq_false, and_false, not_false_eq_true]

/-- A signal is raised by a notification, once it is known, and stays so until it is reported. -/
theorem pending_step {s : Step K} (h : k ∈ (b.step s).pending) :
    (s = .notified k ∧ k ∈ b.known) ∨ k ∈ b.pending := by
  cases s with
  | notified k' =>
    rcases h with h | h
    · exact Or.inr h
    · exact Or.inl ⟨congrArg Step.notified h.1.symm, h.2⟩
  | entered ks => exact Or.inr h
  | refused => exact Or.inr h
  | left =>
    simp only [step] at h
    split at h
    · exact Or.inr h
    · exact Or.inr h.1

theorem pending_of_notified (h : k ∈ b.known) : k ∈ (b.step (.notified k)).pending :=
  Or.inr ⟨rfl, h⟩

theorem pending_lasts (h : k ∈ b.pending) {s : Step K} (hno : ¬ Reports k b s) :
    k ∈ (b.step s).pending := by
  cases s with
  | notified k' => exact Or.inl h
  | entered ks => exact h
  | refused => exact h
  | left =>
    cases hwaiting : b.waiting with
    | none =>
      simp only [step, hwaiting]
      exact h
    | some ks =>
      simp only [step, hwaiting]
      exact ⟨h, fun hk ↦ hno ⟨rfl, h, ks, hwaiting, hk⟩⟩

theorem known_step {s : Step K} :
    k ∈ (b.step s).known ↔ k ∈ b.known ∨ ∃ ks, s = .entered ks ∧ k ∈ ks := by
  cases s with
  | notified k' => simp [step]
  | entered ks => simp [step]
  | refused => simp [step]
  | left =>
    simp only [step]
    split <;> simp

open scoped Classical in
/-- No signal is told more often than it was raised. -/
theorem reports_le_notifications (k : K) (b : SignalBoard K) (steps : List (Step K)) :
    tally step (Reports k) b steps + (if k ∈ (run step b steps).pending then 1 else 0) ≤
      tally step (Notifies k) b steps + (if k ∈ b.pending then 1 else 0) := by
  refine tally_add_le (fun b : SignalBoard K ↦ if k ∈ b.pending then 1 else 0) (fun b s ↦ ?_) b
    steps
  by_cases hr : Reports k b s
  · have hleft := pending_left_of_reports hr
    have hhere := hr.2.1
    simp only [hr, hleft, hhere, ↓reduceIte]
    omega
  · simp only [hr, ↓reduceIte, Nat.zero_add]
    by_cases hp : k ∈ (b.step s).pending
    · rcases pending_step hp with ⟨hs, -⟩ | hk
      · have hn : Notifies k b s := hs
        simp only [hp, hn, ↓reduceIte]
        omega
      · simp only [hp, hk, ↓reduceIte]
        omega
    · simp only [hp, ↓reduceIte]
      omega

end SignalBoard

end RmwIceoryx2.Library
