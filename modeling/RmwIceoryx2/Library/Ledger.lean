import Mathlib.Data.Multiset.OrderedMonoid

namespace RmwIceoryx2.Library

variable {ρ : Type}

/-- Which resources are held, each as often as it was acquired, and how many releases there were of
something that was not. -/
structure Ledger (ρ : Type) where
  held : Multiset ρ
  faults : ℕ

namespace Ledger

def empty (ρ : Type) : Ledger ρ := ⟨0, 0⟩

def acquire (l : Ledger ρ) (r : ρ) : Ledger ρ := { l with held := r ::ₘ l.held }

/-- Resources held, less the faults. -/
def balance (l : Ledger ρ) : ℤ := l.held.card - l.faults

@[ext] theorem ext {l l' : Ledger ρ} (hheld : l.held = l'.held) (hfaults : l.faults = l'.faults) :
    l = l' := by
  cases l
  cases l'
  simp_all

theorem acquire_comm (l : Ledger ρ) (r s : ρ) : (l.acquire r).acquire s = (l.acquire s).acquire r :=
  ext (Multiset.cons_swap s r l.held) rfl

@[simp] theorem balance_acquire (l : Ledger ρ) (r : ρ) : (l.acquire r).balance = l.balance + 1 := by
  simp only [balance, acquire, Multiset.card_cons]
  omega

variable [DecidableEq ρ]

def release (l : Ledger ρ) (r : ρ) : Ledger ρ :=
  if r ∈ l.held then { l with held := l.held.erase r } else { l with faults := l.faults + 1 }

theorem release_of_mem {l : Ledger ρ} {r : ρ} (h : r ∈ l.held) :
    l.release r = { l with held := l.held.erase r } := if_pos h

@[simp] theorem release_acquire (l : Ledger ρ) (r : ρ) : (l.acquire r).release r = l := by
  rw [release_of_mem (Multiset.mem_cons_self r l.held)]
  exact ext (Multiset.erase_cons_head r l.held) rfl

@[simp] theorem release_acquire_acquire (l : Ledger ρ) (r s : ρ) :
    ((l.acquire r).acquire s).release r = l.acquire s := by
  rw [acquire_comm, release_acquire]

/-- A release takes one from the balance, whether it is a fault or not. -/
@[simp] theorem balance_release (l : Ledger ρ) (r : ρ) : (l.release r).balance = l.balance - 1 := by
  by_cases h : r ∈ l.held
  · have hcard := Multiset.card_erase_add_one h
    simp only [release_of_mem h, balance]
    omega
  · simp only [release, if_neg h, balance]
    omega

/-- The resources held are those that someone owns and those that were lost, and there was no
fault. -/
structure Accounts (l : Ledger ρ) (owned lost : Multiset ρ) : Prop where
  held : l.held = owned + lost
  sound : l.faults = 0

variable {l : Ledger ρ} {owned lost : Multiset ρ}

omit [DecidableEq ρ] in
theorem accounts_empty : (empty ρ).Accounts 0 0 := ⟨rfl, rfl⟩

omit [DecidableEq ρ] in
theorem Accounts.acquire (h : l.Accounts owned lost) (r : ρ) :
    (l.acquire r).Accounts (r ::ₘ owned) lost :=
  ⟨by rw [Multiset.cons_add, ← h.held]; rfl, h.sound⟩

omit [DecidableEq ρ] in
theorem Accounts.lose {r : ρ} (h : l.Accounts (r ::ₘ owned) lost) :
    l.Accounts owned (r ::ₘ lost) :=
  ⟨by rw [h.held, Multiset.cons_add, Multiset.add_cons], h.sound⟩

theorem Accounts.release {r : ρ} (h : l.Accounts (r ::ₘ owned) lost) :
    (l.release r).Accounts owned lost := by
  have hheld : l.held = r ::ₘ (owned + lost) := by rw [h.held, Multiset.cons_add]
  rw [release_of_mem (by rw [hheld]; exact Multiset.mem_cons_self r _)]
  exact ⟨by rw [hheld, Multiset.erase_cons_head], h.sound⟩

end Ledger

theorem sum_map_set {α β : Type} [AddCommMonoid β] (f : α → β) {l : List α} {i : ℕ} {a : α}
    (h : l[i]? = some a) (b : α) :
    f a + ((l.set i b).map f).sum = f b + (l.map f).sum := by
  induction l generalizing i with
  | nil => cases h
  | cons c l ih =>
    cases i with
    | zero =>
      obtain rfl := Option.some_inj.mp h
      simp only [List.set_cons_zero, List.map_cons, List.sum_cons]
      rw [add_left_comm]
    | succ i =>
      simp only [List.set_cons_succ, List.map_cons, List.sum_cons]
      rw [add_left_comm, ih h, add_left_comm]

end RmwIceoryx2.Library
