import Mathlib.Data.List.Basic
import Mathlib.Algebra.Ring.Nat

namespace RmwIceoryx2.Library

/-- The addresses at which a value may lie are the multiples of its alignment. -/
structure ByteAlignment where
  val : ℕ
  powerOfTwo : ∃ k, val = 2 ^ k

namespace ByteAlignment

variable {a b : ByteAlignment} {n : ℕ}

def byte : ByteAlignment := ⟨1, 0, rfl⟩

theorem dvd_iff_le : a.val ∣ b.val ↔ a.val ≤ b.val := by
  obtain ⟨i, hi⟩ := a.powerOfTwo
  obtain ⟨j, hj⟩ := b.powerOfTwo
  rw [hi, hj, Nat.pow_dvd_pow_iff_le_right (by omega), Nat.pow_le_pow_iff_right (by omega)]

instance : Max ByteAlignment := ⟨fun a b ↦ if a.val ≤ b.val then b else a⟩

theorem val_max : (max a b).val = max a.val b.val := by
  by_cases h : a.val ≤ b.val
  · rw [Nat.max_eq_right h]
    exact congrArg val (if_pos h)
  · rw [Nat.max_eq_left (Nat.le_of_not_le h)]
    exact congrArg val (if_neg h)

theorem max_dvd_iff : (max a b).val ∣ n ↔ a.val ∣ n ∧ b.val ∣ n := by
  rw [val_max]
  rcases Nat.le_total a.val b.val with h | h
  · rw [Nat.max_eq_right h]
    exact ⟨fun hb ↦ ⟨Nat.dvd_trans (dvd_iff_le.mpr h) hb, hb⟩, And.right⟩
  · rw [Nat.max_eq_left h]
    exact ⟨fun ha ↦ ⟨ha, Nat.dvd_trans (dvd_iff_le.mpr h) ha⟩, And.left⟩

def ofMembers (members : List ByteAlignment) : ByteAlignment := members.foldr max byte

theorem ofMembers_dvd_iff {members : List ByteAlignment} :
    (ofMembers members).val ∣ n ↔ ∀ a ∈ members, a.val ∣ n := by
  induction members with
  | nil => exact ⟨fun _ a ha ↦ (List.not_mem_nil ha).elim, fun _ ↦ Nat.one_dvd n⟩
  | cons a members ih =>
    rw [List.forall_mem_cons, ← ih]
    exact max_dvd_iff

theorem forall_aligned_iff {requested : ℕ} :
    (∀ address, requested ∣ address → a.val ∣ address) ↔ a.val ∣ requested :=
  ⟨fun h ↦ h requested (Nat.dvd_refl requested), fun h _ haddress ↦ Nat.dvd_trans h haddress⟩

end ByteAlignment

end RmwIceoryx2.Library
