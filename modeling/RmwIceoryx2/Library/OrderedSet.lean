import Mathlib.Order.Defs.Unbundled
import Mathlib.Order.Defs.LinearOrder
import Mathlib.Order.Lattice
import Mathlib.Data.List.Basic

namespace RmwIceoryx2.Library

variable {α : Type} {lt : α → α → Prop}

/-- A set that is ordered by a comparison and listed in that order. -/
structure OrderedSet (lt : α → α → Prop) where
  toList : List α
  sorted : toList.Pairwise lt

namespace OrderedSet

def empty (lt : α → α → Prop) : OrderedSet lt := ⟨[], .nil⟩

instance : Membership α (OrderedSet lt) := ⟨fun s a ↦ a ∈ s.toList⟩

theorem mem_def {s : OrderedSet lt} {a : α} : a ∈ s ↔ a ∈ s.toList := Iff.rfl

@[simp] theorem not_mem_empty (a : α) : a ∉ empty lt := List.not_mem_nil

variable [DecidableRel lt]

variable (lt) in
/-- The place of an element is found by comparisons alone; an equivalent one keeps its place. -/
def insertList (a : α) : List α → List α
  | [] => [a]
  | b :: l => if lt a b then a :: b :: l else if lt b a then b :: insertList a l else b :: l

variable [IsStrictTotalOrder α lt]

theorem mem_insertList {a x : α} {l : List α} :
    x ∈ insertList lt a l ↔ x = a ∨ x ∈ l := by
  induction l with
  | nil => simp [insertList]
  | cons b l ih =>
    simp only [insertList]
    split
    · rw [List.mem_cons]
    · rename_i hab
      split
      · rw [List.mem_cons, ih, List.mem_cons]
        exact or_left_comm
      · rename_i hba
        -- neither comes first, so they are equal
        obtain rfl : a = b := (trichotomous_of lt a b).resolve_left hab |>.resolve_right hba
        simp

theorem insertList_sorted {a : α} {l : List α} (h : l.Pairwise lt) :
    (insertList lt a l).Pairwise lt := by
  induction l with
  | nil => simp [insertList]
  | cons b l ih =>
    obtain ⟨hb, hl⟩ := List.pairwise_cons.mp h
    simp only [insertList]
    split
    · rename_i hab
      refine List.pairwise_cons.mpr ⟨fun x hx ↦ ?_, h⟩
      rcases List.mem_cons.mp hx with rfl | hx
      · exact hab
      · exact IsTrans.trans _ _ _ hab (hb x hx)
    · split
      · rename_i hba
        refine List.pairwise_cons.mpr ⟨fun x hx ↦ ?_, ih hl⟩
        rcases mem_insertList.mp hx with rfl | hx
        · exact hba
        · exact hb x hx
      · exact h

def emplace (s : OrderedSet lt) (a : α) : OrderedSet lt :=
  ⟨insertList lt a s.toList, insertList_sorted s.sorted⟩

theorem mem_emplace {s : OrderedSet lt} {a x : α} : x ∈ s.emplace a ↔ x = a ∨ x ∈ s :=
  mem_insertList

end OrderedSet

section Lexicographic

variable {β : Type} [LinearOrder β] {f g : α → β} {a b : α}

def Lexicographic (f g : α → β) (a b : α) : Prop := if f a ≠ f b then f a < f b else g a < g b

instance : DecidableRel (Lexicographic f g) := fun a b ↦ by unfold Lexicographic; infer_instance

theorem lexicographic_iff :
    Lexicographic f g a b ↔ f a < f b ∨ (f a = f b ∧ g a < g b) := by
  by_cases h : f a = f b <;> simp [Lexicographic, h]

/-- Two keys that together determine an element order the elements. -/
theorem lexicographic_isStrictTotalOrder (hkeys : ∀ a b, f a = f b → g a = g b → a = b) :
    IsStrictTotalOrder α (Lexicographic f g) where
  trichotomous a b hab hba := by
    rw [lexicographic_iff] at hab hba
    have hf : f a = f b :=
      le_antisymm (not_lt.mp fun h ↦ hba (Or.inl h)) (not_lt.mp fun h ↦ hab (Or.inl h))
    have hg : g a = g b :=
      le_antisymm (not_lt.mp fun h ↦ hba (Or.inr ⟨hf.symm, h⟩))
        (not_lt.mp fun h ↦ hab (Or.inr ⟨hf, h⟩))
    exact hkeys a b hf hg
  irrefl a h := by
    rcases lexicographic_iff.mp h with h | ⟨-, h⟩
    · exact lt_irrefl _ h
    · exact lt_irrefl _ h
  trans a b c hab hbc := by
    rcases lexicographic_iff.mp hab with hab | ⟨hab, hab'⟩ <;>
      rcases lexicographic_iff.mp hbc with hbc | ⟨hbc, hbc'⟩
    · exact lexicographic_iff.mpr (Or.inl (hab.trans hbc))
    · exact lexicographic_iff.mpr (Or.inl (hbc ▸ hab))
    · exact lexicographic_iff.mpr (Or.inl (hab ▸ hbc))
    · exact lexicographic_iff.mpr (Or.inr ⟨hab.trans hbc, hab'.trans hbc'⟩)

end Lexicographic

end RmwIceoryx2.Library
