import Mathlib.Data.List.Chain
import Mathlib.Data.String.Basic

namespace RmwIceoryx2.Library.Separator

variable {α : Type} {c : α} {a a' b b' : List α}

/-- Two texts with the same separator are equal up to its first occurrence and after it. -/
theorem eq_of_before (ha : c ∉ a) (ha' : c ∉ a') (h : a ++ c :: b = a' ++ c :: b') :
    a = a' ∧ b = b' := by
  induction a generalizing a' with
  | nil =>
    cases a' with
    | nil => exact ⟨rfl, (List.cons.inj h).2⟩
    | cons d a' => exact absurd (List.mem_cons.mpr (Or.inl (List.cons.inj h).1)) ha'
  | cons d a ih =>
    cases a' with
    | nil => exact absurd (List.mem_cons.mpr (Or.inl (List.cons.inj h).1.symm)) ha
    | cons d' a' =>
      obtain ⟨rfl, hrest⟩ := List.cons.inj h
      obtain ⟨rfl, hb⟩ := ih (List.not_mem_of_not_mem_cons ha) (List.not_mem_of_not_mem_cons ha')
        hrest
      exact ⟨rfl, hb⟩

theorem eq_of_cut (ha : c ∉ a) (ha' : c ∉ a') (hb : ∀ d ∈ b.head?, d = c)
    (hb' : ∀ d ∈ b'.head?, d = c) (h : a ++ b = a' ++ b') : a = a' ∧ b = b' := by
  cases b with
  | nil =>
    cases b' with
    | nil => exact ⟨by simpa using h, rfl⟩
    | cons d b' =>
      obtain rfl := hb' d rfl
      rw [List.append_nil] at h
      exact absurd (h ▸ List.mem_append_right a' List.mem_cons_self) ha
  | cons d b =>
    obtain rfl := hb d rfl
    cases b' with
    | nil =>
      rw [List.append_nil] at h
      exact absurd (h ▸ List.mem_append_right a List.mem_cons_self) ha'
    | cons d' b' =>
      obtain rfl := hb' d' rfl
      obtain ⟨rfl, hrest⟩ := eq_of_before ha ha' h
      exact ⟨rfl, by rw [hrest]⟩

section Search

variable {marker rest s : List α} {x y : α}

/-- Nowhere does `y` follow `x`, as it does at the start of a marker. -/
def Apart (x y : α) (s : List α) : Prop := s.IsChain fun d e ↦ ¬ (d = x ∧ e = y)

theorem apart_append (ha : Apart x y a) (hb : y ∉ b) : Apart x y (a ++ b) := by
  have happart : Apart x y b := by
    induction b with
    | nil => exact .nil
    | cons d b ih =>
      refine (ih (List.not_mem_of_not_mem_cons hb)).cons fun e he hde ↦ ?_
      exact hb (List.mem_cons_of_mem _ (hde.2 ▸ List.mem_of_mem_head? he))
  refine ha.append happart fun d _ e he hde ↦ ?_
  exact hb (hde.2 ▸ List.mem_of_mem_head? he)

variable [DecidableEq α]

def find (marker : List α) : List α → Option ℕ
  | [] => if marker = [] then some 0 else none
  | d :: s => if marker.isPrefixOf (d :: s) then some 0 else (find marker s).map (· + 1)

def findLastOf (c : α) : List α → Option ℕ
  | [] => none
  | d :: s =>
    match findLastOf c s with
    | some i => some (i + 1)
    | none => if d = c then some 0 else none

instance : Decidable (Apart x y s) := inferInstanceAs (Decidable (s.IsChain _))

theorem find_none (h : Apart x y s) : find (x :: y :: rest) s = none := by
  induction s with
  | nil => rfl
  | cons d s ih =>
    have hlater := ih h.tail
    cases s with
    | nil => simp [find]
    | cons e s =>
      have hfirst : ¬ (d = x ∧ e = y) := (List.isChain_cons_cons.mp h).1
      have hhere : ¬ (x :: y :: rest).isPrefixOf (d :: e :: s) = true := by
        simp only [List.isPrefixOf, Bool.and_eq_true, beq_iff_eq, not_and]
        intro hx hy
        exact absurd ⟨hx.symm, hy.symm⟩ hfirst
      rw [find, if_neg hhere, hlater, Option.map_none]

theorem find_marker (h : Apart x y (a ++ [x])) :
    find (x :: y :: rest) (a ++ x :: y :: rest ++ b) = some a.length := by
  induction a with
  | nil => simp [find]
  | cons d a ih =>
    have hlater := ih h.tail
    have hhere : ¬ (x :: y :: rest).isPrefixOf (d :: (a ++ x :: y :: rest ++ b)) = true := by
      cases a with
      | nil =>
        have hfirst : ¬ (d = x ∧ x = y) := (List.isChain_cons_cons.mp h).1
        simp only [List.nil_append, List.cons_append, List.isPrefixOf, Bool.and_eq_true,
          beq_iff_eq, not_and]
        intro hx hy
        exact absurd ⟨hx.symm, hy.symm⟩ hfirst
      | cons e a =>
        have hfirst : ¬ (d = x ∧ e = y) := (List.isChain_cons_cons.mp h).1
        simp only [List.cons_append, List.isPrefixOf, Bool.and_eq_true, beq_iff_eq, not_and]
        intro hx hy
        exact absurd ⟨hx.symm, hy.symm⟩ hfirst
    rw [List.cons_append, List.cons_append, find, if_neg hhere, hlater, Option.map_some,
      List.length_cons]

theorem find_eq_some {i : ℕ} (h : find marker s = some i) :
    s = s.take i ++ marker ++ s.drop (i + marker.length) := by
  induction s generalizing i with
  | nil =>
    simp only [find, Option.ite_none_right_eq_some, Option.some_inj] at h
    obtain ⟨rfl, rfl⟩ := h
    rfl
  | cons d s ih =>
    rw [find] at h
    split at h
    · rename_i hprefix
      obtain rfl := Option.some_inj.mp h
      obtain ⟨b, hb⟩ := List.isPrefixOf_iff_prefix.mp hprefix
      rw [← hb, Nat.zero_add, List.drop_left, List.take_zero, List.nil_append]
    · obtain ⟨j, hj, rfl⟩ := Option.map_eq_some_iff.mp h
      rw [List.take_succ_cons, Nat.add_right_comm, List.drop_succ_cons, List.cons_append,
        List.cons_append, ← ih hj]

theorem findLastOf_none (h : c ∉ b) : findLastOf c b = none := by
  induction b with
  | nil => rfl
  | cons d b ih =>
    rw [findLastOf, ih (List.not_mem_of_not_mem_cons h)]
    exact if_neg fun hd ↦ h (List.mem_cons.mpr (Or.inl hd.symm))

theorem findLastOf_eq_none (h : findLastOf c s = none) : c ∉ s := by
  induction s with
  | nil => exact List.not_mem_nil
  | cons d s ih =>
    rw [findLastOf] at h
    split at h
    · cases h
    · rename_i hlater
      split at h
      · cases h
      · rename_i hd
        exact List.not_mem_cons_of_ne_of_not_mem (Ne.symm hd) (ih hlater)

theorem findLastOf_eq_some {i : ℕ} (h : findLastOf c s = some i) :
    s = s.take i ++ c :: s.drop (i + 1) ∧ c ∉ s.drop (i + 1) := by
  induction s generalizing i with
  | nil => cases h
  | cons d s ih =>
    rw [findLastOf] at h
    split at h
    · rename_i j hlater
      obtain rfl := Option.some_inj.mp h
      obtain ⟨hs, hno⟩ := ih hlater
      refine ⟨?_, hno⟩
      rw [List.take_succ_cons, List.drop_succ_cons, List.cons_append, ← hs]
    · rename_i hlater
      split at h
      · rename_i hd
        obtain rfl := Option.some_inj.mp h
        exact ⟨by rw [hd]; rfl, findLastOf_eq_none hlater⟩
      · cases h

theorem findLastOf_last (h : c ∉ b) : findLastOf c (a ++ c :: b) = some a.length := by
  induction a with
  | nil => simp [findLastOf, findLastOf_none h]
  | cons d a ih => rw [List.cons_append, findLastOf, ih, List.length_cons]

end Search

theorem toString_nat_inj {m n : ℕ} (h : (toString m).toList = (toString n).toList) : m = n := by
  rw [Nat.toString_eq_repr, Nat.toString_eq_repr, Nat.toList_repr, Nat.toList_repr] at h
  rw [← Nat.ofDigitChars_ten_toDigits (n := m), h, Nat.ofDigitChars_ten_toDigits]

theorem isDigit_of_mem_toString {n : ℕ} {d : Char} (h : d ∈ (toString n).toList) : d.isDigit := by
  rw [Nat.toString_eq_repr, Nat.toList_repr] at h
  exact Nat.isDigit_of_mem_toDigits (by decide) (by decide) h

theorem slash_not_mem_toString (n : ℕ) : '/' ∉ (toString n).toList :=
  fun h ↦ absurd (isDigit_of_mem_toString h) (by decide)

/-- Two numbers are kept apart by a separator that begins with no digit. -/
theorem numbered_inj {start separator : String} {rest : List Char}
    (hsep : separator.toList = '/' :: rest) {m m' n n' : ℕ}
    (h : start ++ toString m ++ separator ++ toString n =
      start ++ toString m' ++ separator ++ toString n') : m = m' ∧ n = n' := by
  have hchars := congrArg String.toList h
  simp only [String.toList_append, List.append_assoc, hsep, List.cons_append] at hchars
  obtain ⟨hm, hrest⟩ := eq_of_before (slash_not_mem_toString m) (slash_not_mem_toString m')
    (List.append_cancel_left hchars)
  exact ⟨toString_nat_inj hm, toString_nat_inj (List.append_cancel_left hrest)⟩

theorem append_left_inj {start s t : String} (h : start ++ s = start ++ t) : s = t := by
  have hchars := congrArg String.toList h
  simp only [String.toList_append] at hchars
  exact String.toList_inj.mp (List.append_cancel_left hchars)

end RmwIceoryx2.Library.Separator
