import Mathlib.Data.List.TakeWhile
import Mathlib.Data.List.Perm.Basic

namespace RmwIceoryx2.Library.Interruption

variable {α β : Type} {p : α → Bool} {l : List α}

def Uninterrupted (p : α → Bool) (l : List α) : Prop :=
  ∀ pre a post, l = pre ++ a :: post → p a = false → ∀ b ∈ post, p b = false

theorem uninterrupted_cons_pos {a : α} (ha : p a = true) :
    Uninterrupted p (a :: l) ↔ Uninterrupted p l := by
  constructor
  · intro h pre b post hl
    exact h (a :: pre) b post (by rw [hl, List.cons_append])
  · intro h pre b post hl hb
    cases pre with
    | nil =>
      rw [List.nil_append, List.cons.injEq] at hl
      rw [← hl.1, ha] at hb
      cases hb
    | cons c pre =>
      rw [List.cons_append, List.cons.injEq] at hl
      exact h pre b post hl.2 hb

theorem uninterrupted_cons_neg {a : α} (ha : p a = false) :
    Uninterrupted p (a :: l) ↔ ∀ b ∈ l, p b = false := by
  constructor
  · intro h
    exact h [] a l rfl ha
  · intro h pre b post hl hb c hc
    cases pre with
    | nil =>
      rw [List.nil_append, List.cons.injEq] at hl
      exact h c (hl.2 ▸ hc)
    | cons d pre =>
      rw [List.cons_append, List.cons.injEq] at hl
      exact h c (hl.2 ▸ List.mem_append_right _ (List.mem_cons_of_mem _ hc))

theorem length_takeWhile_filterMap {f : α → Option β} (hf : ∀ a ∈ l, (f a).isSome = p a) :
    ((l.takeWhile p).filterMap f).length ≤ (l.filterMap f).length ∧
      (((l.takeWhile p).filterMap f).length = (l.filterMap f).length ↔ Uninterrupted p l) := by
  induction l with
  | nil => simp [Uninterrupted]
  | cons a l ih =>
    obtain ⟨ha, hl⟩ := List.forall_mem_cons.mp hf
    obtain ⟨hle, hiff⟩ := ih hl
    cases hp : p a with
    | true =>
      obtain ⟨b, hb⟩ := Option.isSome_iff_exists.mp (ha.trans hp)
      rw [List.takeWhile_cons_of_pos hp, List.filterMap_cons_some hb, List.filterMap_cons_some hb,
        List.length_cons, List.length_cons, uninterrupted_cons_pos hp, ← hiff]
      omega
    | false =>
      have hnone : f a = none := by
        rw [← Option.isNone_iff_eq_none, ← Option.not_isSome, ha, hp]
        rfl
      rw [List.takeWhile_cons_of_neg (by simp [hp]), List.filterMap_cons_none hnone,
        uninterrupted_cons_neg hp, List.filterMap_nil, List.length_nil]
      refine ⟨Nat.zero_le _, ?_⟩
      rw [eq_comm, List.length_eq_zero_iff, List.filterMap_eq_nil_iff]
      refine forall₂_congr (fun b hb ↦ ?_)
      rw [← hl b hb, ← Option.isNone_iff_eq_none, ← Option.not_isSome, Bool.not_eq_true']

/-- A run that ends at its first failure of `p` finds all there is exactly when it is not
interrupted. -/
theorem filterMap_takeWhile_perm_iff {f : α → Option β} {found : List β}
    (hf : ∀ a ∈ l, (f a).isSome = p a) (hfound : (l.filterMap f).Perm found) :
    ((l.takeWhile p).filterMap f).Perm found ↔ Uninterrupted p l := by
  obtain ⟨-, hiff⟩ := length_takeWhile_filterMap hf
  have hsub : List.Sublist ((l.takeWhile p).filterMap f) (l.filterMap f) :=
    (List.takeWhile_sublist p).filterMap f
  rw [← hiff]
  constructor
  · intro h
    rw [h.length_eq, hfound.length_eq]
  · intro h
    rw [hsub.eq_of_length h]
    exact hfound

end RmwIceoryx2.Library.Interruption
