import Mathlib.Data.List.Nodup
import Mathlib.Data.List.Induction

namespace RmwIceoryx2.Library.FirstOccurrence

variable {α β κ ι : Type} [DecidableEq κ] [DecidableEq ι] (key : α → κ)

/-- Append `a` unless an element with the same key is already there. -/
def pushNew (l : List α) (a : α) : List α :=
  if l.any (fun b ↦ key b = key a) then l else l ++ [a]

/-- The elements that are the first with their key, in order. -/
def firsts (l : List α) : List α := l.foldl (pushNew key) []

variable {key}

theorem pushNew_of_exists {l : List α} {a b : α} (hb : b ∈ l) (h : key b = key a) :
    pushNew key l a = l := if_pos (List.any_eq_true.mpr ⟨b, hb, by simpa using h⟩)

theorem pushNew_of_new {l : List α} {a : α} (h : ∀ b ∈ l, key b ≠ key a) :
    pushNew key l a = l ++ [a] := if_neg (by simpa using h)

theorem subset_pushNew (l : List α) (a : α) : l ⊆ pushNew key l a := by
  unfold pushNew
  split
  · exact List.Subset.refl _
  · exact List.subset_append_left _ _

theorem mem_pushNew {l : List α} {a b : α} :
    b ∈ pushNew key l a ↔ b ∈ l ∨ (b = a ∧ ∀ c ∈ l, key c ≠ key a) := by
  by_cases h : ∃ c ∈ l, key c = key a
  · obtain ⟨c, hc, he⟩ := h
    rw [pushNew_of_exists hc he]
    exact ⟨Or.inl, fun hb ↦ hb.resolve_right (fun hn ↦ hn.2 c hc he)⟩
  · have hnew : ∀ c ∈ l, key c ≠ key a := fun c hc he ↦ h ⟨c, hc, he⟩
    rw [pushNew_of_new hnew, List.mem_append, List.mem_singleton]
    exact ⟨fun hb ↦ hb.imp_right (⟨·, hnew⟩), fun hb ↦ hb.imp_right And.left⟩

theorem pushNew_keys_nodup {l : List α} (h : (l.map key).Nodup) (a : α) :
    ((pushNew key l a).map key).Nodup := by
  by_cases hk : ∃ c ∈ l, key c = key a
  · obtain ⟨c, hc, he⟩ := hk
    rwa [pushNew_of_exists hc he]
  · have hnew : ∀ c ∈ l, key c ≠ key a := fun c hc he ↦ hk ⟨c, hc, he⟩
    rw [pushNew_of_new hnew, List.map_append, List.map_singleton]
    refine List.Nodup.append h (List.nodup_singleton _) (fun k hl hs ↦ ?_)
    obtain ⟨c, hc, rfl⟩ := List.mem_map.mp hl
    exact hnew c hc (List.mem_singleton.mp hs)

theorem pushNew_map {key' : β → ι} (f : α → β) (l : List α) (a : α)
    (h : ∀ b ∈ l, key' (f b) = key' (f a) ↔ key b = key a) :
    (pushNew key l a).map f = pushNew key' (l.map f) (f a) := by
  by_cases hk : ∃ c ∈ l, key c = key a
  · obtain ⟨c, hc, he⟩ := hk
    rw [pushNew_of_exists hc he, pushNew_of_exists (List.mem_map_of_mem hc) ((h c hc).mpr he)]
  · have hnew : ∀ c ∈ l, key c ≠ key a := fun c hc he ↦ hk ⟨c, hc, he⟩
    rw [pushNew_of_new hnew, pushNew_of_new, List.map_append, List.map_singleton]
    intro b hb
    obtain ⟨c, hc, rfl⟩ := List.mem_map.mp hb
    exact fun he ↦ hnew c hc ((h c hc).mp he)

@[simp] theorem firsts_nil : firsts key [] = [] := rfl

theorem firsts_snoc (l : List α) (a : α) :
    firsts key (l ++ [a]) = pushNew key (firsts key l) a := by
  simp only [firsts, List.foldl_append, List.foldl_cons, List.foldl_nil]

theorem firsts_append (l l' : List α) :
    firsts key (l ++ l') = l'.foldl (pushNew key) (firsts key l) := List.foldl_append

theorem firsts_subset (l : List α) : firsts key l ⊆ l := by
  induction l using List.reverseRecOn with
  | nil => exact List.Subset.refl _
  | append_singleton l a ih =>
    intro b hb
    rw [firsts_snoc, mem_pushNew] at hb
    rcases hb with hb | ⟨rfl, _⟩
    · exact List.mem_append_left _ (ih hb)
    · exact List.mem_append_right _ (List.mem_singleton_self _)

variable (key) in
theorem exists_firsts {l : List α} {a : α} (ha : a ∈ l) : ∃ b ∈ firsts key l, key b = key a := by
  induction l using List.reverseRecOn with
  | nil => cases ha
  | append_singleton l c ih =>
    rw [firsts_snoc]
    rcases List.mem_append.mp ha with ha | ha
    · obtain ⟨b, hb, he⟩ := ih ha
      exact ⟨b, subset_pushNew _ _ hb, he⟩
    · obtain rfl := List.mem_singleton.mp ha
      by_cases hk : ∃ b ∈ firsts key l, key b = key a
      · obtain ⟨b, hb, he⟩ := hk
        exact ⟨b, subset_pushNew _ _ hb, he⟩
      · exact ⟨a, mem_pushNew.mpr (Or.inr ⟨rfl, fun b hb he ↦ hk ⟨b, hb, he⟩⟩), rfl⟩

theorem firsts_keys_nodup (l : List α) : ((firsts key l).map key).Nodup := by
  induction l using List.reverseRecOn with
  | nil => exact List.nodup_nil
  | append_singleton l a ih =>
    rw [firsts_snoc]
    exact pushNew_keys_nodup ih a

theorem firsts_subset_append (l l' : List α) : firsts key l ⊆ firsts key (l ++ l') := by
  induction l' using List.reverseRecOn with
  | nil => rw [List.append_nil]; exact List.Subset.refl _
  | append_singleton l' a ih =>
    rw [← List.append_assoc, firsts_snoc]
    exact List.Subset.trans ih (subset_pushNew _ _)

theorem firsts_of_nodup {l : List α} (h : (l.map key).Nodup) : firsts key l = l := by
  induction l using List.reverseRecOn with
  | nil => rfl
  | append_singleton l a ih =>
    rw [List.map_append, List.nodup_append] at h
    rw [firsts_snoc, ih h.1]
    apply pushNew_of_new
    intro b hb
    exact h.2.2 _ (List.mem_map_of_mem hb) _ (List.mem_singleton_self _)

theorem mem_firsts_iff {l : List α} {a : α} :
    a ∈ firsts key l ↔ ∃ l₁ l₂, l = l₁ ++ a :: l₂ ∧ ∀ b ∈ l₁, key b ≠ key a := by
  induction l using List.reverseRecOn with
  | nil => simp
  | append_singleton l c ih =>
    rw [firsts_snoc, mem_pushNew, ih]
    constructor
    · intro hk
      rcases hk with ⟨l₁, l₂, rfl, h⟩ | ⟨rfl, h⟩
      · exact ⟨l₁, l₂ ++ [c], by simp, h⟩
      · refine ⟨l, [], rfl, fun b hb he ↦ ?_⟩
        obtain ⟨d, hd, hde⟩ := exists_firsts key hb
        exact h d hd (hde.trans he)
    · intro hk
      obtain ⟨l₁, l₂, he, h⟩ := hk
      rcases List.eq_nil_or_concat l₂ with rfl | ⟨l₃, d, rfl⟩
      · obtain ⟨rfl, hc⟩ := List.append_inj' he rfl
        obtain rfl := List.singleton_inj.mp hc
        exact Or.inr ⟨rfl, fun b hb ↦ h b (firsts_subset _ hb)⟩
      · rw [List.concat_eq_append, ← List.cons_append, ← List.append_assoc] at he
        obtain ⟨rfl, -⟩ := List.append_inj' he rfl
        exact Or.inl ⟨l₁, l₃, rfl, h⟩

theorem firsts_map {key' : β → ι} (f : α → β) (l : List α)
    (h : ∀ a ∈ l, ∀ b ∈ l, key' (f a) = key' (f b) ↔ key a = key b) :
    (firsts key l).map f = firsts key' (l.map f) := by
  induction l using List.reverseRecOn with
  | nil => rfl
  | append_singleton l a ih =>
    have ih' := ih (fun b hb c hc ↦
      h b (List.mem_append_left _ hb) c (List.mem_append_left _ hc))
    rw [firsts_snoc, List.map_append, List.map_singleton, firsts_snoc, ← ih']
    exact pushNew_map f _ a (fun b hb ↦
      h b (List.mem_append_left _ (firsts_subset _ hb)) a (by simp))

end RmwIceoryx2.Library.FirstOccurrence
