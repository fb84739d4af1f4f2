import RmwIceoryx2.Library.Execution

namespace RmwIceoryx2.Library.Execution

variable {σ τ α β : Type}

/-- What a run amounts to for someone who sees a step by its label, or not at all. -/
def trace (exec : σ → α → σ) (label : σ → α → Option β) : σ → List α → List β
  | _, [] => []
  | s, a :: ops => (label s a).toList ++ trace exec label (exec s a) ops

/-- Seen through `view`, a permitted step of the concrete system is the step of the abstract one
that its label names; a step without a label changes nothing that is seen. -/
structure Refines (exec : σ → α → σ) (exec' : τ → β → τ) (ok : σ → α → Prop) (inv : σ → Prop)
    (view : σ → τ) (label : σ → α → Option β) : Prop where
  inv_exec : ∀ s a, inv s → ok s a → inv (exec s a)
  view_exec : ∀ s a, inv s → ok s a → view (exec s a) = run exec' (view s) (label s a).toList

variable {exec : σ → α → σ} {exec' : τ → β → τ} {ok : σ → α → Prop} {inv : σ → Prop}
  {view : σ → τ} {label : σ → α → Option β}

@[simp] theorem trace_nil (s : σ) : trace exec label s [] = [] := rfl

@[simp] theorem trace_cons (s : σ) (a : α) (ops : List α) :
    trace exec label s (a :: ops) = (label s a).toList ++ trace exec label (exec s a) ops := rfl

theorem trace_snoc (s : σ) (ops : List α) (a : α) :
    trace exec label s (ops ++ [a]) =
      trace exec label s ops ++ (label (run exec s ops) a).toList := by
  induction ops generalizing s with
  | nil => rw [List.nil_append, trace_cons, trace_nil, List.append_nil, run_nil, trace_nil,
      List.nil_append]
  | cons b ops ih => rw [List.cons_append, trace_cons, trace_cons, ih, run_cons, List.append_assoc]

/-- Whole runs of the concrete system are runs of the abstract one. -/
theorem Refines.view_run (h : Refines exec exec' ok inv view label) {s : σ} (hs : inv s)
    {ops : List α} (hops : Admissible exec ok s ops) :
    view (run exec s ops) = run exec' (view s) (trace exec label s ops) := by
  induction ops generalizing s with
  | nil => rfl
  | cons a ops ih =>
    rw [run_cons, trace_cons, run_append, ← h.view_exec s a hs hops.1,
      ih (h.inv_exec s a hs hops.1) hops.2]

theorem Refines.admissible_trace (h : Refines exec exec' ok inv view label) {ok' : τ → β → Prop}
    (hok : ∀ s a b, inv s → ok s a → label s a = some b → ok' (view s) b) {s : σ} (hs : inv s)
    {ops : List α} (hops : Admissible exec ok s ops) :
    Admissible exec' ok' (view s) (trace exec label s ops) := by
  induction ops generalizing s with
  | nil => trivial
  | cons a ops ih =>
    have hrest := ih (h.inv_exec s a hs hops.1) hops.2
    rw [trace_cons, admissible_append, ← h.view_exec s a hs hops.1]
    refine ⟨?_, hrest⟩
    cases hb : label s a with
    | none => trivial
    | some b => exact ⟨hok s a b hs hops.1 hb, trivial⟩

theorem Refines.trans {υ γ : Type} {exec'' : υ → γ → υ} {ok' : τ → β → Prop} {inv' : τ → Prop}
    {view' : τ → υ} {label' : τ → β → Option γ} (h : Refines exec exec' ok inv view label)
    (h' : Refines exec' exec'' ok' inv' view' label')
    (hok : ∀ s a b, inv s → ok s a → label s a = some b → ok' (view s) b) :
    Refines exec exec'' ok (fun s ↦ inv s ∧ inv' (view s)) (view' ∘ view)
      fun s a ↦ (label s a).bind (label' (view s)) := by
  constructor
  · intro s a hs ha
    refine ⟨h.inv_exec s a hs.1 ha, ?_⟩
    rw [h.view_exec s a hs.1 ha]
    cases hb : label s a with
    | none => exact hs.2
    | some b => exact h'.inv_exec _ b hs.2 (hok s a b hs.1 ha hb)
  · intro s a hs ha
    rw [Function.comp_apply, h.view_exec s a hs.1 ha]
    cases hb : label s a with
    | none => rfl
    | some b => exact h'.view_exec _ b hs.2 (hok s a b hs.1 ha hb)

theorem trace_eq_filterMap (f : α → Option β) (s : σ) (ops : List α) :
    trace exec (fun _ ↦ f) s ops = ops.filterMap f := by
  induction ops generalizing s with
  | nil => rfl
  | cons a ops ih =>
    rw [trace_cons, ih]
    cases h : f a with
    | none => simp only [Option.toList_none, List.nil_append, List.filterMap_cons_none h]
    | some b =>
      simp only [Option.toList_some, List.singleton_append, List.filterMap_cons_some h]

theorem trace_map {γ : Type} (f : β → γ) (s : σ) (ops : List α) :
    trace exec (fun s a ↦ (label s a).map f) s ops = (trace exec label s ops).map f := by
  induction ops generalizing s with
  | nil => rfl
  | cons a ops ih =>
    rw [trace_cons, trace_cons, List.map_append, ih]
    cases label s a <;> rfl

theorem Refines.trace_bind (h : Refines exec exec' ok inv view label) {γ : Type}
    (f : τ → β → Option γ) {s : σ} (hs : inv s) {ops : List α} (hops : Admissible exec ok s ops) :
    trace exec (fun s a ↦ (label s a).bind (f (view s))) s ops =
      trace exec' f (view s) (trace exec label s ops) := by
  induction ops generalizing s with
  | nil => rfl
  | cons a ops ih =>
    rw [trace_cons, trace_cons, ih (h.inv_exec s a hs hops.1) hops.2, h.view_exec s a hs hops.1]
    cases label s a with
    | none => rfl
    | some b => rfl

theorem trace_sublist {label label' : σ → α → Option β}
    (hinv : ∀ s a, inv s → ok s a → inv (exec s a))
    (hlabel : ∀ s a b, inv s → ok s a → label s a = some b → label' s a = some b) {s : σ}
    (hs : inv s) {ops : List α} (hops : Admissible exec ok s ops) :
    (trace exec label s ops).Sublist (trace exec label' s ops) := by
  induction ops generalizing s with
  | nil => exact List.Sublist.refl _
  | cons a ops ih =>
    have hrest := ih (hinv s a hs hops.1) hops.2
    rw [trace_cons, trace_cons]
    refine List.Sublist.append ?_ hrest
    cases hb : label s a with
    | none => exact List.nil_sublist _
    | some b =>
      rw [hlabel s a b hs hops.1 hb]

theorem trace_congr {label label' : σ → α → Option β}
    (hinv : ∀ s a, inv s → ok s a → inv (exec s a))
    (hlabel : ∀ s a, inv s → ok s a → label s a = label' s a) {s : σ}
    (hs : inv s) {ops : List α} (hops : Admissible exec ok s ops) :
    trace exec label s ops = trace exec label' s ops := by
  induction ops generalizing s with
  | nil => rfl
  | cons a ops ih =>
    rw [trace_cons, trace_cons, hlabel s a hs hops.1, ih (hinv s a hs hops.1) hops.2]

open scoped Classical in
/-- How many steps of a run meet `p` in the state they are taken in. -/
noncomputable def tally (exec : σ → α → σ) (p : σ → α → Prop) : σ → List α → ℕ
  | _, [] => 0
  | s, a :: ops => (if p s a then 1 else 0) + tally exec p (exec s a) ops

open scoped Classical in
theorem tally_eq_countP (p : α → Prop) (s : σ) (ops : List α) :
    tally exec (fun _ ↦ p) s ops = ops.countP fun a ↦ decide (p a) := by
  induction ops generalizing s with
  | nil => rfl
  | cons a ops ih =>
    rw [tally, ih, List.countP_cons, Nat.add_comm]
    simp only [decide_eq_true_eq]

theorem tally_eq_zero {p : σ → α → Prop} {s : σ} {ops : List α}
    (h : Admissible exec (fun s a ↦ ¬ p s a) s ops) : tally exec p s ops = 0 := by
  induction ops generalizing s with
  | nil => rfl
  | cons a ops ih => rw [tally, if_neg h.1, ih h.2]

theorem tally_or {p q : σ → α → Prop} (h : ∀ s a, ¬ (p s a ∧ q s a)) (s : σ) (ops : List α) :
    tally exec (fun s a ↦ p s a ∨ q s a) s ops = tally exec p s ops + tally exec q s ops := by
  induction ops generalizing s with
  | nil => rfl
  | cons a ops ih =>
    rw [tally, tally, tally, ih]
    by_cases hp : p s a
    · have hq : ¬ q s a := fun hq ↦ h s a ⟨hp, hq⟩
      rw [if_pos (Or.inl hp), if_pos hp, if_neg hq]
      omega
    · by_cases hq : q s a
      · rw [if_pos (Or.inr hq), if_neg hp, if_pos hq]
        omega
      · rw [if_neg (not_or.mpr ⟨hp, hq⟩), if_neg hp, if_neg hq]
        omega

theorem Admissible.mono {ok ok' : σ → α → Prop} (hmono : ∀ s a, ok s a → ok' s a) {s : σ}
    {ops : List α} (h : Admissible exec ok s ops) : Admissible exec ok' s ops := by
  induction ops generalizing s with
  | nil => trivial
  | cons a ops ih => exact ⟨hmono s a h.1, ih h.2⟩

theorem tally_congr {p q : σ → α → Prop} {s : σ} {ops : List α} (h : Admissible exec ok s ops)
    (hpq : ∀ s a, ok s a → (p s a ↔ q s a)) : tally exec p s ops = tally exec q s ops := by
  induction ops generalizing s with
  | nil => rfl
  | cons a ops ih =>
    have hhere : p s a = q s a := propext (hpq s a h.1)
    rw [tally, tally, ih h.2, hhere]

open scoped Classical in
/-- If each step that meets `p` uses up one unit of `stock`, and only a step that meets `q` adds
one, then the steps that meet `p` are at most those that meet `q` and what was there before. -/
theorem tally_add_le {p q : σ → α → Prop} (stock : σ → ℕ)
    (hstep : ∀ s a, (if p s a then 1 else 0) + stock (exec s a) ≤
      (if q s a then 1 else 0) + stock s) (s : σ) (ops : List α) :
    tally exec p s ops + stock (run exec s ops) ≤ tally exec q s ops + stock s := by
  induction ops generalizing s with
  | nil => exact Nat.le_refl _
  | cons a ops ih =>
    have hone := hstep s a
    have hrest := ih (exec s a)
    simp only [tally, run_cons]
    omega

open scoped Classical in
theorem Refines.tally_eq (h : Refines exec exec' ok inv view label) (p : σ → α → Prop)
    (p' : τ → β → Prop)
    (hp : ∀ s a, inv s → ok s a → (p s a ↔ ∃ b, label s a = some b ∧ p' (view s) b)) {s : σ}
    (hs : inv s) {ops : List α} (hops : Admissible exec ok s ops) :
    tally exec p s ops = tally exec' p' (view s) (trace exec label s ops) := by
  induction ops generalizing s with
  | nil => rfl
  | cons a ops ih =>
    have hview := h.view_exec s a hs hops.1
    have hhere := hp s a hs hops.1
    rw [tally, ih (h.inv_exec s a hs hops.1) hops.2, trace_cons, hview]
    cases hb : label s a with
    | none =>
      simp only [hb, reduceCtorEq, false_and, exists_false] at hhere
      simp only [hhere, ↓reduceIte, Nat.zero_add, Option.toList_none, List.nil_append, run_nil]
    | some b =>
      simp only [hb, Option.some_inj, exists_eq_left'] at hhere
      rw [if_congr hhere rfl rfl]
      rfl

end RmwIceoryx2.Library.Execution
