import Mathlib.Data.List.Infix
import Mathlib.Data.List.Induction

namespace RmwIceoryx2.Library.Execution

variable {σ α : Type} (exec : σ → α → σ)

def run (s : σ) (ops : List α) : σ := ops.foldl exec s

@[simp] theorem run_nil (s : σ) : run exec s [] = s := rfl

@[simp] theorem run_cons (s : σ) (a : α) (ops : List α) :
    run exec s (a :: ops) = run exec (exec s a) ops := rfl

theorem run_append (s : σ) (ops ops' : List α) :
    run exec s (ops ++ ops') = run exec (run exec s ops) ops' := List.foldl_append

theorem run_snoc (s : σ) (ops : List α) (a : α) :
    run exec s (ops ++ [a]) = exec (run exec s ops) a := by
  rw [run_append, run_cons, run_nil]

/-- Every operation of the run is permitted in the state it is applied to. -/
def Admissible (ok : σ → α → Prop) : σ → List α → Prop
  | _, [] => True
  | s, a :: ops => ok s a ∧ Admissible ok (exec s a) ops

variable {exec}

@[simp] theorem admissible_nil (ok : σ → α → Prop) (s : σ) : Admissible exec ok s [] := trivial

@[simp] theorem admissible_cons (ok : σ → α → Prop) (s : σ) (a : α) (ops : List α) :
    Admissible exec ok s (a :: ops) ↔ ok s a ∧ Admissible exec ok (exec s a) ops := Iff.rfl

theorem admissible_append (ok : σ → α → Prop) (s : σ) (ops ops' : List α) :
    Admissible exec ok s (ops ++ ops') ↔
      Admissible exec ok s ops ∧ Admissible exec ok (run exec s ops) ops' := by
  induction ops generalizing s with
  | nil => simp
  | cons a ops ih => simp only [List.cons_append, admissible_cons, run_cons, ih, and_assoc]

theorem admissible_snoc (ok : σ → α → Prop) (s : σ) (ops : List α) (a : α) :
    Admissible exec ok s (ops ++ [a]) ↔ Admissible exec ok s ops ∧ ok (run exec s ops) a := by
  simp only [admissible_append, admissible_cons, admissible_nil, and_true]

theorem Admissible.and {ok ok' : σ → α → Prop} {s : σ} {ops : List α}
    (h : Admissible exec ok s ops) (h' : Admissible exec ok' s ops) :
    Admissible exec (fun t a ↦ ok t a ∧ ok' t a) s ops := by
  induction ops generalizing s with
  | nil => trivial
  | cons a ops ih => exact ⟨⟨h.1, h'.1⟩, ih h.2 h'.2⟩

theorem admissible_of_forall {ok : σ → α → Prop} (s : σ) {ops : List α}
    (h : ∀ a ∈ ops, ∀ t, ok t a) : Admissible exec ok s ops := by
  induction ops generalizing s with
  | nil => trivial
  | cons a ops ih =>
    exact ⟨h a List.mem_cons_self s, ih _ fun b hb ↦ h b (List.mem_cons_of_mem _ hb)⟩

theorem admissible_congr {ok cond cond' : σ → α → Prop}
    (hstep : ∀ s a, ok s a → (cond s a ↔ cond' s a)) {s : σ} {ops : List α}
    (h : Admissible exec ok s ops) : Admissible exec cond s ops ↔ Admissible exec cond' s ops := by
  induction ops generalizing s with
  | nil => exact Iff.rfl
  | cons a ops ih => rw [admissible_cons, admissible_cons, hstep s a h.1, ih h.2]

theorem invariant {ok : σ → α → Prop} {I : σ → Prop}
    (hstep : ∀ s a, I s → ok s a → I (exec s a)) {s : σ} (hs : I s) {ops : List α}
    (h : Admissible exec ok s ops) : I (run exec s ops) := by
  induction ops generalizing s with
  | nil => exact hs
  | cons a ops ih => exact ih (hstep s a hs h.1) h.2

theorem Admissible.of_invariant {ok cond : σ → α → Prop} {I : σ → Prop}
    (hstep : ∀ s a, I s → ok s a → I (exec s a)) (hcond : ∀ s a, I s → ok s a → cond s a)
    {s : σ} (hs : I s) {ops : List α} (h : Admissible exec ok s ops) :
    Admissible exec cond s ops := by
  induction ops generalizing s with
  | nil => trivial
  | cons a ops ih => exact ⟨hcond s a hs h.1, ih (hstep s a hs h.1) h.2⟩

theorem admissible_iff_forall {ok : σ → α → Prop} {s : σ} {ops : List α} :
    Admissible exec ok s ops ↔ ∀ pre a, pre ++ [a] <+: ops → ok (run exec s pre) a := by
  induction ops generalizing s with
  | nil => simp
  | cons b ops ih =>
    rw [admissible_cons, ih]
    constructor
    · intro h pre a hpre
      cases pre with
      | nil =>
        obtain ⟨rfl, -⟩ := List.cons_prefix_cons.mp hpre
        exact h.1
      | cons c pre =>
        obtain ⟨rfl, hpre'⟩ := List.cons_prefix_cons.mp hpre
        exact h.2 pre a hpre'
    · intro h
      exact ⟨h [] b (by simp), fun pre a hpre ↦ h (b :: pre) a (by simpa using hpre)⟩

/-- One system follows the other by the visible steps alone, if the rest makes no difference. -/
theorem follows_filter {ok : σ → α → Prop} {I : σ → Prop} {R : σ → σ → Prop} {visible : α → Bool}
    (hI : ∀ s a, I s → ok s a → I (exec s a))
    (hvisible : ∀ s t a, I s → ok s a → visible a = true → R s t → R (exec s a) (exec t a))
    (hrest : ∀ s t a, I s → ok s a → ¬ visible a = true → R s t → R (exec s a) t)
    {s t : σ} (hs : I s) (hst : R s t) {ops : List α} (h : Admissible exec ok s ops) :
    R (run exec s ops) (run exec t (ops.filter visible)) := by
  induction ops generalizing s t with
  | nil => exact hst
  | cons a ops ih =>
    have hnext := hI s a hs h.1
    by_cases ha : visible a = true
    · rw [List.filter_cons_of_pos ha]
      exact ih hnext (hvisible s t a hs h.1 ha hst) h.2
    · rw [List.filter_cons_of_neg ha]
      exact ih hnext (hrest s t a hs h.1 ha hst) h.2

/-- If a step keeps `I` exactly under `cond`, then `I` holds in every state of a
run exactly when each of its steps meets `cond` where it is taken. -/
theorem always_iff {ok cond : σ → α → Prop} {I : σ → Prop}
    (hstep : ∀ s a, I s → ok s a → (I (exec s a) ↔ cond s a)) {s : σ} (hs : I s) {ops : List α}
    (h : Admissible exec ok s ops) :
    (∀ pre, pre <+: ops → I (run exec s pre)) ↔ Admissible exec cond s ops := by
  induction ops generalizing s with
  | nil => simpa using hs
  | cons a ops ih =>
    constructor
    · intro hall
      have ha : I (exec s a) := hall [a] (by simp)
      refine ⟨(hstep s a hs h.1).mp ha, (ih ha h.2).mp (fun pre hpre ↦ ?_)⟩
      exact hall (a :: pre) (List.cons_prefix_cons.mpr ⟨rfl, hpre⟩)
    · intro hc pre hpre
      obtain ⟨hc, hrest⟩ := hc
      have ha : I (exec s a) := (hstep s a hs h.1).mpr hc
      cases pre with
      | nil => exact hs
      | cons b pre =>
        obtain ⟨rfl, hpre'⟩ := List.cons_prefix_cons.mp hpre
        exact (ih ha h.2).mpr hrest pre hpre'

variable (exec) in
/-- An operation of the run has `set` something that no later operation has `reset`. -/
def Since (set reset : σ → α → Prop) (s : σ) (ops : List α) : Prop :=
  ∃ pre a post, ops = pre ++ a :: post ∧ set (run exec s pre) a ∧
    ∀ mid b rest, post = mid ++ b :: rest → ¬ reset (run exec s (pre ++ a :: mid)) b

theorem not_since_nil (set reset : σ → α → Prop) (s : σ) : ¬ Since exec set reset s [] := by
  intro h
  obtain ⟨pre, a, post, h, -⟩ := h
  simp at h

theorem since_snoc (set reset : σ → α → Prop) (s : σ) (ops : List α) (b : α) :
    Since exec set reset s (ops ++ [b]) ↔ set (run exec s ops) b ∨
      (Since exec set reset s ops ∧ ¬ reset (run exec s ops) b) := by
  constructor
  · intro h
    obtain ⟨pre, a, post, hops, hset, hno⟩ := h
    rcases List.eq_nil_or_concat post with rfl | ⟨post', c, rfl⟩
    · obtain ⟨rfl, hb⟩ := List.append_inj' hops rfl
      exact Or.inl ((List.singleton_inj.mp hb) ▸ hset)
    · rw [List.concat_eq_append, ← List.cons_append, ← List.append_assoc] at hops
      obtain ⟨rfl, hb⟩ := List.append_inj' hops rfl
      obtain rfl := List.singleton_inj.mp hb
      refine Or.inr ⟨⟨pre, a, post', rfl, hset, fun mid d rest hpost ↦ ?_⟩, ?_⟩
      · exact hno mid d (rest ++ [b]) (by simp [hpost])
      · exact hno post' b [] (by simp)
  · intro h
    rcases h with hset | ⟨⟨pre, a, post, rfl, hset, hno⟩, hlast⟩
    · exact ⟨ops, b, [], rfl, hset, by simp⟩
    · refine ⟨pre, a, post ++ [b], by simp, hset, fun mid d rest hpost ↦ ?_⟩
      rcases List.eq_nil_or_concat rest with rfl | ⟨rest', c, rfl⟩
      · obtain ⟨rfl, hb⟩ := List.append_inj' hpost rfl
        exact (List.singleton_inj.mp hb) ▸ hlast
      · rw [List.concat_eq_append, ← List.cons_append, ← List.append_assoc] at hpost
        obtain ⟨rfl, -⟩ := List.append_inj' hpost rfl
        exact hno mid d rest' rfl

/-- A predicate that each permitted step updates the way `Since` is updated is `Since`. -/
theorem since_iff {ok set reset : σ → α → Prop} {I P : σ → Prop}
    (hI : ∀ s a, I s → ok s a → I (exec s a))
    (hP : ∀ s a, I s → ok s a → (P (exec s a) ↔ set s a ∨ (P s ∧ ¬ reset s a)))
    {s : σ} (hs : I s) (h0 : ¬ P s) {ops : List α} (h : Admissible exec ok s ops) :
    P (run exec s ops) ↔ Since exec set reset s ops := by
  induction ops using List.reverseRecOn with
  | nil => exact ⟨fun hp ↦ absurd hp h0, fun hp ↦ absurd hp (not_since_nil _ _ _)⟩
  | append_singleton ops a ih =>
    obtain ⟨hpre, ha⟩ := (admissible_snoc _ _ _ _).mp h
    rw [run_snoc, since_snoc, hP _ _ (invariant hI hs hpre) ha, ih hpre]

end RmwIceoryx2.Library.Execution
