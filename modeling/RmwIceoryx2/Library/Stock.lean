import RmwIceoryx2.Library.Simulation

namespace RmwIceoryx2.Library

open Execution

variable {σ α : Type}

open scoped Classical in
def Balanced (before after : ℕ) (removes adds : Prop) : Prop :=
  after + (if removes then 1 else 0) = before + if adds then 1 else 0

theorem Balanced.same {amount : ℕ} {removes adds : Prop} (hremoves : ¬ removes) (hadds : ¬ adds) :
    Balanced amount amount removes adds := by
  rw [Balanced, if_neg hremoves, if_neg hadds]

theorem Balanced.more {amount : ℕ} {removes adds : Prop} (hremoves : ¬ removes) (hadds : adds) :
    Balanced amount (amount + 1) removes adds := by
  rw [Balanced, if_neg hremoves, if_pos hadds]

theorem Balanced.less {amount : ℕ} {removes adds : Prop} (hremoves : removes) (hadds : ¬ adds) :
    Balanced (amount + 1) amount removes adds := by
  rw [Balanced, if_pos hremoves, if_neg hadds]

/-- An amount that a permitted step raises by one, lowers by one or leaves as it is. -/
structure Stock (exec : σ → α → σ) (ok : σ → α → Prop) where
  amount : σ → ℕ
  adds : σ → α → Prop
  removes : σ → α → Prop
  amount_exec : ∀ s a, ok s a → Balanced (amount s) (amount (exec s a)) (removes s a) (adds s a)

namespace Stock

variable {exec : σ → α → σ} {ok : σ → α → Prop} (stock : Stock exec ok)

def Within (limit : ℕ) (s : σ) (a : α) : Prop := stock.adds s a → stock.amount s < limit

variable {s : σ} {ops later : List α} {limit : ℕ}

theorem balance (h : Admissible exec ok s ops) :
    stock.amount (run exec s ops) + tally exec stock.removes s ops =
      stock.amount s + tally exec stock.adds s ops := by
  induction ops generalizing s with
  | nil => rfl
  | cons a ops ih =>
    have hstep : _ + _ = _ + _ := stock.amount_exec s a h.1
    have hrest := ih h.2
    simp only [run_cons, tally]
    omega

theorem balance_or {p q : σ → α → Prop} (hadds : ∀ s a, stock.adds s a ↔ p s a ∨ q s a)
    (hexclusive : ∀ s a, ¬ (p s a ∧ q s a)) (h : Admissible exec ok s ops) :
    stock.amount (run exec s ops) + tally exec stock.removes s ops =
      stock.amount s + (tally exec p s ops + tally exec q s ops) := by
  have hcount : tally exec stock.adds s ops = tally exec (fun s a ↦ p s a ∨ q s a) s ops :=
    tally_congr h fun s a _ ↦ hadds s a
  rw [← tally_or hexclusive, ← hcount]
  exact stock.balance h

theorem amount_le (h : Admissible exec ok s ops) (hlimit : Admissible exec (stock.Within limit) s ops)
    (hs : stock.amount s ≤ limit) : stock.amount (run exec s ops) ≤ limit := by
  refine invariant (I := fun s ↦ stock.amount s ≤ limit) ?_ hs (h.and hlimit)
  intro s a hs hok
  have hstep : _ + _ = _ + _ := stock.amount_exec s a hok.1
  by_cases hadds : stock.adds s a
  · have hlt := hok.2 hadds
    rw [if_pos hadds] at hstep
    omega
  · rw [if_neg hadds] at hstep
    omega

theorem full (h : Admissible exec ok s ops) (hlimit : Admissible exec (stock.Within limit) s ops)
    (hkept : Admissible exec (fun s a ↦ ¬ stock.removes s a) s ops) (hs : stock.amount s = limit) :
    Admissible exec (fun s _ ↦ stock.amount s = limit) s ops := by
  refine Admissible.of_invariant (I := fun s ↦ stock.amount s = limit) ?_ ?_ hs
    ((h.and hlimit).and hkept)
  · intro s a hs hok
    have hno : ¬ stock.adds s a := fun hadds ↦ absurd (hok.1.2 hadds) (by omega)
    have hstep : _ + _ = _ + _ := stock.amount_exec s a hok.1.1
    rw [if_neg hok.2, if_neg hno] at hstep
    omega
  · intro s a hs _
    exact hs

/-- Without removals the stock fills up to the limit at most, and what fills it up fills it for
good. -/
theorem wears_out (h : Admissible exec ok s (ops ++ later))
    (hlimit : Admissible exec (stock.Within limit) s (ops ++ later))
    (hkept : Admissible exec (fun s a ↦ ¬ stock.removes s a) s (ops ++ later))
    (hs : stock.amount s ≤ limit) :
    stock.amount s + tally exec stock.adds s ops ≤ limit ∧
      (stock.amount s + tally exec stock.adds s ops = limit →
        Admissible exec (fun s _ ↦ stock.amount s = limit) (run exec s ops) later) := by
  obtain ⟨h, h'⟩ := (admissible_append _ _ _ _).mp h
  obtain ⟨hlimit, hlimit'⟩ := (admissible_append _ _ _ _).mp hlimit
  obtain ⟨hkept, hkept'⟩ := (admissible_append _ _ _ _).mp hkept
  have hbalance := stock.balance h
  rw [tally_eq_zero hkept, Nat.add_zero] at hbalance
  rw [← hbalance]
  exact ⟨stock.amount_le h hlimit hs, stock.full h' hlimit' hkept'⟩

/-- If `strands` alone adds to the stock, and a step that strands or serves asks for more, which is
refused once the limit is reached, then a stock that is full never serves again. -/
theorem exhausted {I : σ → Prop} {strands asks serves : σ → α → Prop}
    (hI : ∀ s a, I s → ok s a → I (exec s a))
    (hadds : ∀ s a, I s → (stock.adds s a ↔ strands s a))
    (hstrands : ∀ s a, strands s a → asks s a) (hserves : ∀ s a, I s → serves s a → asks s a)
    (hs : I s) (hlimit : stock.amount s ≤ limit) (h : Admissible exec ok s (ops ++ later))
    (hasks : Admissible exec (fun s a ↦ asks s a → stock.amount s < limit) s (ops ++ later))
    (hkept : Admissible exec (fun s a ↦ ¬ stock.removes s a) s (ops ++ later)) :
    stock.amount s + tally exec strands s ops ≤ limit ∧
      (stock.amount s + tally exec strands s ops = limit →
        Admissible exec (fun s a ↦ ¬ serves s a) (run exec s ops) later) := by
  have hall : Admissible exec (fun s _ ↦ I s) s (ops ++ later) :=
    Admissible.of_invariant hI (fun _ _ hs _ ↦ hs) hs h
  have hwithin : Admissible exec (stock.Within limit) s (ops ++ later) :=
    (hall.and hasks).mono fun s a hok hadd ↦ hok.2 (hstrands s a ((hadds s a hok.1).mp hadd))
  obtain ⟨hle, hfull⟩ := stock.wears_out h hwithin hkept hlimit
  obtain ⟨hall, hall'⟩ := (admissible_append _ _ _ _).mp hall
  have hcount : tally exec stock.adds s ops = tally exec strands s ops :=
    tally_congr hall fun s a hs ↦ hadds s a hs
  rw [hcount] at hle hfull
  refine ⟨hle, fun hreached ↦ ?_⟩
  have hasks' := ((admissible_append _ _ _ _).mp hasks).2
  refine (((hfull hreached).and hall').and hasks').mono fun s a hok hserve ↦ ?_
  have hlt := hok.2 (hserves s a hok.1.2 hserve)
  exact absurd hok.1.1 (Nat.ne_of_lt hlt)

end Stock

end RmwIceoryx2.Library
