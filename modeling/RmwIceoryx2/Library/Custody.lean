import RmwIceoryx2.Library.Execution
import RmwIceoryx2.Library.KeyedMap

namespace RmwIceoryx2.Library

open Execution

variable {σ α K V : Type} [DecidableEq K] {key : V → K}

/-- A component that hands values out under their keys. A call may name a key, to have the value
passed on or taken back. -/
structure Custodian (σ α : Type) (key : V → K) where
  exec : σ → α → σ
  held : σ → KeyedMap key
  named : α → Option K
  handsOut : σ → α → V → Prop
  passesOn : σ → α → V → Prop
  takesBack : σ → α → K → Prop
  rejects : σ → α → Prop

namespace Custodian

variable (c : Custodian σ α key)

def Closes (s : σ) (a : α) (k : K) : Prop :=
  (∃ v, key v = k ∧ c.passesOn s a v) ∨ c.takesBack s a k

/-- The value was handed out under its key and not closed since. -/
def Outstanding (s : σ) (ops : List α) (k : K) (v : V) : Prop :=
  key v = k ∧ Since c.exec (fun t a ↦ c.handsOut t a v) (fun t a ↦ c.Closes t a k) s ops

structure Lawful (ok : σ → α → Prop) : Prop where
  held_exec : ∀ s a, ok s a → ∀ k v, (c.held (c.exec s a)).find k = some v ↔
    (key v = k ∧ c.handsOut s a v) ∨ ((c.held s).find k = some v ∧ ¬ c.Closes s a k)
  handsOut_unnamed : ∀ s a v, c.handsOut s a v → c.named a = none
  passesOn_held : ∀ s a v, c.passesOn s a v →
    c.named a = some (key v) ∧ (c.held s).find (key v) = some v
  takesBack_held : ∀ s a k, c.takesBack s a k →
    c.named a = some k ∧ ∃ v, (c.held s).find k = some v
  rejects_unknown : ∀ s a k, c.named a = some k → (c.held s).find k = none →
    c.rejects s a ∧ c.exec s a = s

/-- What holds at the end of a run: the values held are the outstanding ones, only these are passed
on, any other key is rejected, and a key is closed twice only if it is handed out in between. -/
structure Accounted (s : σ) (ops : List α) : Prop where
  held_iff : ∀ k v, (c.held (run c.exec s ops)).find k = some v ↔ c.Outstanding s ops k v
  passesOn_outstanding : ∀ a v, c.passesOn (run c.exec s ops) a v → c.Outstanding s ops (key v) v
  rejects_other : ∀ a k, c.named a = some k → (∀ v, ¬ c.Outstanding s ops k v) →
    c.rejects (run c.exec s ops) a ∧ c.exec (run c.exec s ops) a = run c.exec s ops
  closes_once : ∀ pre a mid b post k, ops = pre ++ a :: (mid ++ b :: post) →
    c.Closes (run c.exec s pre) a k → c.Closes (run c.exec s (pre ++ a :: mid)) b k →
      ∃ mid₁ d mid₂ v, mid = mid₁ ++ d :: mid₂ ∧ key v = k ∧
        c.handsOut (run c.exec s (pre ++ a :: mid₁)) d v

variable {c} {ok : σ → α → Prop} {s : σ} {ops : List α}

theorem Lawful.closes_held (hc : c.Lawful ok) {a : α} {k : K} (h : c.Closes s a k) :
    c.named a = some k ∧ ∃ v, (c.held s).find k = some v := by
  rcases h with ⟨v, rfl, hv⟩ | hk
  · obtain ⟨hnamed, hheld⟩ := hc.passesOn_held s a v hv
    exact ⟨hnamed, v, hheld⟩
  · exact hc.takesBack_held s a k hk

theorem Lawful.find_of_closes (hc : c.Lawful ok) {a : α} {k : K} (ha : ok s a)
    (h : c.Closes s a k) (v : V) : (c.held (c.exec s a)).find k ≠ some v := by
  intro hv
  rcases (hc.held_exec s a ha k v).mp hv with ⟨-, hout⟩ | ⟨-, hno⟩
  · have hnamed := (hc.closes_held h).1
    rw [hc.handsOut_unnamed s a v hout] at hnamed
    cases hnamed
  · exact hno h

theorem Lawful.held_iff (hc : c.Lawful ok) {k : K} (hnone : ∀ v, (c.held s).find k ≠ some v)
    (h : Admissible c.exec ok s ops) (v : V) :
    (c.held (run c.exec s ops)).find k = some v ↔ c.Outstanding s ops k v := by
  have hsince : (c.held (run c.exec s ops)).find k = some v ↔
      Since c.exec (fun t a ↦ key v = k ∧ c.handsOut t a v) (fun t a ↦ c.Closes t a k) s ops :=
    since_iff (I := fun _ ↦ True) (P := fun t ↦ (c.held t).find k = some v)
      (fun _ _ _ _ ↦ trivial) (fun t a _ ha ↦ hc.held_exec t a ha k v) trivial (hnone v) h
  rw [hsince]
  constructor
  · intro hs
    obtain ⟨pre, a, post, hops, ⟨hk, hout⟩, hno⟩ := hs
    exact ⟨hk, pre, a, post, hops, hout, hno⟩
  · intro hs
    obtain ⟨hk, pre, a, post, hops, hout, hno⟩ := hs
    exact ⟨pre, a, post, hops, ⟨hk, hout⟩, hno⟩

theorem Lawful.accounted (hc : c.Lawful ok) (hempty : c.held s = .empty key)
    (h : Admissible c.exec ok s ops) : c.Accounted s ops := by
  have hnone : ∀ k v, (c.held s).find k ≠ some v := by
    intro k v
    rw [hempty, KeyedMap.find_empty]
    exact Option.some_ne_none v |>.symm
  refine ⟨fun k v ↦ hc.held_iff (hnone k) h v, fun a v hv ↦ ?_, fun a k hnamed hno ↦ ?_, ?_⟩
  · exact (hc.held_iff (hnone _) h v).mp (hc.passesOn_held _ a v hv).2
  · refine hc.rejects_unknown _ a k hnamed (Option.eq_none_iff_forall_ne_some.mpr fun v hv ↦ ?_)
    exact hno v ((hc.held_iff (hnone k) h v).mp hv)
  · intro pre a mid b post k hops ha hb
    rw [hops, ← List.singleton_append, ← List.append_assoc, ← List.append_assoc,
      admissible_append, admissible_append, admissible_snoc] at h
    obtain ⟨⟨⟨-, hoka⟩, hmid⟩, -⟩ := h
    rw [run_snoc] at hmid
    have hb' : c.Closes (run c.exec (c.exec (run c.exec s pre) a) mid) b k := by
      rwa [run_append, run_cons] at hb
    obtain ⟨-, v, hv⟩ := hc.closes_held hb'
    obtain ⟨hk, mid₁, d, mid₂, hsplit, hout, -⟩ :=
      (hc.held_iff (hc.find_of_closes hoka ha) hmid v).mp hv
    exact ⟨mid₁, d, mid₂, v, hsplit, hk, by rwa [run_append, run_cons]⟩

end Custodian

end RmwIceoryx2.Library
