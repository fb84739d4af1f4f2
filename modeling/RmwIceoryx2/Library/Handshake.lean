import Mathlib.Init

namespace RmwIceoryx2.Library

variable {σ ι : Type}

/-- Senders that put something where a receiver finds it and then raise a flag, and a receiver that
lowers the flag and then collects until nothing is left. -/
structure Handshake (σ ι : Type) where
  filled : σ → Prop
  raised : σ → Prop
  announcing : ι → σ → Prop
  collecting : σ → Prop

namespace Handshake

variable (h : Handshake σ ι) {s s' : σ}

/-- What was put there will be found. -/
def Attended (s : σ) : Prop :=
  h.filled s → h.raised s ∨ (∃ i, h.announcing i s) ∨ h.collecting s

/-- The order in which both sides work, as far as one step shows it. -/
structure Ordered (s s' : σ) : Prop where
  fills : h.filled s' → h.filled s ∨ ∃ i, h.announcing i s'
  announces : ∀ i, h.announcing i s → h.announcing i s' ∨ h.raised s'
  lowers : h.raised s → h.raised s' ∨ h.collecting s'
  collects : h.collecting s → h.collecting s' ∨ ¬ h.filled s'

variable {h}

theorem Ordered.attended (ho : h.Ordered s s') (hs : h.Attended s) : h.Attended s' := by
  intro hfilled'
  rcases ho.fills hfilled' with hfilled | hannouncing
  · rcases hs hfilled with hraised | ⟨i, hi⟩ | hcollecting
    · rcases ho.lowers hraised with hraised' | hcollecting'
      · exact Or.inl hraised'
      · exact Or.inr (Or.inr hcollecting')
    · rcases ho.announces i hi with hi' | hraised'
      · exact Or.inr (Or.inl ⟨i, hi'⟩)
      · exact Or.inl hraised'
    · rcases ho.collects hcollecting with hcollecting' | hempty
      · exact Or.inr (Or.inr hcollecting')
      · exact absurd hfilled' hempty
  · exact Or.inr (Or.inl hannouncing)

theorem Ordered.of_same (hf : h.filled s' → h.filled s) (hr : h.raised s → h.raised s')
    (ha : ∀ i, h.announcing i s → h.announcing i s') (hc : h.collecting s → h.collecting s') :
    h.Ordered s s' :=
  ⟨fun hs ↦ Or.inl (hf hs), fun i hi ↦ Or.inl (ha i hi), fun hs ↦ Or.inl (hr hs),
    fun hs ↦ Or.inl (hc hs)⟩

end Handshake

end RmwIceoryx2.Library
