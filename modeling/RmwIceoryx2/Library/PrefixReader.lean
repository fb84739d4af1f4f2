import Mathlib.Data.List.Basic

namespace RmwIceoryx2.Library.PrefixReader

variable {α β : Type} {decode : List α → Option β} {w : List α}

/-- A decoder that reads its window from the front, so that nothing behind what it has read
matters. -/
def ReadsPrefix (decode : List α → Option β) : Prop :=
  ∀ w v rest, decode w = some v → decode (w ++ rest) = some v

/-- The window breaks off before the end of what could be decoded. -/
def Truncated (decode : List α → Option β) (w : List α) : Prop :=
  decode w = none ∧ ∃ rest v, decode (w ++ rest) = some v

theorem ReadsPrefix.decode_append (hd : ReadsPrefix decode) (ht : ¬ Truncated decode w)
    (rest : List α) : decode (w ++ rest) = decode w := by
  cases hw : decode w with
  | some v => exact hd w v rest hw
  | none =>
    cases hrest : decode (w ++ rest) with
    | none => rfl
    | some v => exact absurd ⟨hw, rest, v, hrest⟩ ht

/-- What follows a window never matters exactly when the window is not truncated. -/
theorem ReadsPrefix.agree_iff (hd : ReadsPrefix decode) :
    (∀ rest rest', decode (w ++ rest) = decode (w ++ rest')) ↔ ¬ Truncated decode w := by
  constructor
  · intro h ht
    obtain ⟨hw, rest, v, hrest⟩ := ht
    have hsame := h rest []
    rw [hrest, List.append_nil, hw] at hsame
    cases hsame
  · intro ht rest rest'
    rw [hd.decode_append ht, hd.decode_append ht]

end RmwIceoryx2.Library.PrefixReader
