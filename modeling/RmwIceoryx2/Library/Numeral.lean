import Mathlib.Data.List.Induction
import Mathlib.Data.String.Basic

namespace RmwIceoryx2.Library

/-- A number as it is printed: digits only, and no zero before another digit. -/
def IsNumeral (digits : List Char) : Prop :=
  digits ≠ [] ∧ digits.all Char.isDigit ∧ (digits.head? = some '0' → digits = ['0'])

instance (digits : List Char) : Decidable (IsNumeral digits) := by
  unfold IsNumeral
  infer_instance

def numeralValue (digits : List Char) : ℕ := Nat.ofDigitChars 10 digits 0

theorem numeralValue_toDigits (n : ℕ) : numeralValue (Nat.toDigits 10 n) = n :=
  Nat.ofDigitChars_ten_toDigits

theorem isNumeral_toDigits (n : ℕ) : IsNumeral (Nat.toDigits 10 n) := by
  refine ⟨Nat.toDigits_ne_nil, List.all_eq_true.mpr fun d ↦ Nat.isDigit_of_mem_toDigits (by decide)
    (by decide), ?_⟩
  induction n using Nat.strong_induction_on with
  | h n ih =>
    intro hhead
    rcases Nat.lt_or_ge n 10 with hn | hn
    · rw [Nat.toDigits_of_lt_base hn] at hhead ⊢
      exact congrArg List.singleton (Option.some_inj.mp hhead)
    · rw [Nat.toDigits_of_base_le (by decide) hn,
        List.head?_append_of_ne_nil _ Nat.toDigits_ne_nil] at hhead
      have hzero := ih (n / 10) (by omega) hhead
      have hvalue : n / 10 = 0 := by
        rw [← numeralValue_toDigits (n / 10), hzero]
        rfl
      omega

theorem exists_digitChar {d : Char} (h : d.isDigit) : ∃ k < 10, d = k.digitChar := by
  obtain ⟨hlow, hhigh⟩ : 48 ≤ d.toNat ∧ d.toNat ≤ 57 := Char.isDigit_iff_toNat.mp h
  refine ⟨d.toNat - 48, by omega, Char.toNat_inj.mp ?_⟩
  rw [Nat.toNat_digitChar_of_lt_ten (by omega)]
  omega

theorem toDigits_of_isNumeral {digits : List Char} (h : IsNumeral digits) :
    ∃ n, digits = Nat.toDigits 10 n := by
  induction digits using List.reverseRecOn with
  | nil => exact absurd rfl h.1
  | append_singleton ds d ih =>
    obtain ⟨-, hall, hzero⟩ := h
    have hdigits := List.all_eq_true.mp hall
    obtain ⟨k, hk, rfl⟩ := exists_digitChar (hdigits d (by simp))
    cases ds with
    | nil => exact ⟨k, (Nat.toDigits_of_lt_base hk).symm⟩
    | cons e ds =>
      have hlead : e ≠ '0' := by
        intro he
        simpa using hzero (by simp [he])
      have hshorter : IsNumeral (e :: ds) :=
        ⟨by simp, List.all_eq_true.mpr fun c hc ↦ hdigits c (List.mem_append_left _ hc),
          fun he ↦ absurd (Option.some_inj.mp he) hlead⟩
      obtain ⟨n, hn⟩ := ih hshorter
      have hpos : 0 < n := by
        rcases Nat.eq_zero_or_pos n with rfl | hpos
        · exact absurd (List.cons.inj hn).1 hlead
        · exact hpos
      refine ⟨10 * n + k, ?_⟩
      rw [← Nat.toDigits_append_toDigits (by decide) hpos hk, ← hn, Nat.toDigits_of_lt_base hk]

theorem isNumeral_iff {digits : List Char} :
    IsNumeral digits ↔ (toString (numeralValue digits)).toList = digits := by
  rw [Nat.toString_eq_repr, Nat.toList_repr]
  constructor
  · intro h
    obtain ⟨n, rfl⟩ := toDigits_of_isNumeral h
    rw [numeralValue_toDigits]
  · intro h
    rw [← h]
    exact isNumeral_toDigits _

theorem isNumeral_toString (n : ℕ) : IsNumeral (toString n).toList := by
  rw [Nat.toString_eq_repr, Nat.toList_repr]
  exact isNumeral_toDigits n

theorem numeralValue_toString (n : ℕ) : numeralValue (toString n).toList = n := by
  rw [Nat.toString_eq_repr, Nat.toList_repr]
  exact numeralValue_toDigits n

end RmwIceoryx2.Library
