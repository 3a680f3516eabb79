import Stencil.Json.Tree

/-!
Numerals without a fraction and an exponent. Such a numeral is read as the whole number that its digits spell if 64
bits hold it (`Json.Numeral.Spells.value?_eq`). Only `-0` is none: it keeps its sign and is read as floating-point zero.
-/
namespace Stencil

namespace Text

theorem le_foldl_digit (digits : Text) (significand : Nat) :
    significand ≤ digits.foldl (fun n c => 10 * n + (c.toNat - '0'.toNat)) significand := by
  induction digits generalizing significand
  case nil => exact Nat.le_refl _
  case cons c digits hi =>
    have hc : significand ≤ 10 * significand + (c.toNat - '0'.toNat) := by omega
    exact Nat.le_trans hc (hi _)

end Text

namespace Json.Numeral

-- The numeral spells a whole number by its digits and its sign.
structure Spells (n : Numeral) (i : Int) : Prop where
  fraction : n.fraction? = none
  exponent : n.exponent? = none
  value : i = if n.negative then -(Text.digitsValue n.whole : Int) else Text.digitsValue n.whole

variable {n : Numeral} {i : Int} {digits : Text} {significand : Nat}

theorem gather_of_le
    (h : digits.foldl (fun n c => 10 * n + (c.toNat - '0'.toNat)) significand ≤ maxSignificand) :
    gather significand digits =
      (digits.foldl (fun n c => 10 * n + (c.toNat - '0'.toNat)) significand, digits.length) := by
  induction digits generalizing significand
  case nil => rfl
  case cons c digits hi =>
    have hc := Nat.le_trans (Text.le_foldl_digit digits _) h
    rw [gather, if_pos hc, hi h]
    rfl

theorem gather_whole (h : Text.digitsValue n.whole ≤ maxSignificand) :
    gather 0 n.whole = (Text.digitsValue n.whole, n.whole.length) :=
  gather_of_le h

theorem Spells.value?_eq (h : n.Spells i) (hz : n.negative → i ≠ 0) (hl : -(Nat.pow 2 63 : Nat) ≤ i)
    (hh : i ≤ maxSignificand) : n.value? = some (.int i) := by
  obtain ⟨hf, he, hi⟩ := h
  have hm : Nat.pow 2 63 ≤ maxSignificand := by decide
  cases hn : n.negative
  case false =>
    obtain rfl : i = Text.digitsValue n.whole := by simpa [hn] using hi
    simp [value?, hf, he, hn, gather_whole (Int.ofNat_le.mp hh)]
  case true =>
    obtain rfl : i = -(Text.digitsValue n.whole : Int) := by simpa [hn] using hi
    have hs : Text.digitsValue n.whole ≤ Nat.pow 2 63 := by omega
    have hp : 0 < Text.digitsValue n.whole := by
      have := hz hn
      omega
    simp [value?, hf, he, hn, gather_whole (Nat.le_trans hs hm), hp, hs]

end Json.Numeral
end Stencil
