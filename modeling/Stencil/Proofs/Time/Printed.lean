import Mathlib.Algebra.Group.Nat.Defs
import Mathlib.Data.List.TakeWhile
import Stencil.Proofs.Text.Basic
import Stencil.Time.Printer
import Stencil.Time.Reader

/-!
Instants that are printed are read back (`Instant.parse?_print`). Every number has a fixed number of digits,
and the fraction of a second as many as it needs.
-/
namespace Stencil.Instant

open Reader

variable {width n low high : Nat} {rest : Text} {i : Instant} {c : Char}

@[simp]
theorem length_padded (width n : Nat) : (padded width n).length = width := by
  induction width generalizing n
  case zero => rfl
  case succ hi => simp [padded, hi]

theorem isDigit_of_mem_padded (h : c ∈ padded width n) : c.isDigit := by
  induction width generalizing n
  case zero => simp [padded] at h
  case succ hi =>
    rw [padded, List.mem_append, List.mem_singleton] at h
    obtain h | rfl := h
    case inl => exact hi h
    case inr => simp [Nat.isDigit_digitChar, Nat.mod_lt]

theorem digitsValue_concat (t : Text) (c : Char) :
    Text.digitsValue (t ++ [c]) = 10 * Text.digitsValue t + (c.toNat - '0'.toNat) := by
  rw [Text.digitsValue, List.foldl_append]
  rfl

theorem digitsValue_padded (h : n < 10 ^ width) : Text.digitsValue (padded width n) = n := by
  induction width generalizing n
  case zero =>
    obtain rfl : n = 0 := by simpa using h
    rfl
  case succ width hi =>
    have hd : n / 10 < 10 ^ width := by
      rw [Nat.pow_succ] at h
      omega
    have hc : (Nat.digitChar (n % 10)).toNat - '0'.toNat = n % 10 :=
      Nat.toNat_digitChar_sub_48_of_lt_ten <| Nat.mod_lt n (by decide)
    rw [padded, digitsValue_concat, hi hd, hc]
    omega

theorem takeWhile_padded (width n : Nat) : (padded width n).takeWhile Char.isDigit = padded width n :=
  List.takeWhile_eq_self_iff.mpr fun _ => isDigit_of_mem_padded

theorem number?_padded (hw : 0 < width) (h : n < 10 ^ width) (rest : Text) :
    number? width (padded width n ++ rest) = some (n, rest) := by
  have ht : (padded width n ++ rest).take width = padded width n := by simp
  have hn : padded width n ≠ [] := by rwa [← List.length_pos_iff, length_padded]
  simp [number?, ht, takeWhile_padded, hn, digitsValue_padded h]

theorem isBlank_of_isDigit (h : c.isDigit) : Text.isBlank c = false := by
  have h : 48 ≤ c.toNat ∧ c.toNat ≤ 57 := by
    simpa [Char.isDigit, UInt32.le_iff_toNat_le] using h
  simp [Text.isBlank]
  omega

-- A number starts with a digit.
theorem exists_padded_eq_cons (hw : 0 < width) (n : Nat) : ∃ c t, padded width n = c :: t ∧ c.isDigit := by
  obtain ⟨c, t, hp⟩ := List.exists_cons_of_length_pos (length_padded width n ▸ hw)
  exact ⟨c, t, hp, isDigit_of_mem_padded <| hp ▸ List.mem_cons_self⟩

theorem skipBlank_padded (hw : 0 < width) (n : Nat) (rest : Text) :
    skipBlank (padded width n ++ rest) = padded width n ++ rest := by
  obtain ⟨c, t, hp, hc⟩ := exists_padded_eq_cons hw n
  simp [skipBlank, hp, isBlank_of_isDigit hc]

theorem field?_padded (hl : low ≤ n) (hh : n ≤ high) (hw : 0 < width) (h : high < 10 ^ width) (rest : Text) :
    field? width low high (padded width n ++ rest) = some (n, rest) := by
  simp [field?, skipBlank_padded hw, number?_padded hw (Nat.lt_of_le_of_lt hh h), hl, hh, guard]

theorem year?_padded (h : n < 10 ^ 4) (rest : Text) : year? (padded 4 n ++ rest) = some ((n : Int), rest) := by
  obtain ⟨c, t, hp, hc⟩ := exists_padded_eq_cons (show 0 < 4 by decide) n
  have hm : c ≠ '-' := by
    rintro rfl
    exact absurd hc (by decide)
  have hq : c ≠ '+' := by
    rintro rfl
    exact absurd hc (by decide)
  have hn := number?_padded (by decide) h rest
  rw [year?, skipBlank_padded (by decide)]
  rw [hp, List.cons_append] at hn ⊢
  simp [hn, hm, hq]

theorem sign?_cons (h : Text.isBlank c = false) (rest : Text) : sign? c (c :: rest) = some rest := by
  simp [sign?, skipBlank, h]

-- The fraction of a second is written with no digits, or with three, six or nine of them.
theorem fractionText_cases (n : Nat) : n = 0 ∧ fractionText n = [] ∨ ∃ width ∈ [3, 6, 9], ∃ k,
    fractionText n = '.' :: padded width k ∧ k * 10 ^ (9 - width) = n := by
  unfold fractionText
  split
  case isTrue h => exact .inl ⟨h, rfl⟩
  case isFalse =>
    right
    split
    case isTrue h => exact ⟨3, by simp, _, rfl, Nat.div_mul_cancel <| Nat.dvd_of_mod_eq_zero h⟩
    case isFalse =>
      split
      case isTrue h => exact ⟨6, by simp, _, rfl, Nat.div_mul_cancel <| Nat.dvd_of_mod_eq_zero h⟩
      case isFalse => exact ⟨9, by simp, n, rfl, by simp⟩

theorem fraction?_padded (hw : 0 < width) (h9 : width ≤ 9) (h : n < 10 ^ width) :
    fraction? ('.' :: (padded width n ++ ['Z'])) = some (n * 10 ^ (9 - width), ['Z']) := by
  have hp : ∀ c ∈ padded width n, c.isDigit := fun _ => isDigit_of_mem_padded
  have ht : ((padded width n ++ ['Z']).take 9).takeWhile Char.isDigit = padded width n := by
    have hz (m : Nat) : (['Z'].take m).takeWhile Char.isDigit = [] := by cases m <;> rfl
    rw [List.take_append, List.take_of_length_le (by simpa using h9), List.takeWhile_append_of_pos hp, hz,
      List.append_nil]
  have hn : padded width n ≠ [] := by rwa [← List.length_pos_iff, length_padded]
  have hd : (padded width n ++ ['Z']).dropWhile Char.isDigit = ['Z'] := Text.dropWhile_append_cons hp rfl
  simp [fraction?, ht, hn, hd, digitsValue_padded h]

theorem fraction?_fractionText (h : n < 10 ^ 9) : fraction? (fractionText n ++ ['Z']) = some (n, ['Z']) := by
  obtain ⟨rfl, hf⟩ | ⟨width, hw, k, hf, hk⟩ := fractionText_cases n
  case inl => simp [hf, fraction?]
  case inr =>
    have hw : 0 < width ∧ width ≤ 9 := by
      simp only [List.mem_cons, List.not_mem_nil, or_false] at hw
      omega
    have hk' : k < 10 ^ width := by
      have hp : 10 ^ 9 = 10 ^ width * 10 ^ (9 - width) := by rw [← Nat.pow_add, Nat.add_sub_cancel' hw.right]
      exact Nat.lt_of_mul_lt_mul_right <| hp ▸ hk.symm ▸ h
    rw [hf, List.cons_append, fraction?_padded hw.left hw.right hk', hk]

theorem offset?_zulu : offset? ['Z'] = some (0, []) := by
  decide

theorem addMinutes_zero (h : i.isValid) : i.addMinutes 0 = i := by
  simp [isValid] at h
  obtain ⟨year, month, day, hour, minute, second, nanosecond⟩ := i
  simp at h
  have hm : (60 * (hour : Int) + minute) % 1440 = 60 * hour + minute := by omega
  have hp : ¬(60 * (hour : Int) + minute < 0) := by omega
  have hq : ¬(1440 ≤ 60 * (hour : Int) + minute) := by omega
  simp [addMinutes, hm, hp, hq]
  omega

theorem print_eq (hl : 0 ≤ i.year) (hh : i.year ≤ 9999) : i.print =
    padded 4 i.year.natAbs ++ '-' :: (padded 2 i.month ++ '-' :: (padded 2 i.day ++ 'T' :: (padded 2 i.hour ++
      ':' :: (padded 2 i.minute ++ ':' :: (padded 2 i.second ++ (fractionText i.nanosecond ++ ['Z'])))))) := by
  simp [print, yearText, hl, hh]

theorem point_not_mem_padded (width n : Nat) : '.' ∉ padded width n :=
  fun h => absurd (isDigit_of_mem_padded h) (by decide)

theorem exists_decimals (hl : 0 ≤ i.year) (hh : i.year ≤ 9999) : ∃ seconds digits,
    i.print = seconds ++ (if digits = [] then [] else '.' :: digits) ++ ['Z'] ∧ '.' ∉ seconds ∧
      digits.length ∈ [0, 3, 6, 9] ∧ ∀ c ∈ digits, c.isDigit := by
  let seconds := padded 4 i.year.natAbs ++ '-' :: (padded 2 i.month ++ '-' :: (padded 2 i.day ++ 'T' ::
    (padded 2 i.hour ++ ':' :: (padded 2 i.minute ++ ':' :: padded 2 i.second))))
  have hp : i.print = seconds ++ fractionText i.nanosecond ++ ['Z'] := by simp [print_eq hl hh, seconds]
  have hn : '.' ∉ seconds := by simp [seconds, point_not_mem_padded]
  obtain ⟨-, hf⟩ | ⟨width, hw, k, hf, -⟩ := fractionText_cases i.nanosecond
  case inl => exact ⟨seconds, [], by simp [hp, hf], hn, by simp, by simp⟩
  case inr =>
    have hd : padded width k ≠ [] := by
      rw [← List.length_pos_iff, length_padded]
      exact Nat.pos_of_ne_zero fun h => absurd (h ▸ hw) (by decide)
    refine ⟨seconds, padded width k, by simp [hp, hf, hd], hn, ?_, fun c => isDigit_of_mem_padded⟩
    rw [length_padded]
    exact .tail _ hw

theorem parse?_print (h : i.isValid) (hl : 0 ≤ i.year) (hh : i.year ≤ 9999) : parse? i.print = some i := by
  have hv := h
  simp only [isValid, Bool.and_eq_true, decide_eq_true_eq] at hv
  obtain ⟨⟨⟨⟨⟨⟨⟨⟨⟨-, -⟩, hm⟩, hm'⟩, hd⟩, hd'⟩, hhour⟩, hminute⟩, hsecond⟩, hnano⟩ := hv
  have hdays : daysIn i.year i.month ≤ 31 := by
    unfold daysIn
    grind
  have year (rest : Text) : year? (padded 4 i.year.natAbs ++ rest) = some (i.year, rest) := by
    rw [year?_padded (by omega), Int.natAbs_of_nonneg hl]
  have month (rest : Text) : field? 2 1 12 (padded 2 i.month ++ rest) = some (i.month, rest) :=
    field?_padded hm hm' (by decide) (by decide) rest
  have day (rest : Text) : field? 2 1 31 (padded 2 i.day ++ rest) = some (i.day, rest) :=
    field?_padded hd (hd'.trans hdays) (by decide) (by decide) rest
  have hour (rest : Text) : field? 2 0 23 (padded 2 i.hour ++ rest) = some (i.hour, rest) :=
    field?_padded (Nat.zero_le _) (by omega) (by decide) (by decide) rest
  have minute (rest : Text) : field? 2 0 59 (padded 2 i.minute ++ rest) = some (i.minute, rest) :=
    field?_padded (Nat.zero_le _) (by omega) (by decide) (by decide) rest
  have second (rest : Text) : field? 2 0 60 (padded 2 i.second ++ rest) = some (i.second, rest) :=
    field?_padded (Nat.zero_le _) hsecond (by decide) (by decide) rest
  have hyphen (rest : Text) : sign? '-' ('-' :: rest) = some rest := sign?_cons (by decide) rest
  have colon (rest : Text) : sign? ':' (':' :: rest) = some rest := sign?_cons (by decide) rest
  have hz : i.addMinutes (-0) = i := addMinutes_zero h
  rw [print_eq hl hh]
  refine Option.bind_eq_some_iff.mpr ⟨_, year _, ?_⟩
  refine Option.bind_eq_some_iff.mpr ⟨_, hyphen _, ?_⟩
  refine Option.bind_eq_some_iff.mpr ⟨_, month _, ?_⟩
  refine Option.bind_eq_some_iff.mpr ⟨_, hyphen _, ?_⟩
  refine Option.bind_eq_some_iff.mpr ⟨_, day _, ?_⟩
  refine Option.bind_eq_some_iff.mpr ⟨(), rfl, ?_⟩
  refine Option.bind_eq_some_iff.mpr ⟨_, hour _, ?_⟩
  refine Option.bind_eq_some_iff.mpr ⟨_, colon _, ?_⟩
  refine Option.bind_eq_some_iff.mpr ⟨_, minute _, ?_⟩
  refine Option.bind_eq_some_iff.mpr ⟨_, colon _, ?_⟩
  refine Option.bind_eq_some_iff.mpr ⟨_, second _, ?_⟩
  refine Option.bind_eq_some_iff.mpr ⟨_, fraction?_fractionText hnano .., ?_⟩
  refine Option.bind_eq_some_iff.mpr ⟨_, offset?_zulu, ?_⟩
  refine Option.bind_eq_some_iff.mpr ⟨(), rfl, ?_⟩
  refine Option.bind_eq_some_iff.mpr ⟨(), if_pos h, ?_⟩
  refine Option.bind_eq_some_iff.mpr ⟨(), if_pos (hz.symm ▸ h), ?_⟩
  exact congrArg some hz

end Stencil.Instant
