import Mathlib.Data.Option.Basic
import Stencil.Settings.Source

/-!
What becomes of a text that is read as a value and written down again. It is kept as it is unless it spells a truth
value or a number (`Settings.exists_text?_ofText_eq`), and there is only one thing that it can become
(`Settings.Settles.unique`).
-/
namespace Stencil.Settings

open Number

-- What is written down for the value that a text is read as.
inductive Settles (t : Text) : Text → Prop
  | truth {b : Bool} : Text.lowerAscii t = Text.ofBool b → Settles t (Text.ofBool b)
  | whole {i : Int} : int? Scalar.minInt Scalar.maxInt t = some i → Settles t (Text.ofInt i)
  | real {x : Binary64} :
    int? Scalar.minInt Scalar.maxInt t = none → double? t = some x → Settles t (Layout.plain.render x)
  | verbatim :
    (∀ b, Text.lowerAscii t ≠ Text.ofBool b) → int? Scalar.minInt Scalar.maxInt t = none →
    double? t = none → Settles t t

theorem isAlpha_iff {c : Char} : c.isAlpha ↔ 65 ≤ c.val ∧ c.val ≤ 90 ∨ 97 ≤ c.val ∧ c.val ≤ 122 := by
  change (decide (c.val ≥ 65 ∧ c.val ≤ 90) || (c.val ≥ 97 && c.val ≤ 122)) = true ↔ _
  simp

theorem isDigit_of_isAlpha {c : Char} (hc : c.isAlpha) : c.isDigit = false := by
  change (c.val ≥ 48 && c.val ≤ 57) = false
  have := isAlpha_iff.mp hc
  grind

theorem sign_cons {c : Char} (hc : c.isAlpha) (t : Text) : sign (c :: t) = (false, c :: t) := by
  have hm : c ≠ '-' := by
    rintro rfl
    contradiction
  have hp : c ≠ '+' := by
    rintro rfl
    contradiction
  simp [sign, hm, hp]

-- A text that starts with a letter is no whole number, and no number at all unless it is the name of one.
theorem int?_cons_eq_none {c : Char} (hc : c.isAlpha) (low high : Int) (t : Text) :
    int? low high (c :: t) = none := by
  simp [int?, sign_cons hc, digits?, isDigit_of_isAlpha hc]

theorem double?_cons_eq_none {c : Char} (hc : c.isAlpha) {t : Text}
    (hn : ∀ name ∈ (["inf", "infinity", "nan"] : List Text), Text.lowerAscii (c :: t) ≠ name) :
    double? (c :: t) = none := by
  have hp : c ≠ '.' := by
    rintro rfl
    contradiction
  obtain ⟨hinf, hn⟩ := List.forall_mem_cons.mp hn
  obtain ⟨hinfinity, hn⟩ := List.forall_mem_cons.mp hn
  have hnan := List.forall_mem_singleton.mp hn
  simp only [double?, sign_cons hc, hinf, hinfinity, hnan]
  simp [magnitude?, isDigit_of_isAlpha hc, hp]

theorem isAlpha_of_toLower {c : Char} (h : c.toLower.isAlpha) : c.isAlpha := by
  by_cases hu : c.val ≥ 'A'.val ∧ c.val ≤ 'Z'.val
  case pos => exact isAlpha_iff.mpr (.inl hu)
  case neg =>
    have hc : c.toLower = c := dif_neg hu
    rwa [hc] at h

theorem number_eq_none_of_truth {t : Text} {b : Bool} (h : Text.lowerAscii t = Text.ofBool b) :
    int? Scalar.minInt Scalar.maxInt t = none ∧ double? t = none := by
  cases t
  case nil => cases b <;> contradiction
  case cons c t =>
    have hc : c.isAlpha := by
      have hl : c.toLower = 't' ∨ c.toLower = 'f' := by
        cases b
        case true => exact .inl (List.cons.inj h).left
        case false => exact .inr (List.cons.inj h).left
      exact isAlpha_of_toLower <| by obtain hl | hl := hl <;> rw [hl] <;> decide
    refine ⟨int?_cons_eq_none hc _ _ t, double?_cons_eq_none hc ?_⟩
    rw [h]
    cases b <;> decide

theorem Settles.unique {t u u' : Text} (h : Settles t u) (h' : Settles t u') : u = u' := by
  cases h <;> cases h'
  case truth.truth hb _ hb' => exact hb.symm.trans hb'
  all_goals grind [number_eq_none_of_truth]

theorem exists_text?_ofText_eq (t : Text) : ∃ u, (Scalar.ofText t).text? = some u ∧ Settles t u := by
  unfold Scalar.ofText
  by_cases ht : Text.lowerAscii t = "true"
  case pos => exact ⟨_, by rw [if_pos ht]; rfl, .truth (b := true) ht⟩
  case neg =>
    rw [if_neg ht]
    by_cases hf : Text.lowerAscii t = "false"
    case pos => exact ⟨_, by rw [if_pos hf]; rfl, .truth (b := false) hf⟩
    case neg =>
      rw [if_neg hf]
      cases hi : int? Scalar.minInt Scalar.maxInt t
      case some i => exact ⟨_, rfl, .whole hi⟩
      case none =>
        cases hx : double? t
        case some x => exact ⟨_, rfl, .real hi hx⟩
        case none =>
          refine ⟨t, rfl, .verbatim (fun b => ?_) hi hx⟩
          cases b
          case true => exact ht
          case false => exact hf

end Stencil.Settings
