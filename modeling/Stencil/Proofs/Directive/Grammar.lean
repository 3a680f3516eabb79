import Stencil.Proofs.Directive.Variable
import Stencil.Proofs.Text.Leftmost

/-!
The grammars of the two directives, written as productions, and what is reported of a text: the leftmost
matches of a grammar that do not overlap. A match may fail after a long start of it has been read, but
the search goes on right behind the first character, so nothing that starts within is missed.
-/
namespace Stencil.Directive

open Text

namespace Inclusion

variable {d : Inclusion} {m t : Text}

-- `##` WS* `include('` TARGET `')` WS* `##`
inductive Grammar : Text → Inclusion → Prop
  | intro {before target after : Text} :
    (∀ c ∈ before, isSpace c) → target ≠ [] → (∀ c ∈ target, c ≠ '\'' ∧ isSpace c = false) →
    (∀ c ∈ after, isSpace c) →
    Grammar ("##" ++ before ++ "include('" ++ target ++ "')" ++ after ++ "##") ⟨before, target, after⟩

theorem grammar_iff : Grammar m d ↔ d.WellFormed ∧ d.raw = m := by
  constructor
  case mp =>
    rintro ⟨hb, hn, ht, ha⟩
    exact ⟨⟨hb, hn, fun c hc => by simpa [isTarget] using ht c hc, ha⟩, rfl⟩
  case mpr =>
    rintro ⟨h, rfl⟩
    exact .intro h.before h.target_ne_nil (fun c hc => by simpa [isTarget] using h.target c hc) h.after

theorem inclusions_eq_iff_leftmost (t : Text) (os : List (Occurrence Inclusion)) :
    occurrences t = os ↔ Leftmost raw Grammar t os :=
  recogniser_reads.occurrences_eq_iff fun _ _ => grammar_iff

-- The first marker starts no directive, but it does not hide the one that starts with the second.
example : occurrences "## ## include('a##b')##" = [⟨3, ⟨" ", "a##b", ""⟩⟩] := by
  decide

end Inclusion

namespace Variable

variable {v : Variable} {f m t : Text}

-- [`e`] `@`
inductive Sign : Text → Bool → Prop
  | plain : Sign "@" false
  | escaped : Sign "e@" true

-- [`|` DEFAULT], where no marker comes before the one that ends the default.
inductive Alternative : Text → Option Text → Prop
  | none : Alternative [] none
  | some {f : Text} :
    '|' ∉ f → (∀ x y, f ++ marker = x ++ marker ++ y → y = []) → Alternative ('|' :: f) (some f)

-- `##` WS [`e`] `@` NAME [`|` DEFAULT] `##`
inductive Grammar : Text → Variable → Prop
  | intro {gap : Char} {sign label bar : Text} {escaped : Bool} {alternative? : Option Text} :
    isSpace gap → Sign sign escaped → label ≠ [] → (∀ c ∈ label, isWord c ∨ isSpace c) →
    Alternative bar alternative? →
    Grammar ("##" ++ [gap] ++ sign ++ label ++ bar ++ "##") ⟨gap, escaped, label, alternative?⟩

theorem sign_iff {sign : Text} {escaped : Bool} :
    Sign sign escaped ↔ (if escaped then ['e', '@'] else ['@']) = sign := by
  constructor
  case mp => rintro (_ | _) <;> rfl
  case mpr =>
    rintro rfl
    cases escaped
    case false => exact .plain
    case true => exact .escaped

-- A marker that starts within the default ends with the first character after it or before that.
theorem first_marker_iff :
    (∀ x y, f ++ marker = x ++ marker ++ y → y = []) ↔ ¬ marker <:+: f ++ ['#'] := by
  have hm : f ++ marker = f ++ ['#'] ++ ['#'] := by simp [marker_eq]
  rw [hm]
  constructor
  case mp =>
    rintro h ⟨x, y, he⟩
    have hy := h x (y ++ ['#']) (by rw [← he, List.append_assoc])
    simp at hy
  case mpr =>
    intro h x y he
    obtain rfl | ⟨y, c, rfl⟩ := List.eq_nil_or_concat y
    case inl => rfl
    case inr =>
      rw [List.concat_eq_append, ← List.append_assoc] at he
      exact absurd ⟨x, y, (List.append_inj' he rfl).left.symm⟩ h

theorem alternative_iff {bar : Text} {alternative? : Option Text} : Alternative bar alternative? ↔
    Variable.bar alternative? = bar ∧
      ∀ f ∈ alternative?, '|' ∉ f ∧ ¬ marker <:+: f ++ ['#'] := by
  constructor
  case mp =>
    rintro (_ | ⟨hb, hm⟩)
    · exact ⟨rfl, by simp⟩
    · exact ⟨rfl, by simpa using ⟨hb, first_marker_iff.mp hm⟩⟩
  case mpr =>
    rintro ⟨rfl, h⟩
    cases alternative?
    case none => exact .none
    case some f => exact .some (h f rfl).left <| first_marker_iff.mpr (h f rfl).right

theorem grammar_iff : Grammar m v ↔ v.WellFormed ∧ v.raw = m := by
  constructor
  case mp =>
    rintro ⟨hg, hs, hn, hl, ha⟩
    obtain rfl := sign_iff.mp hs
    obtain ⟨rfl, hd⟩ := alternative_iff.mp ha
    refine ⟨⟨hg, hn, fun c hc => ?_, fun f hf => (hd f hf).left, fun f hf => (hd f hf).right⟩, rfl⟩
    simpa [isLabel] using hl c hc
  case mpr =>
    rintro ⟨h, rfl⟩
    refine .intro h.gap (sign_iff.mpr rfl) h.label_ne_nil (fun c hc => ?_) <| alternative_iff.mpr ⟨rfl, ?_⟩
    · simpa [isLabel] using h.label c hc
    · exact fun f hf => ⟨h.alternative_bar f hf, h.alternative_marker f hf⟩

theorem variables_eq_iff_leftmost (t : Text) (os : List (Occurrence Variable)) :
    (occurrences t = os ↔ Leftmost raw Grammar t os) ∧
    ∀ v : Variable, Trims isSpace v.label v.name ∧ Trims isSpace (v.alternative?.getD []) v.fallback where
  left := recogniser_reads.occurrences_eq_iff fun _ _ => grammar_iff
  right v := ⟨trims_trim isSpace v.label, trims_trim isSpace _⟩

-- Of three number signs in a row those that are followed by white space start the directive, and the
-- first two end the default.
example : occurrences "### @a|b###" = [⟨1, ⟨' ', false, "a", some "b"⟩⟩] := by
  decide

end Variable
end Stencil.Directive
