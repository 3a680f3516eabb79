import Stencil.Proofs.Result
import Stencil.Proofs.Text.Basic
import Stencil.Proofs.Text.Split
import Stencil.Route.Basic

/-!
How the parts of a route are written. A handler and a segment are read from the text that they are written
as, and from no other (`Handler.parse_eq_ok_iff`, `Segment.parse_eq_ok_iff`). A uri and its segments make up
each other (`Route.slices_uriOf`, `Route.uriOf_slices`).
-/
namespace Stencil

open Text

variable {s t : Text}

namespace Handler

variable {h : Handler} {e : Route.Error}

structure WellFormed (h : Handler) : Prop where
  controller_ne_nil : h.controller ≠ []
  action_ne_nil : h.action ≠ []
  sign_controller : '@' ∉ h.controller
  sign_action : '@' ∉ h.action

-- Exactly one at sign, with something on both sides of it.
def Written (t : Text) : Prop :=
  ∃ h : Handler, h.WellFormed ∧ h.text = t

theorem parse_of_not_mem (h : '@' ∉ t) : parse t = .error (.badHandler t) := by
  rw [parse, splitFirst_of_not_mem h]

theorem parse_append_cons (h : '@' ∉ s) : parse (s ++ '@' :: t) =
    if s ≠ [] && t ≠ [] && !t.contains '@' then .ok ⟨s, t⟩ else .error (.badHandler (s ++ '@' :: t)) := by
  rw [parse, splitFirst_append_cons h]

theorem parse_eq_ok_iff : parse t = .ok h ↔ h.WellFormed ∧ h.text = t := by
  constructor
  case mp =>
    intro hp
    by_cases ht : '@' ∈ t
    case neg => simp [parse_of_not_mem ht] at hp
    case pos =>
      obtain ⟨s, u, rfl, hs⟩ := List.eq_append_cons_of_mem ht
      rw [parse_append_cons hs] at hp
      split at hp
      case isFalse => cases hp
      case isTrue hg =>
        obtain rfl := Except.ok.inj hp
        obtain ⟨⟨hc, ha⟩, hm⟩ : (s ≠ [] ∧ u ≠ []) ∧ '@' ∉ u := by simpa using hg
        exact ⟨⟨hc, ha, hs, hm⟩, rfl⟩
  case mpr =>
    rintro ⟨hw, rfl⟩
    rw [text, parse_append_cons hw.sign_controller]
    simp [hw.controller_ne_nil, hw.action_ne_nil, hw.sign_action]

theorem written_iff : Written t ↔ ∃ h, parse t = .ok h := by
  simp only [Written, parse_eq_ok_iff]

theorem parse_eq_error_iff : parse t = .error e ↔ ¬Written t ∧ e = .badHandler t := by
  have hu (e : Route.Error) (h : parse t = .error e) : e = .badHandler t := by
    unfold parse at h
    split at h
    case h_1 => split at h <;> cases h; rfl
    case h_2 => cases h; rfl
  rw [eq_error_iff_of_unique hu, written_iff]

end Handler

namespace Route

namespace Segment

variable {u : Segment} {e : Error} {texts : List Text} {segments : List Segment}

def WellFormed : Segment → Prop
  | fixed t => ∀ c ∈ t, isBrace c = false
  | placeholder name => name ≠ [] ∧ ∀ c ∈ name, isBrace c = false

-- No brace at all, or a name without braces in a pair of them.
def Written (t : Text) : Prop :=
  ∃ u : Segment, u.WellFormed ∧ u.text = t

theorem parse_text (h : u.WellFormed) : parse u.text = .ok u := by
  cases u
  case fixed t =>
    have ht : t.any isBrace = false := by simpa [WellFormed] using h
    simp [parse, text, ht]
  case placeholder name =>
    obtain ⟨hn, hb⟩ := h
    have hb : name.any isBrace = false := by simpa using hb
    simp [parse, text, hn, hb, isBrace]

theorem wellFormed_of_parse (h : parse t = .ok u) : u.WellFormed ∧ u.text = t := by
  unfold parse at h
  split at h
  case isTrue hb =>
    obtain rfl := Except.ok.inj h
    exact ⟨by simpa [WellFormed] using hb, rfl⟩
  case isFalse =>
    dsimp only at h
    split at h
    case isFalse => cases h
    case isTrue hg =>
      obtain rfl := Except.ok.inj h
      simp only [Bool.and_eq_true, decide_eq_true_eq, Bool.not_eq_true'] at hg
      obtain ⟨⟨⟨ho, hc⟩, hn⟩, hb⟩ := hg
      obtain ⟨rest, rfl⟩ := List.head?_eq_some_iff.mp ho
      obtain ⟨name, rfl⟩ : ∃ name, rest = name ++ ['}'] := List.getLast?_eq_some_iff.mp hc
      simp_all [WellFormed, text]

theorem parse_eq_ok_iff : parse t = .ok u ↔ u.WellFormed ∧ u.text = t :=
  ⟨wellFormed_of_parse, fun ⟨hw, ht⟩ => ht ▸ parse_text hw⟩

theorem written_iff : Written t ↔ ∃ u, parse t = .ok u := by
  simp only [Written, parse_eq_ok_iff]

theorem parse_eq_error_iff : parse t = .error e ↔ ¬Written t ∧ e = .badPlaceholder t := by
  have hu (e : Error) (h : parse t = .error e) : e = .badPlaceholder t := by
    unfold parse at h
    dsimp only at h
    repeat' split at h
    all_goals cases h
    rfl
  rw [eq_error_iff_of_unique hu, written_iff]

theorem parseAll_map_text (h : ∀ u ∈ segments, u.WellFormed) :
    parseAll (segments.map text) = .ok segments := by
  induction segments
  case nil => rfl
  case cons u rest hi =>
    have ⟨hu, hr⟩ := List.forall_mem_cons.mp h
    simp [parseAll, parse_text hu, hi hr, Except.map]

theorem wellFormed_of_parseAll (h : parseAll texts = .ok segments) :
    (∀ u ∈ segments, u.WellFormed) ∧ segments.map text = texts := by
  induction texts generalizing segments
  case nil => simp [← Except.ok.inj h]
  case cons t rest hi =>
    rw [parseAll] at h
    cases hp : parse t
    case error => simp [hp] at h
    case ok u =>
      cases hr : parseAll rest
      case error => simp [hp, hr, Except.map] at h
      case ok us =>
        obtain rfl : u :: us = segments := by simpa [hp, hr, Except.map] using h
        obtain ⟨hw, rfl⟩ := wellFormed_of_parse hp
        obtain ⟨hs, rfl⟩ := hi hr
        exact ⟨List.forall_mem_cons.mpr ⟨hw, hs⟩, rfl⟩

theorem parseAll_eq_ok_iff :
    parseAll texts = .ok segments ↔ (∀ u ∈ segments, u.WellFormed) ∧ segments.map text = texts :=
  ⟨wellFormed_of_parseAll, fun ⟨hw, ht⟩ => ht ▸ parseAll_map_text hw⟩

-- The leftmost text that is not a segment is reported.
theorem parseAll_eq_error_iff : parseAll texts = .error e ↔ ∃ before t after, texts = before ++ t :: after ∧
    (∀ u ∈ before, Written u) ∧ ¬Written t ∧ e = .badPlaceholder t := by
  induction texts
  case nil => simp [parseAll]
  case cons t rest hi =>
    rw [parseAll, exists_first_cons_iff, ← hi, ← parse_eq_error_iff, written_iff]
    cases hp : parse t
    case error => simp
    case ok u => cases hr : parseAll rest <;> simp [Except.map]

end Segment

variable {pattern p : Text} {e : Error} {parts : List Text} {c : Char}

-- The text with a slash in front, unless there is one.
def rooted (t : Text) : Text :=
  if t.head? = some '/' then t else '/' :: t

@[simp]
theorem head?_rooted (t : Text) : (rooted t).head? = some '/' := by
  unfold rooted
  split
  case isTrue h => exact h
  case isFalse => rfl

theorem rooted_of_head? (h : t.head? = some '/') : rooted t = t :=
  if_pos h

-- Blanks stand around it only.
def Unbroken (pattern : Text) : Prop :=
  ∀ c ∈ trimBlank pattern, isBlank c = false

theorem trimBlank_eq_self (h : ∀ c ∈ t, isBlank c = false) : trimBlank t = t :=
  trim_eq_self h

theorem unbroken_of_forall (h : ∀ c ∈ t, isBlank c = false) : Unbroken t := by
  rwa [Unbroken, trimBlank_eq_self h]

theorem Unbroken.rooted (h : Unbroken pattern) : ∀ c ∈ rooted (trimBlank pattern), isBlank c = false := by
  unfold Route.rooted
  split
  case isTrue => exact h
  case isFalse => exact List.forall_mem_cons.mpr ⟨rfl, h⟩

theorem normalize_of_unbroken (h : Unbroken pattern) :
    normalize pattern = .ok (rooted <| trimBlank pattern) := by
  have h : (trimBlank pattern).any isBlank = false := by simpa [Unbroken] using h
  simp only [normalize, rooted, h, Bool.false_eq_true, if_false]
  split <;> rfl

theorem normalize_of_not_unbroken (h : ¬Unbroken pattern) :
    normalize pattern = .error (.blankInPattern pattern) := by
  have h : (trimBlank pattern).any isBlank = true := by simpa [Unbroken] using h
  simp only [normalize, h, if_true]

theorem normalize_eq_ok_iff :
    normalize pattern = .ok p ↔ Unbroken pattern ∧ p = rooted (trimBlank pattern) := by
  by_cases h : Unbroken pattern
  case pos => simp [normalize_of_unbroken h, h, eq_comm]
  case neg => simp [normalize_of_not_unbroken h, h]

theorem normalize_eq_error_iff :
    normalize pattern = .error e ↔ ¬Unbroken pattern ∧ e = .blankInPattern pattern := by
  by_cases h : Unbroken pattern
  case pos => simp [normalize_of_unbroken h, h]
  case neg => simp [normalize_of_not_unbroken h, h, eq_comm]

theorem slices_cons_slash (t : Text) : slices ('/' :: t) = slices t := by
  simp [slices, split]

@[simp]
theorem slices_rooted (t : Text) : slices (rooted t) = slices t := by
  unfold rooted
  split
  case isTrue => rfl
  case isFalse => exact slices_cons_slash t

theorem exists_mem_slices_of_mem (h : c ∈ t) (hc : c ≠ '/') : ∃ s ∈ slices t, c ∈ s := by
  have ⟨s, hs, hm⟩ := exists_mem_split_of_mem h hc
  exact ⟨s, List.mem_filter.mpr ⟨hs, by simpa using List.ne_nil_of_mem hm⟩, hm⟩

-- What a uri may have between slashes.
structure IsPart (s : Text) : Prop where
  ne_nil : s ≠ []
  slash : '/' ∉ s
  brace : ∀ c ∈ s, Segment.isBrace c = false
  blank : ∀ c ∈ s, isBlank c = false

-- Nothing stands before the slash in front, and there is an empty text behind it only if there is nothing else.
structure IsUri (t : Text) : Prop where
  root : t.head? = some '/'
  full : t = ['/'] ∨ [] ∉ (split '/' t).tail
  brace : ∀ c ∈ t, Segment.isBrace c = false
  blank : ∀ c ∈ t, isBlank c = false

theorem split_uriOf (h : ∀ s ∈ parts, IsPart s) (hn : parts ≠ []) : split '/' (uriOf parts) = [] :: parts := by
  rw [uriOf, split, if_pos rfl, split_intercalate (fun s hs => (h s hs).slash) hn]

theorem slices_uriOf (h : ∀ s ∈ parts, IsPart s) : slices (uriOf parts) = parts := by
  by_cases hn : parts = []
  case pos =>
    subst hn
    rfl
  case neg =>
    rw [slices, split_uriOf h hn, List.filter_cons_of_neg (by simp)]
    exact List.filter_eq_self.mpr fun s hs => by simpa using (h s hs).ne_nil

theorem uriOf_slices (h : IsUri t) : uriOf (slices t) = t := by
  obtain ⟨t, rfl⟩ := List.head?_eq_some_iff.mp h.root
  rw [slices_cons_slash, uriOf]
  obtain ht | ht := h.full
  case inl =>
    obtain rfl := (List.cons.inj ht).right
    rfl
  case inr =>
    have hs : slices t = split '/' t := by
      refine List.filter_eq_self.mpr fun s hs => decide_eq_true ?_
      rintro rfl
      exact ht <| by simpa [split] using hs
    rw [hs, intercalate_split]

theorem isUri_uriOf (h : ∀ s ∈ parts, IsPart s) : IsUri (uriOf parts) := by
  have hc (c : Char) (hm : c ∈ uriOf parts) : Segment.isBrace c = false ∧ isBlank c = false := by
    by_cases he : c = '/'
    case pos =>
      subst he
      decide
    case neg =>
      have ⟨s, hp, hm⟩ := slices_uriOf h ▸ exists_mem_slices_of_mem hm he
      exact ⟨(h s hp).brace c hm, (h s hp).blank c hm⟩
  refine ⟨rfl, ?full, fun c hm => (hc c hm).left, fun c hm => (hc c hm).right⟩
  by_cases hn : parts = []
  case pos =>
    subst hn
    exact .inl rfl
  case neg =>
    rw [split_uriOf h hn]
    exact .inr fun hm => (h [] hm).ne_nil rfl

end Route
end Stencil
