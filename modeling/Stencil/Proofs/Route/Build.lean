import Stencil.Proofs.Route.Pattern

/-!
Which requests there is a route for, and how it takes them apart (`Route.build_eq_ok_iff`,
`Route.build_eq_error_iff`). What it says of itself is a request for the same route.
-/
namespace Stencil.Route

open Text

variable {r : Route} {now : Instant} {method : Method} {pattern handler : Text} {name? : Option Text} {e : Error}
variable {segments : List Segment} {t : Text}

-- What a route has of the pattern and the handler that it was requested with. Every segment of the pattern
-- is in one of the two places, the uri or the parameters, and in both of them the order is that of the pattern.
structure Decomposes (r : Route) (pattern handler : Text) : Prop where
  wellFormed : r.handler.WellFormed
  handler : r.handler.text = handler
  unbroken : Unbroken pattern
  pattern : r.pattern = rooted (trimBlank pattern)
  segments : ∃ segments : List Segment, (∀ u ∈ segments, u.WellFormed) ∧
    slices r.pattern = segments.map Segment.text ∧
    slices r.uri = segments.filterMap Segment.fixed? ∧ r.params = segments.filterMap Segment.placeholder?
  uri : IsUri r.uri

-- Why there is no route. The handler is looked at first, then the blanks, then the segments from the left.
inductive Refused (pattern handler : Text) : Error → Prop
  | handler : ¬Handler.Written handler → Refused pattern handler (.badHandler handler)
  | blank : Handler.Written handler → ¬Unbroken pattern → Refused pattern handler (.blankInPattern pattern)
  | segment {t : Text} {before after : List Text} : Handler.Written handler → Unbroken pattern →
    slices (trimBlank pattern) = before ++ t :: after → (∀ s ∈ before, Segment.Written s) →
    ¬Segment.Written t → Refused pattern handler (.badPlaceholder t)

theorem isPart_of_mem_fixed (hw : ∀ u ∈ segments, u.WellFormed) (ht : segments.map Segment.text = slices t)
    (hb : ∀ c ∈ t, isBlank c = false) : ∀ s ∈ segments.filterMap Segment.fixed?, IsPart s := by
  intro s hs
  obtain ⟨u, hu, hf⟩ := List.mem_filterMap.mp hs
  obtain rfl : u = .fixed s := by cases u <;> simp_all [Segment.fixed?]
  have hm : s ∈ slices t := ht ▸ List.mem_map.mpr ⟨_, hu, rfl⟩
  obtain ⟨hm, hn⟩ := List.mem_filter.mp hm
  exact ⟨by simpa using hn, not_mem_of_mem_split hm, hw _ hu, fun c hc => hb c <| mem_of_mem_split hm hc⟩

theorem build_eq_ok_iff : build now method pattern handler name? = .ok r ↔
    r.Decomposes pattern handler ∧ r.method = method ∧ r.name? = name? ∧ r.registeredAt = now := by
  simp only [build, bind_eq_ok_iff, pure_eq_ok_iff, normalize_eq_ok_iff, Handler.parse_eq_ok_iff,
    Segment.parseAll_eq_ok_iff]
  constructor
  case mp =>
    rintro ⟨h, ⟨hw, rfl⟩, _, ⟨hb, rfl⟩, segments, ⟨hs, ht⟩, rfl⟩
    have hp := isPart_of_mem_fixed hs ht hb.rooted
    refine ⟨⟨hw, rfl, hb, rfl, ?segments, isUri_uriOf hp⟩, rfl, rfl, rfl⟩
    case segments => exact ⟨segments, hs, ht.symm, slices_uriOf hp, rfl⟩
  case mpr =>
    rintro ⟨⟨hw, hh, hb, hp, ⟨segments, hs, ht, hu, hn⟩, hi⟩, rfl, rfl, rfl⟩
    refine ⟨r.handler, ⟨hw, hh⟩, r.pattern, ⟨hb, hp⟩, segments, ⟨hs, ht.symm⟩, ?_⟩
    rw [← hu, ← hn, uriOf_slices hi]

theorem build_eq_error_iff : build now method pattern handler name? = .error e ↔ Refused pattern handler e := by
  simp only [build, bind_eq_error_iff, pure_ne_error, and_false, exists_false, or_false,
    Handler.parse_eq_error_iff, normalize_eq_error_iff, normalize_eq_ok_iff, Segment.parseAll_eq_error_iff]
  constructor
  case mp =>
    rintro (⟨hh, rfl⟩ | ⟨h, hh, ⟨hb, rfl⟩ | ⟨_, ⟨hb, rfl⟩, before, t, after, ht, hs, hn, rfl⟩⟩)
    · exact .handler hh
    · exact .blank (Handler.written_iff.mpr ⟨h, hh⟩) hb
    · exact .segment (Handler.written_iff.mpr ⟨h, hh⟩) hb (slices_rooted _ ▸ ht) hs hn
  case mpr =>
    rintro (hh | ⟨hh, hb⟩ | ⟨hh, hb, ht, hs, hn⟩)
    case handler => exact .inl ⟨hh, rfl⟩
    case blank =>
      have ⟨h, hp⟩ := Handler.written_iff.mp hh
      exact .inr ⟨h, hp, .inl ⟨hb, rfl⟩⟩
    case segment =>
      have ⟨h, hp⟩ := Handler.written_iff.mp hh
      exact .inr ⟨h, hp, .inr ⟨_, ⟨hb, rfl⟩, _, _, _, (slices_rooted _).trans ht, hs, hn, rfl⟩⟩

theorem exists_build_eq_ok_iff : (∃ r, build now method pattern handler name? = .ok r) ↔
    Handler.Written handler ∧ Unbroken pattern ∧ ∀ s ∈ slices (trimBlank pattern), Segment.Written s := by
  constructor
  case mp =>
    rintro ⟨r, h⟩
    have hd := (build_eq_ok_iff.mp h).left
    have ⟨segments, hw, ht, _⟩ := hd.segments
    refine ⟨⟨r.handler, hd.wellFormed, hd.handler⟩, hd.unbroken, fun s hs => ?_⟩
    rw [← slices_rooted, ← hd.pattern, ht] at hs
    have ⟨u, hu, he⟩ := List.mem_map.mp hs
    exact ⟨u, hw u hu, he⟩
  case mpr =>
    rintro ⟨hh, hb, hs⟩
    cases hx : build now method pattern handler name?
    case ok r => exact ⟨r, rfl⟩
    case error e =>
      cases build_eq_error_iff.mp hx
      case handler hn => exact absurd hh hn
      case blank hn => exact absurd hb hn
      case segment ht _ hn => exact absurd (hs _ <| ht ▸ by simp) hn

-- For every request there is either a route, which takes it apart, or the first of the reasons against one.
theorem build_decides (now : Instant) (method : Method) (pattern handler : Text) (name? : Option Text) :
    ((∃ r, build now method pattern handler name? = .ok r) ↔
      Handler.Written handler ∧ Unbroken pattern ∧ ∀ s ∈ slices (trimBlank pattern), Segment.Written s) ∧
    (∀ r, build now method pattern handler name? = .ok r ↔
      r.Decomposes pattern handler ∧ r.method = method ∧ r.name? = name? ∧ r.registeredAt = now) ∧
    ∀ e, build now method pattern handler name? = .error e ↔ Refused pattern handler e :=
  ⟨exists_build_eq_ok_iff, fun _ => build_eq_ok_iff, fun _ => build_eq_error_iff⟩

namespace Decomposes

theorem pattern_blank (h : r.Decomposes pattern handler) : ∀ c ∈ r.pattern, isBlank c = false :=
  h.pattern ▸ h.unbroken.rooted

theorem self (h : r.Decomposes pattern handler) (now : Instant) :
    { r with registeredAt := now }.Decomposes r.pattern r.handler.text where
  wellFormed := h.wellFormed
  handler := rfl
  unbroken := unbroken_of_forall h.pattern_blank
  pattern := by rw [trimBlank_eq_self h.pattern_blank, rooted_of_head? (by simp [h.pattern])]
  segments := h.segments
  uri := h.uri

-- All segments of a uri are fixed.
theorem fixed (h : r.Decomposes pattern handler) (now : Instant) :
    { r with pattern := r.uri, params := [], registeredAt := now }.Decomposes r.uri r.handler.text where
  wellFormed := h.wellFormed
  handler := rfl
  unbroken := unbroken_of_forall h.uri.blank
  pattern := by rw [trimBlank_eq_self h.uri.blank, rooted_of_head? h.uri.root]
  segments := by
    refine ⟨(slices r.uri).map .fixed, ?wellFormed, ?text, ?fixed, ?placeholder⟩
    case wellFormed =>
      refine List.forall_mem_map.mpr fun s hs c hc => h.uri.brace c ?_
      exact mem_of_mem_split (List.mem_of_mem_filter hs) hc
    case text => simp [Function.comp_def, Segment.text]
    case fixed => simp [Function.comp_def, Segment.fixed?]
    case placeholder => simp [Segment.placeholder?]
  uri := h.uri

end Decomposes

-- A route is found again by what it says of itself. Its uri alone makes a route without parameters.
theorem build_idempotent (h : build now method pattern handler name? = .ok r) (now' : Instant) :
    build now' r.method r.pattern r.handler.text r.name? = .ok { r with registeredAt := now' } ∧
    r.conflicts { r with registeredAt := now' } ∧
    build now' r.method r.uri r.handler.text r.name? =
      .ok { r with pattern := r.uri, params := [], registeredAt := now' } := by
  have hd := (build_eq_ok_iff.mp h).left
  refine ⟨build_eq_ok_iff.mpr ⟨hd.self now', rfl, rfl, rfl⟩, ?conflicts,
    build_eq_ok_iff.mpr ⟨hd.fixed now', rfl, rfl, rfl⟩⟩
  case conflicts => cases hm : r.method <;> simp [conflicts, hm]

-- Doubled slashes and a slash at the end stay in the pattern, but they do not get into the uri.
theorem build_idempotent_posts :
    let r : Route := ⟨.get, "/users//{id}/posts/{post}/", "/users/posts", ["id", "post"], ⟨"Posts", "show"⟩,
      some "post", .epoch⟩
    let later : Instant := ⟨2024, 2, 29, 12, 0, 0, 0⟩
    build .epoch .get " users//{id}/posts/{post}/\n" "Posts@show" (some "post") = .ok r ∧
    build later r.method r.pattern r.handler.text r.name? = .ok { r with registeredAt := later } ∧
    r.conflicts { r with registeredAt := later } ∧
    build later r.method r.uri r.handler.text r.name? =
      .ok { r with pattern := r.uri, params := [], registeredAt := later } := by
  intro r later
  have h : build .epoch .get " users//{id}/posts/{post}/\n" "Posts@show" (some "post") = .ok r := by
    decide +kernel
  exact ⟨h, build_idempotent h later⟩

end Stencil.Route
