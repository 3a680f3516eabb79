import Mathlib.Data.List.Infix
import Mathlib.Data.Option.Basic
import Stencil.Directive.Inclusion
import Stencil.Proofs.Text.Closed

/-!
The recogniser of inclusions accepts the written forms of well-formed inclusions and nothing else, so
an inclusion is determined by its text.
-/
namespace Stencil.Directive

open Text

theorem marker_eq : marker = ['#', '#'] := by
  decide

namespace Inclusion

variable {d e : Inclusion} {t : Text}

theorem opening_eq : opening = ['i', 'n', 'c', 'l', 'u', 'd', 'e', '(', '\''] := by
  decide

theorem raw_ne_nil (d : Inclusion) : d.raw ≠ [] := by
  simp [raw, marker_eq]

theorem atStart?_raw_append (h : d.WellFormed) (rest : Text) : atStart? (d.raw ++ rest) = some d := by
  have hb r : (d.before ++ (opening ++ r)).takeWhile isSpace = d.before :=
    takeWhile_append_cons h.before (by decide)
  have hb' r : (d.before ++ (opening ++ r)).dropWhile isSpace = opening ++ r :=
    dropWhile_append_cons h.before (by decide)
  have ht r : (d.target ++ (closing ++ r)).takeWhile isTarget = d.target :=
    takeWhile_append_cons h.target (by decide)
  have ht' r : (d.target ++ (closing ++ r)).dropWhile isTarget = closing ++ r :=
    dropWhile_append_cons h.target (by decide)
  have ha r : (d.after ++ (marker ++ r)).takeWhile isSpace = d.after :=
    takeWhile_append_cons h.after (by decide)
  have ha' r : (d.after ++ (marker ++ r)).dropWhile isSpace = marker ++ r :=
    dropWhile_append_cons h.after (by decide)
  have hn : guard (d.target ≠ []) = some () := (Option.guard_eq_some' _).mpr h.target_ne_nil
  simp only [atStart?, raw, List.append_assoc, isPrefixOf?_append, Option.bind_eq_bind,
    Option.bind_some, Option.pure_def, hb, hb', ht, ht', hn, ha, ha']

theorem of_atStart? (h : atStart? t = some d) : d.WellFormed ∧ d.raw <+: t := by
  simp only [atStart?, Option.bind_eq_bind, Option.bind_eq_some_iff, Option.pure_def,
    List.isPrefixOf?_eq_some_iff_append_eq, Option.some.injEq] at h
  obtain ⟨u, rfl, v, hv, _, hn, w, hw, x, hx, rfl⟩ := h
  have hu := u.takeWhile_append_dropWhile (p := isSpace)
  have hv' := v.takeWhile_append_dropWhile (p := isTarget)
  have hw' := w.takeWhile_append_dropWhile (p := isSpace)
  rw [← hv] at hu
  rw [← hw] at hv'
  rw [← hx] at hw'
  constructor
  case left =>
    exact {
      before _ := List.mem_takeWhile_imp
      target_ne_nil := (Option.guard_eq_some' _).mp hn
      target _ := List.mem_takeWhile_imp
      after _ := List.mem_takeWhile_imp }
  case right =>
    refine ⟨x, ?_⟩
    simp only [raw, List.append_assoc]
    rw [hw', hv', hu]

theorem recogniser_reads : recogniser.Reads WellFormed where
  atStart?_iff := ⟨of_atStart?, fun ⟨h, _, he⟩ => he ▸ atStart?_raw_append h _⟩
  raw_ne_nil := raw_ne_nil

theorem mem_distinct : d ∈ distinct t ↔ d ∈ recogniser.items t :=
  recogniser_reads.mem_distinctBy_raw

-- What comes before the opening.
def lead (d : Inclusion) : Text :=
  marker ++ d.before

theorem exists_raw_eq (d : Inclusion) : ∃ rest, d.raw = d.lead ++ opening ++ rest := by
  simp [raw, lead]

theorem lead_inj (hd : d.WellFormed) (he : e.WellFormed) {x y : Text}
    (h : x ++ d.lead = y ++ e.lead) : x = y ∧ d.before = e.before := by
  have h : (x ++ ['#']) ++ '#' :: d.before = (y ++ ['#']) ++ '#' :: e.before := by
    simpa [lead, marker_eq] using h
  have ⟨hx, _, hb⟩ := run_inj_right hd.before he.before (by decide) (by decide) h
  exact ⟨List.append_cancel_right hx, hb⟩

-- The openings of inclusions are the only ones in a text, and no gap between inclusions goes on with
-- an opening that has begun before it.
structure Tidy (t : Text) : Prop where
  opening : ∀ pre, pre ++ opening <+: t →
    ∃ o ∈ occurrences t, pre.byteLength = o.offset + o.item.lead.byteLength
  gap : ∀ g ∈ recogniser.gaps t, ∀ u, u ≠ [] → u <:+ Inclusion.opening → u ≠ Inclusion.opening → ¬ u <+: g

-- Only finitely many starts of the text and ends of an opening have to be looked at.
theorem tidy_iff : Tidy t ↔
    (∀ pre ∈ t.inits, pre ++ opening <+: t →
      ∃ o ∈ occurrences t, byteLength pre = o.offset + o.item.lead.byteLength) ∧
    ∀ g ∈ recogniser.gaps t, ∀ u ∈ opening.tails, u ≠ [] → u ≠ opening → ¬ u <+: g where
  mp h := ⟨fun pre _ => h.opening pre, fun g hg u hu hn => h.gap g hg u hn <| (List.mem_tails ..).mp hu⟩
  mpr h := {
    opening pre hp := h.left pre ((List.mem_inits ..).mpr <| (List.prefix_append ..).trans hp) hp
    gap g hg u hn hu := h.right g hg u ((List.mem_tails ..).mpr hu) hn }

instance : DecidablePred Tidy :=
  fun _ => decidable_of_iff' _ tidy_iff

-- Pieces that hold no opening but those of inclusions, and that do not complete one either.
def Tame : Piece Inclusion → Prop
  | .gap g => ¬ opening <:+: g ∧ ∀ u, u ≠ [] → u <:+ opening → u ≠ opening → ¬ u <+: g
  | .item d => d.WellFormed ∧ ∀ x y, d.raw = x ++ opening ++ y → x = d.lead

-- The last character of the opening, with what an inclusion has around it.
def anchor : recogniser.Anchor WellFormed where
  sign := '\''
  before d := d.lead ++ opening.dropLast
  after d := d.target ++ closing ++ d.after ++ marker
  raw_eq d := by
    have h : opening = opening.dropLast ++ ['\''] := by decide
    change raw d = _
    rw [raw, h]
    simp [lead]
  reads := recogniser_reads

-- Before the quote there is a whole opening, or the text starts with an end of one.
theorem opening_cases {x u left : Text} (h : left ++ u = x ++ opening.dropLast) :
    (∃ w, u = w ++ opening.dropLast ∧ x = left ++ w) ∨ u ++ ['\''] <:+ opening := by
  obtain ⟨w, hx, hu⟩ | ⟨w, -, hw⟩ := List.append_eq_append_iff.mp h
  · exact .inl ⟨w, hu, hx⟩
  · exact .inr ⟨w, by rw [← List.append_assoc, ← hw]; decide⟩

theorem closed_gap {g : Text} (hg : Tame (.gap g)) : anchor.Closed (.gap g) where
  wellFormed _ he := nomatch he
  sign {e u v left right pre post} _ h hl _ := by
    obtain rfl : g = u ++ '\'' :: v := h
    replace hl : left ++ u = (pre ++ e.lead) ++ opening.dropLast := by simpa [anchor] using hl
    obtain ⟨w, rfl, -⟩ | hs := opening_cases hl
    · exact absurd ⟨w, v, by simp [opening_eq]⟩ hg.left
    · by_cases he : u ++ ['\''] = opening
      case pos => exact absurd ⟨[], v, by simp [← he]⟩ hg.left
      case neg => exact absurd ⟨v, by simp⟩ (hg.right _ (by simp) hs he)

theorem closed_item (hd : Tame (.item d)) : anchor.Closed (.item d) := by
  refine anchor.closed_item hd.left fun {e u v left pre} he h hl => ?_
  replace h : d.raw = u ++ '\'' :: v := h
  replace hl : left ++ u = (pre ++ e.lead) ++ opening.dropLast := by simpa [anchor] using hl
  obtain ⟨w, rfl, hw⟩ | hs := opening_cases hl
  · obtain rfl : w = d.lead := hd.right w v (by simp [h, opening_eq])
    exact (lead_inj he hd.left hw).left.symm
  -- An inclusion starts with a number sign, an end of the opening does not.
  · have hm : '#' ∈ u ++ ['\''] := by
      have hh := congrArg List.head? h
      cases u <;> simp [raw, marker_eq] at hh
      simp [← hh]
    exact absurd (hs.subset hm) (by decide)

theorem closed_of_tame : {p : Piece Inclusion} → Tame p → anchor.Closed p
  | .gap _, h => closed_gap h
  | .item _, h => closed_item h

theorem Tidy.exists_of_opening (h : Tidy t) {pre post : Text} (ht : t = pre ++ Inclusion.opening ++ post) :
    ∃ ps d qs, recogniser.pieces t = ps ++ .item d :: qs ∧ pre = Piece.join raw ps ++ d.lead := by
  have ⟨o, ho, hl⟩ := h.opening pre ⟨post, ht.symm⟩
  have ⟨ps, qs, hp, hn⟩ := recogniser_reads.lawful.exists_of_mem_occurrences ho
  refine ⟨ps, o.item, qs, hp, ?_⟩
  have ⟨rest, hr⟩ := exists_raw_eq o.item
  have hj := recogniser_reads.lawful.join_pieces t
  rw [hp, ht, show recogniser.raw = raw from rfl] at hj
  have hj : pre ++ (Inclusion.opening ++ post) =
      (Piece.join raw ps ++ o.item.lead) ++ (Inclusion.opening ++ rest ++ Piece.join raw qs) := by
    simpa [Piece.text, hr] using hj.symm
  refine eq_of_append_eq_append_of_byteLength_eq hj ?_
  rw [hl, hn, byteLength_append]
  rfl

-- An opening inside of a piece has to be that of the piece.
theorem Tidy.item_of_opening (h : Tidy t) {p : Piece Inclusion} (hp : p ∈ recogniser.pieces t)
    {x y : Text} (hx : p.text raw = x ++ Inclusion.opening ++ y) : ∃ d, p = .item d ∧ x = d.lead := by
  have ⟨ps, qs, hs⟩ := List.append_of_mem hp
  have hj : t = (Piece.join raw ps ++ x) ++ Inclusion.opening ++ (y ++ Piece.join raw qs) := by
    have hj := recogniser_reads.lawful.join_pieces t
    rw [hs, show recogniser.raw = raw from rfl] at hj
    simpa [hx] using hj.symm
  have ⟨ps', d, qs', hs', hl⟩ := h.exists_of_opening hj
  have ⟨rest, hr⟩ := exists_raw_eq d
  have ⟨he, hx⟩ := Piece.eq_of_join_append_eq (hs.symm.trans hs') (by simp [hx, opening_eq])
    (by simp [Piece.text, hr, opening_eq]) hl
  exact ⟨d, he, hx⟩

theorem Tidy.tame_of_mem_pieces (h : Tidy t) : ∀ p ∈ recogniser.pieces t, Tame p
  | .gap g, hp => by
    refine ⟨fun ⟨x, y, hg⟩ => ?_, h.gap g <| Recogniser.mem_gaps.mpr hp⟩
    have ⟨_, he, _⟩ := h.item_of_opening hp (x := x) (y := y) hg.symm
    simp at he
  | .item d, hp => by
    refine ⟨?_, fun x y hd => ?_⟩
    · exact recogniser_reads.wellFormed_of_mem_items <| recogniser_reads.lawful.item_mem_pieces.mp hp
    · have ⟨e, he, hx⟩ := h.item_of_opening hp hd
      rw [hx, Piece.item.inj he]

theorem Tidy.sealed (h : Tidy t) : anchor.Sealed t :=
  fun p hp => closed_of_tame <| h.tame_of_mem_pieces p hp

end Inclusion
end Stencil.Directive
