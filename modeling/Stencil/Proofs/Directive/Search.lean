import Stencil.Proofs.Directive.Inclusion
import Stencil.Proofs.Text.Bytes
import Stencil.Proofs.Text.Recogniser

/-!
The search for directives in the bytes of a text. It goes from marker to marker by offsets, it cuts out of
the text what it reports, and a cut with bounds that are out of order, outside of the text or inside of a
character stops it for good. When what is cut out at a marker is what a recogniser reads there (`Follows`),
every turn of the search is sound and gets further (`Follows.turn`), so that the search comes to its end and
reports what the recogniser does (`Follows.run`).
-/
namespace Stencil.Directive

open Text

-- Cutting slices out of a text. Every cut is noted down, and there is no value after one that is not sound.
abbrev Slicing := StateT (List Span) Option

def slice (bs : List UInt8) (s : Span) : Slicing (List UInt8) :=
  fun cuts => if s.Sound bs then some ((bs.take s.stop).drop s.start, cuts ++ [s]) else none

-- The offset of the first marker.
def findMarker? : List UInt8 → Option Nat
  | [] => none
  | b :: bs => if (bytes marker).isPrefixOf (b :: bs) then some 0 else (findMarker? bs).map (· + 1)

-- What is cut out at the offset of a marker, and the offset at which the directive ends.
abbrev Cutter (β : Type) := List UInt8 → Nat → Slicing (Option (β × Nat))

variable {α β : Type}

-- One turn of the search from an offset: the offset to go on from and what was found, or nothing at the end.
def turn (cut : Cutter β) (bs : List UInt8) (pos : Nat) : Slicing (Option (Nat × Option β)) := do
  match findMarker? (← slice bs ⟨pos, bs.length⟩) with
  | none => return none
  | some offset =>
    match ← cut bs (pos + offset) with
    | some (found, stop) => return some (stop, some found)
    | none => return some (pos + offset + 1, none)

-- What a turn did.
structure Round (β : Type) where
  pos : Nat
  cuts : List Span
  found? : Option β

-- The rounds of a search from an offset to its end.
inductive Run (cut : Cutter β) (bs : List UInt8) : Nat → List (Round β) → Prop
  | last {pos : Nat} {cuts : List Span} :
    turn cut bs pos [] = some (none, cuts) → Run cut bs pos [⟨pos, cuts, none⟩]
  | next {pos next : Nat} {found? : Option β} {cuts : List Span} {rounds : List (Round β)} :
    turn cut bs pos [] = some (some (next, found?), cuts) → Run cut bs next rounds →
    Run cut bs pos (⟨pos, cuts, found?⟩ :: rounds)

structure Round.Sound (bs : List UInt8) (round : Round β) : Prop where
  le : round.pos ≤ bs.length
  boundary : isBoundary bs round.pos
  cuts : ∀ s ∈ round.cuts, s.Sound bs

-- The computation comes to a value, and all of its cuts are sound.
def Yields (bs : List UInt8) (x : Slicing α) (a : α) : Prop :=
  ∀ cuts, ∃ more, x cuts = some (a, cuts ++ more) ∧ ∀ s ∈ more, s.Sound bs

variable {t u s : Text} {i pos : Nat} {bs : List UInt8} {x : Slicing α} {f : α → Slicing β} {a : α} {b : β}
variable {cut : Cutter β} {r : Recogniser α} {written : α → β}

namespace Yields

theorem pure (bs : List UInt8) (a : α) : Yields bs (Pure.pure a) a :=
  fun cuts => ⟨[], by rw [List.append_nil]; rfl, nofun⟩

theorem bind (hx : Yields bs x a) (hf : Yields bs (f a) b) : Yields bs (x >>= f) b := by
  intro cuts
  obtain ⟨more, hx, hm⟩ := hx cuts
  obtain ⟨others, hf, ho⟩ := hf (cuts ++ more)
  refine ⟨more ++ others, ?_, fun s hs => (List.mem_append.mp hs).elim (hm s) (ho s)⟩
  rw [← List.append_assoc, ← hf]
  change (x cuts).bind _ = _
  rw [hx]
  rfl

theorem slice (h : Rest t i (s ++ u)) :
    Yields t.bytes (slice t.bytes ⟨i, i + s.byteLength⟩) s.bytes := by
  refine fun cuts => ⟨[⟨i, i + s.byteLength⟩], ?_, ?_⟩
  · rw [Directive.slice, if_pos h.sound, h.take_drop]
  · simpa using h.sound

-- A part of a text after another part of it.
theorem slice_append {pre : Text} (h : Rest t i (pre ++ (s ++ u))) :
    Yields t.bytes (Directive.slice t.bytes ⟨i + pre.byteLength, i + (pre ++ s).byteLength⟩) s.bytes := by
  rw [byteLength_append, ← Nat.add_assoc]
  exact slice h.append

theorem slice_rest (h : Rest t i u) : Yields t.bytes (Directive.slice t.bytes ⟨i, t.bytes.length⟩) u.bytes := by
  have hl : t.bytes.length = i + u.byteLength := by
    obtain ⟨pre, rfl, rfl⟩ := h
    simp
  rw [hl]
  exact slice (u := []) <| by rwa [List.append_nil]

end Yields

theorem Run.unique {rounds rounds' : List (Round β)} (h : Run cut bs pos rounds) (h' : Run cut bs pos rounds') :
    rounds = rounds' := by
  induction h generalizing rounds'
  case last ht =>
    cases h'
    case last ht' => simp_all
    case next ht' _ => simp_all
  case next ht _ hi =>
    cases h'
    case last ht' => simp_all
    case next hr ht' =>
      obtain ⟨⟨rfl, rfl⟩, rfl⟩ : (_ ∧ _) ∧ _ := by simpa using ht.symm.trans ht'
      rw [hi hr]

theorem bytes_marker : bytes marker = [0x23, 0x23] :=
  rfl

-- No marker starts at a byte other than that of a number sign.
theorem findMarker?_append {bs rest : List UInt8} (h : ∀ b ∈ bs, b ≠ 0x23) :
    findMarker? (bs ++ rest) = (findMarker? rest).map (bs.length + ·) := by
  induction bs
  case nil => simp
  case cons b bs hi =>
    obtain ⟨hb, h⟩ := List.forall_mem_cons.mp h
    rw [List.cons_append, findMarker?, hi h, if_neg <| by simp [bytes_marker, hb.symm]]
    cases findMarker? rest <;> simp [Nat.add_assoc, Nat.add_comm 1]

theorem findMarker?_cons {c : Char} (h : ¬ marker <+: c :: u) :
    findMarker? (bytes (c :: u)) = (findMarker? u.bytes).map (c.utf8Size + ·) := by
  by_cases hc : c = '#'
  case pos =>
    subst hc
    have hp : ¬ (bytes marker).isPrefixOf (0x23 :: u.bytes) := by
      rwa [← bytes_prefix_iff, ← List.isPrefixOf_iff_prefix] at h
    change findMarker? (0x23 :: u.bytes) = _
    rw [findMarker?, if_neg hp]
    cases findMarker? u.bytes <;> simp [Nat.add_comm, show '#'.utf8Size = 1 from rfl]
  case neg =>
    rw [bytes_cons, findMarker?_append, String.length_utf8EncodeChar]
    intro b hb
    simpa [hc] using Agrees.eq (a := '#') (by decide) c b hb

-- A recogniser whose items all start with a marker reads nothing in front of the first marker.
theorem findMarker?_cases (hr : ∀ {t a}, r.atStart? t = some a → marker <+: t) (u : Text) :
    (findMarker? u.bytes = none ∧ r.items u = []) ∨
      ∃ v w, u = v ++ w ∧ marker <+: w ∧ findMarker? u.bytes = some v.byteLength ∧ r.items u = r.items w := by
  induction u
  case nil => exact .inl ⟨rfl, rfl⟩
  case cons c u hi =>
    by_cases hm : marker <+: c :: u
    case pos =>
      refine .inr ⟨[], _, rfl, hm, ?_, rfl⟩
      obtain ⟨w, hw⟩ := hm
      rw [← hw, bytes_append, bytes_marker]
      rfl
    case neg =>
      have hn : r.atStart? (c :: u) = none := Option.eq_none_iff_forall_ne_some.mpr fun _ h => hm <| hr h
      rw [findMarker?_cons hm, Text.Recogniser.items_cons hn]
      obtain ⟨hf, he⟩ | ⟨v, w, rfl, hw, hf, he⟩ := hi
      case inl => exact .inl ⟨by rw [hf]; rfl, he⟩
      case inr => exact .inr ⟨c :: v, w, rfl, hw, by rw [hf]; rfl, he⟩

-- At every marker the cutter finds what the recogniser reads there.
structure Follows (cut : Cutter β) (r : Recogniser α) (written : α → β) : Prop where
  lawful : r.Lawful
  marker : ∀ {t a}, r.atStart? t = some a → marker <+: t
  cut : ∀ {t u i}, Rest t i u → Directive.marker <+: u →
    Yields t.bytes (cut t.bytes i) ((r.atStart? u).map fun a => (written a, i + (r.raw a).byteLength))

-- A turn ends the search where there is no item left. Otherwise it goes on at a later boundary, and there are
-- the items left that it has not found.
theorem Follows.turn (h : Follows cut r written) (hu : Rest t pos u) :
    (Yields t.bytes (turn cut t.bytes pos) none ∧ r.items u = []) ∨
      ∃ next found? w, Yields t.bytes (Directive.turn cut t.bytes pos) (some (next, found?)) ∧
        Rest t next w ∧ pos < next ∧ w.length < u.length ∧
        (r.items u).map written = found?.toList ++ (r.items w).map written := by
  have hs := Yields.slice_rest hu
  obtain ⟨hf, he⟩ | ⟨v, w, rfl, hw, hf, he⟩ := findMarker?_cases h.marker u
  case inl =>
    refine .inl ⟨hs.bind ?_, he⟩
    rw [hf]
    exact .pure _ none
  case inr =>
    have hc := h.cut hu.append hw
    cases ha : r.atStart? w
    case none =>
      obtain ⟨w, rfl⟩ := hw
      refine .inr ⟨pos + v.byteLength + 1, none, '#' :: w, hs.bind ?_, hu.append.tail, by omega, ?_, ?_⟩
      · rw [hf]
        refine hc.bind ?_
        rw [ha]
        exact Yields.pure _ _
      · simp [marker_eq]
        omega
      · rw [he, marker_eq] at *
        exact congrArg _ <| Text.Recogniser.items_cons ha
    case some a =>
      obtain ⟨rest, rfl⟩ := h.lawful.stands ha
      have hn := h.lawful.raw_ne_nil ha
      refine .inr ⟨_, some (written a), rest, hs.bind ?_, hu.append.append, ?_, ?_, ?_⟩
      · rw [hf]
        refine hc.bind ?_
        rw [ha]
        exact Yields.pure _ _
      · have := mt byteLength_eq_zero_iff.mp hn
        omega
      · have := List.length_pos_iff.mpr hn
        simp
        omega
      · rw [he, h.lawful.items_append ha]
        rfl

-- What the rounds of a search have to be like, and what they find in the end.
structure Rounds.Sound (bs : List UInt8) (found : List β) (rounds : List (Round β)) : Prop where
  round : ∀ round ∈ rounds, round.Sound bs
  later : rounds.Pairwise (·.pos < ·.pos)
  found : rounds.filterMap Round.found? = found

theorem Follows.exists_run (h : Follows cut r written) (hu : Rest t pos u) :
    ∃ rounds, Run cut t.bytes pos rounds ∧ (∀ round ∈ rounds, pos ≤ round.pos) ∧
      Rounds.Sound t.bytes ((r.items u).map written) rounds := by
  induction hn : u.length using Nat.strongRecOn generalizing u pos
  case ind n hi =>
    subst hn
    obtain ⟨hy, he⟩ | ⟨next, found?, w, hy, hw, hp, hl, he⟩ := h.turn hu
    case inl =>
      obtain ⟨cuts, ht, hc⟩ := hy []
      refine ⟨_, .last ht, by simp, by simpa using ⟨hu.le, hu.isBoundary, hc⟩, by simp, by simp [he]⟩
    case inr =>
      obtain ⟨cuts, ht, hc⟩ := hy []
      obtain ⟨rounds, hr, hge, hs⟩ := hi _ hl hw rfl
      refine ⟨_, .next ht hr, ?_, ?_, ?_, ?_⟩
      · exact List.forall_mem_cons.mpr ⟨Nat.le_refl _, fun round hm => hp.le.trans <| hge round hm⟩
      · exact List.forall_mem_cons.mpr ⟨⟨hu.le, hu.isBoundary, hc⟩, hs.round⟩
      · exact List.pairwise_cons.mpr ⟨fun round hm => Nat.lt_of_lt_of_le hp <| hge round hm, hs.later⟩
      · rw [he, ← hs.found]
        cases found? <;> rfl

theorem Follows.run (h : Follows cut r written) (t : Text) :
    (∃ rounds, Run cut t.bytes 0 rounds) ∧
      ∀ rounds, Run cut t.bytes 0 rounds → Rounds.Sound t.bytes ((r.items t).map written) rounds := by
  obtain ⟨rounds, hr, -, hs⟩ := h.exists_run (Rest.zero t)
  exact ⟨⟨rounds, hr⟩, fun _ hr' => hr.unique hr' ▸ hs⟩

end Stencil.Directive
