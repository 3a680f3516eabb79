import Stencil.Proofs.Text.Basic
import Stencil.Proofs.Text.Recogniser

/-!
A text cut at reported offsets into items and the gaps between them. Writing each item anew in its
own place is a single pass over the pieces. Replacing the items in turn, each of them wherever its
text occurs by then, comes to the same when no item's text ever occurs but where the item stands
(`replaceInTurn_join`).
-/
namespace Stencil.Text

inductive Piece (α : Type)
  | gap (g : Text)
  | item (a : α)

namespace Piece

variable {α : Type}

def text (write : α → Text) : Piece α → Text
  | gap g => g
  | item a => write a

def gap? : Piece α → Option Text
  | gap g => some g
  | item _ => none

@[simp]
theorem gap?_eq_some_iff {p : Piece α} {g : Text} : p.gap? = some g ↔ p = gap g := by
  cases p <;> simp [gap?]

def join (write : α → Text) (ps : List (Piece α)) : Text :=
  ps.flatMap (text write)

@[simp]
theorem join_nil {write : α → Text} : join write [] = [] :=
  rfl

@[simp]
theorem join_cons {write : α → Text} {p : Piece α} {ps : List (Piece α)} :
    join write (p :: ps) = p.text write ++ join write ps := by
  simp [join]

@[simp]
theorem join_append {write : α → Text} {ps qs : List (Piece α)} :
    join write (ps ++ qs) = join write ps ++ join write qs := by
  simp [join]

theorem join_congr {write write' : α → Text} {ps : List (Piece α)}
    (h : ∀ a, item a ∈ ps → write a = write' a) : join write ps = join write' ps := by
  refine List.flatMap_congr fun p hp => ?_
  cases p
  case gap => rfl
  case item a => exact h a hp

-- The piece that a character of the joined text belongs to.
theorem exists_of_join_eq_append_cons {write : α → Text} {ps : List (Piece α)} {x y : Text} {c : Char}
    (h : join write ps = x ++ c :: y) :
    ∃ qs p rs u v, ps = qs ++ p :: rs ∧ p.text write = u ++ c :: v ∧
      x = join write qs ++ u ∧ y = v ++ join write rs := by
  induction ps generalizing x
  case nil => simp at h
  case cons p ps hi =>
    rw [join_cons, List.append_eq_append_iff] at h
    obtain ⟨x', rfl, h⟩ | ⟨_ | ⟨_, v⟩, hp, h⟩ := h
    · obtain ⟨qs, q, rs, u, v, rfl, hq, rfl, rfl⟩ := hi h
      exact ⟨p :: qs, q, rs, u, v, rfl, hq, by simp, rfl⟩
    · obtain ⟨qs, q, rs, u, v, rfl, hq, hx, rfl⟩ := hi (x := []) h.symm
      have ⟨hj, hu⟩ := List.append_eq_nil_iff.mp hx.symm
      exact ⟨p :: qs, q, rs, u, v, rfl, hq, by simp [hp, hj, hu], rfl⟩
    · obtain ⟨rfl, rfl⟩ : c = _ ∧ y = _ := by simpa using h
      exact ⟨[], p, ps, x, v, rfl, hp, rfl, rfl⟩

-- Characters of the same piece are meant when as much of the joined text comes before them.
theorem eq_of_join_append_eq {write : α → Text} {ps qs ps' qs' : List (Piece α)} {p p' : Piece α}
    {x x' : Text} (h : ps ++ p :: qs = ps' ++ p' :: qs') (hx : x.length < (p.text write).length)
    (hx' : x'.length < (p'.text write).length) (hj : join write ps ++ x = join write ps' ++ x') :
    p = p' ∧ x = x' := by
  have hl := congrArg List.length hj
  simp only [List.length_append] at hl
  obtain ⟨_ | ⟨q, w⟩, rfl, hw⟩ | ⟨_ | ⟨q, w⟩, rfl, hw⟩ := List.append_eq_append_iff.mp h
  · exact ⟨by simpa using (List.cons.inj hw).left, by simpa using hj⟩
  · obtain ⟨rfl, -⟩ := List.cons.inj hw
    simp only [join_append, join_cons, List.length_append] at hl
    omega
  · exact ⟨by simpa using (List.cons.inj hw).left.symm, by simpa using hj⟩
  · obtain ⟨rfl, -⟩ := List.cons.inj hw
    simp only [join_append, join_cons, List.length_append] at hl
    omega

-- Cuts a text, the start of which has the given offset, at the occurrences of items.
def cut (raw : α → Text) (offset : Nat) : List (Occurrence α) → Text → List (Piece α)
  | [], t => [gap t]
  | o :: rest, t =>
    gap (t.takeBytes (o.offset - offset)) :: item o.item ::
      cut raw (o.offset + byteLength (raw o.item)) rest
        (t.dropBytes (o.offset - offset + byteLength (raw o.item)))

def prepend (c : Char) : List (Piece α) → List (Piece α)
  | gap g :: ps => gap (c :: g) :: ps
  | ps => gap [c] :: ps

@[simp]
theorem join_prepend {write : α → Text} {c : Char} {ps : List (Piece α)} :
    join write (prepend c ps) = c :: join write ps := by
  cases ps
  case nil => rfl
  case cons p ps => cases p <;> simp [prepend, text]

@[simp]
theorem item_mem_prepend {c : Char} {a : α} {ps : List (Piece α)} :
    item a ∈ prepend c ps ↔ item a ∈ ps := by
  cases ps
  case nil => simp [prepend]
  case cons p ps => cases p <;> simp [prepend]

theorem prepend_append {c : Char} {a : α} {ps qs : List (Piece α)} :
    prepend c (ps ++ item a :: qs) = prepend c ps ++ item a :: qs := by
  cases ps
  case nil => rfl
  case cons p ps => cases p <;> rfl

theorem cut_cons {raw : α → Text} {n : Nat} {c : Char} {t : Text} {os : List (Occurrence α)}
    (h : ∀ o ∈ os, n + c.utf8Size ≤ o.offset) :
    cut raw n os (c :: t) = prepend c (cut raw (n + c.utf8Size) os t) := by
  cases os
  case nil => rfl
  case cons o os =>
    have := h o List.mem_cons_self
    rw [cut, takeBytes_cons (by omega), dropBytes_cons (by omega), cut, prepend]
    congr 4 <;> omega

end Piece

open Piece

variable {α : Type}

theorem Segment.le_offset {raw : α → Text} {n : Nat} {segments : List (Segment α)}
    {o : Occurrence α} (h : o ∈ Segment.occurrences raw n segments) : n ≤ o.offset := by
  induction segments generalizing n
  case nil => simp [Segment.occurrences] at h
  case cons s rest hi =>
    cases s <;> simp only [Segment.occurrences, List.mem_cons] at h
    case plain => exact Nat.le_trans (Nat.le_add_right ..) (hi h)
    case item =>
      cases h
      case inl h => simp [h]
      case inr h => exact Nat.le_trans (Nat.le_add_right ..) (hi h)

namespace Recogniser

variable {r : Recogniser α} {a : α} {c : Char} {t : Text}

-- The items of a text and the gaps before, between and after them.
def pieces (r : Recogniser α) (t : Text) : List (Piece α) :=
  cut r.raw 0 (r.occurrences t) t

-- What stands between the items, also where nothing does.
def gaps (r : Recogniser α) (t : Text) : List Text :=
  (r.pieces t).filterMap gap?

theorem mem_gaps {g : Text} : g ∈ r.gaps t ↔ gap g ∈ r.pieces t := by
  simp [gaps]

-- The text with each item written anew at its own offset.
def rewrite (r : Recogniser α) (write : α → Text) (t : Text) : Text :=
  join write (r.pieces t)

theorem cut_plain (n : Nat) (h : r.atStart? (c :: t) = none) :
    cut r.raw n (Segment.occurrences r.raw n (r.segments (c :: t))) (c :: t) =
      prepend c (cut r.raw (n + c.utf8Size)
        (Segment.occurrences r.raw (n + c.utf8Size) (r.segments t)) t) := by
  rw [segments_cons h, Segment.occurrences]
  exact cut_cons fun _ => Segment.le_offset

theorem Lawful.cut_item (hr : r.Lawful) (n : Nat) (h : r.atStart? (r.raw a ++ t) = some a) :
    cut r.raw n (Segment.occurrences r.raw n (r.segments (r.raw a ++ t))) (r.raw a ++ t) =
      gap [] :: item a :: cut r.raw (n + byteLength (r.raw a))
        (Segment.occurrences r.raw (n + byteLength (r.raw a)) (r.segments t)) t := by
  rw [hr.segments_append h, Segment.occurrences, cut]
  simp

-- Where the text itself starts makes no difference to its pieces.
theorem Lawful.cut_eq_pieces (hr : r.Lawful) (n : Nat) (t : Text) :
    cut r.raw n (Segment.occurrences r.raw n (r.segments t)) t = r.pieces t := by
  rw [pieces, occurrences]
  suffices ∀ m, cut r.raw n (Segment.occurrences r.raw n (r.segments t)) t =
      cut r.raw m (Segment.occurrences r.raw m (r.segments t)) t from this 0
  induction t using hr.induction generalizing n
  case nil => simp [Segment.occurrences, cut]
  case plain h hi =>
    intro m
    rw [cut_plain n h, cut_plain m h, hi]
  case item h hi =>
    intro m
    rw [hr.cut_item n h, hr.cut_item m h, hi]

@[simp]
theorem pieces_nil : r.pieces [] = [gap []] :=
  rfl

namespace Lawful

theorem pieces_cons (hr : r.Lawful) (h : r.atStart? (c :: t) = none) :
    r.pieces (c :: t) = prepend c (r.pieces t) := by
  rw [← hr.cut_eq_pieces 0, cut_plain 0 h, hr.cut_eq_pieces]

theorem pieces_append (hr : r.Lawful) (h : r.atStart? (r.raw a ++ t) = some a) :
    r.pieces (r.raw a ++ t) = gap [] :: item a :: r.pieces t := by
  rw [← hr.cut_eq_pieces 0, hr.cut_item 0 h, hr.cut_eq_pieces]

-- Nothing is lost in the cut.
theorem join_pieces (hr : r.Lawful) (t : Text) : join r.raw (r.pieces t) = t := by
  induction t using hr.induction
  case nil => rfl
  case plain h hi => simp [hr.pieces_cons h, hi]
  case item h hi => simp [hr.pieces_append h, Piece.text, hi]

theorem item_mem_pieces (hr : r.Lawful) : item a ∈ r.pieces t ↔ a ∈ r.items t := by
  induction t using hr.induction
  case nil => simp
  case plain h hi => simp [hr.pieces_cons h, items_cons h, hi]
  case item h hi => simp [hr.pieces_append h, hr.items_append h, hi]

theorem rewrite_congr (hr : r.Lawful) {write write' : α → Text} (h : ∀ a ∈ r.items t, write a = write' a) :
    r.rewrite write t = r.rewrite write' t :=
  join_congr fun a ha => h a <| hr.item_mem_pieces.mp ha

theorem rewrite_cons {write : α → Text} (hr : r.Lawful) (h : r.atStart? (c :: t) = none) :
    r.rewrite write (c :: t) = c :: r.rewrite write t := by
  rw [rewrite, hr.pieces_cons h, join_prepend, ← rewrite]

theorem rewrite_append {write : α → Text} (hr : r.Lawful) (h : r.atStart? (r.raw a ++ t) = some a) :
    r.rewrite write (r.raw a ++ t) = write a ++ r.rewrite write t := by
  rw [rewrite, hr.pieces_append h, join_cons, join_cons, ← rewrite]
  rfl

-- A reported offset says how much comes before the item.
theorem exists_of_mem_occurrences (hr : r.Lawful) {o : Occurrence α} (h : o ∈ r.occurrences t) :
    ∃ ps qs, r.pieces t = ps ++ item o.item :: qs ∧ o.offset = byteLength (join r.raw ps) := by
  suffices ∀ n, o ∈ Segment.occurrences r.raw n (r.segments t) → ∃ ps qs,
      r.pieces t = ps ++ item o.item :: qs ∧ o.offset = n + byteLength (join r.raw ps) by
    simpa using this 0 h
  clear h
  induction t using hr.induction
  case nil => simp [Segment.occurrences]
  case plain c t hn hi =>
    intro n h
    rw [segments_cons hn, Segment.occurrences] at h
    have ⟨ps, qs, hp, ho⟩ := hi _ h
    exact ⟨prepend c ps, qs, by rw [hr.pieces_cons hn, hp, prepend_append], by simp [ho]; omega⟩
  case item a t ha hi =>
    intro n h
    rw [hr.segments_append ha, Segment.occurrences, List.mem_cons] at h
    cases h
    case inl h => exact ⟨[gap []], r.pieces t, by simp [hr.pieces_append ha, h], by simp [h, Piece.text]⟩
    case inr h =>
      have ⟨ps, qs, hp, ho⟩ := hi _ h
      exact ⟨gap [] :: item a :: ps, qs, by simp [hr.pieces_append ha, hp], by simp [ho, Piece.text]; omega⟩

end Lawful
end Recogniser

namespace Piece

variable {raw : α → Text} {a : α} {p : Piece α} {ps : List (Piece α)}

-- The text of `a` occurs nowhere among the pieces but where `a` itself stands.
def OnlyAt (raw : α → Text) (a : α) (ps : List (Piece α)) : Prop :=
  ∀ pre post, join raw ps = pre ++ raw a ++ post → ∃ qs rs, ps = qs ++ item a :: rs ∧ join raw qs = pre

theorem OnlyAt.tail (hraw : ∀ a, raw a ≠ []) (h : OnlyAt raw a (p :: ps)) : OnlyAt raw a ps := by
  intro pre post he
  have ⟨qs, rs, hq, hj⟩ := h (p.text raw ++ pre) post (by simp [he])
  cases qs
  case nil =>
    obtain ⟨rfl, rfl⟩ : p = item a ∧ ps = rs := by simpa using hq
    simp [text, hraw a] at hj
  case cons q qs =>
    obtain ⟨rfl, rfl⟩ : p = q ∧ ps = qs ++ item a :: rs := by simpa using hq
    exact ⟨qs, rs, rfl, by simpa using hj⟩

theorem OnlyAt.not_within (h : OnlyAt raw a (p :: ps)) (hp : p ≠ item a) {u v : Text}
    (he : p.text raw = u ++ v) (hv : v ≠ []) : ¬ raw a <+: v ++ join raw ps := by
  rintro ⟨post, hpost⟩
  have ⟨qs, rs, hq, hj⟩ := h u post (by simp [he, ← hpost])
  cases qs
  case nil =>
    obtain ⟨rfl, -⟩ : p = item a ∧ ps = rs := by simpa using hq
    exact hp rfl
  case cons q qs =>
    obtain ⟨rfl, -⟩ : p = q ∧ ps = qs ++ item a :: rs := by simpa using hq
    have hl := congrArg List.length hj
    have hp := List.length_pos_iff.mpr hv
    simp only [join_cons, he, List.length_append] at hl
    omega

-- Each item that has a body gives way to it, all of them at once.
def expand (body? : α → Option (List (Piece α))) : Piece α → List (Piece α)
  | gap g => [gap g]
  | item a => (body? a).getD [item a]

theorem flatMap_expand_of_none {body? : α → Option (List (Piece α))}
    (h : ∀ a, item a ∈ ps → body? a = none) : ps.flatMap (expand body?) = ps := by
  induction ps
  case nil => rfl
  case cons p ps hi =>
    cases p <;> simp_all [expand]

-- A piece of the outcome is one that was there and has no body, or it came in with one.
theorem mem_flatMap_expand {body? : α → Option (List (Piece α))}
    (h : p ∈ ps.flatMap (expand body?)) :
    p ∈ ps ∧ (∀ a, p = item a → body? a = none) ∨
      ∃ a body, item a ∈ ps ∧ body? a = some body ∧ p ∈ body := by
  have ⟨q, hq, hp⟩ := List.mem_flatMap.mp h
  cases q
  case gap g =>
    obtain rfl : p = gap g := by simpa [expand] using hp
    exact .inl ⟨hq, by simp⟩
  case item a =>
    cases hb : body? a
    case none =>
      obtain rfl : p = item a := by simpa [expand, hb] using hp
      exact .inl ⟨hq, by simp [hb]⟩
    case some body => exact .inr ⟨a, body, hq, hb, by simpa [expand, hb] using hp⟩

-- Bodies that are put in a text say what is written for their items.
theorem join_flatMap_expand (raw : α → Text) (body? : α → Option (List (Piece α))) :
    join raw (ps.flatMap (expand body?)) = join (fun a => (body? a).elim (raw a) (join raw)) ps := by
  induction ps
  case nil => rfl
  case cons p ps hi =>
    rw [List.flatMap_cons, join_append, hi, join_cons]
    congr 1
    cases p
    case gap => simp [expand, text]
    case item a => cases ha : body? a <;> simp [expand, text, ha]

variable [DecidableEq α]

def put (a : α) (body : List (Piece α)) : Piece α → List (Piece α)
  | gap g => [gap g]
  | item b => if b = a then body else [item b]

theorem put_of_ne (body : List (Piece α)) (h : p ≠ item a) : put a body p = [p] := by
  cases p <;> simp_all [put]

theorem replaceAll_join (hraw : ∀ a, raw a ≠ []) (body : List (Piece α)) (h : OnlyAt raw a ps) :
    replaceAll (raw a) (join raw body) (join raw ps) = join raw (ps.flatMap (put a body)) := by
  induction ps
  case nil => rfl
  case cons p ps hi =>
    replace hi := hi <| h.tail hraw
    by_cases hp : p = item a
    case pos => simp [hp, text, put, replaceAll_self_append (hraw a), hi]
    case neg =>
      have hn := replaceAll_append (join raw body) fun u v => h.not_within hp (u := u)
      simp [put_of_ne body hp, hn, hi]

theorem mem_flatMap_put {body : List (Piece α)} (h : p ∈ ps.flatMap (put a body)) :
    p ∈ body ∨ p ∈ ps ∧ p ≠ item a := by
  have ⟨q, hq, hp⟩ := List.mem_flatMap.mp h
  by_cases he : q = item a
  case pos => exact .inl <| by simpa [he, put] using hp
  case neg =>
    obtain rfl : p = q := by simpa [put_of_ne body he] using hp
    exact .inr ⟨hq, he⟩

-- A body in which nothing is left to expand may as well have been put in before.
theorem flatMap_put_expand {body? : α → Option (List (Piece α))} {body : List (Piece α)}
    (ha : body? a = some body) (settled : ∀ b, item b ∈ body → body? b = none) :
    (ps.flatMap (put a body)).flatMap (expand body?) = ps.flatMap (expand body?) := by
  rw [List.flatMap_assoc]
  congr 1
  funext p
  by_cases hp : p = item a
  case pos => simp [hp, put, expand, ha, flatMap_expand_of_none settled]
  case neg => simp [put_of_ne body hp]

end Piece

-- Replaces the items one after the other, each of them wherever its text occurs by then. An item for
-- which there is nothing to put in its place is left alone.
def replaceInTurn (raw : α → Text) (body? : α → Option Text) (t : Text) (items : List α) : Text :=
  items.foldl (fun buffer a => (body? a).elim buffer fun body => replaceAll (raw a) body buffer) t

theorem replaceInTurn_congr {raw : α → Text} {body? body?' : α → Option Text} {t : Text}
    {items : List α} (h : ∀ a ∈ items, body? a = body?' a) :
    replaceInTurn raw body? t items = replaceInTurn raw body?' t items :=
  List.foldl_ext _ _ t fun buffer a ha => by rw [h a ha]

section InTurn

variable [DecidableEq α] {raw : α → Text}

-- The pieces stay sound while items give way to bodies, and in sound pieces an item's text occurs only
-- where the item stands. A body brings in no item that would still have to be replaced.
theorem replaceInTurn_join (Sound : Piece α → Prop) (hraw : ∀ a, raw a ≠ [])
    (only : ∀ a ps, Sound (.item a) → (∀ p ∈ ps, Sound p) → OnlyAt raw a ps)
    (body? : α → Option (List (Piece α))) (items : List α) (ps : List (Piece α))
    (hitems : ∀ a ∈ items, Sound (.item a))
    (hbody : ∀ a ∈ items, ∀ body, body? a = some body → ∀ p ∈ body, Sound p)
    (settled : ∀ a ∈ items, ∀ body, body? a = some body → ∀ b, .item b ∈ body → body? b = none)
    (hps : ∀ p ∈ ps, Sound p) (covered : ∀ a, .item a ∈ ps → body? a ≠ none → a ∈ items) :
    replaceInTurn raw (fun a => (body? a).map (join raw)) (join raw ps) items =
      join raw (ps.flatMap (expand body?)) := by
  induction items generalizing ps
  case nil =>
    have h : ∀ a, .item a ∈ ps → body? a = none := by simpa using covered
    simp [replaceInTurn, flatMap_expand_of_none h]
  case cons a items hi =>
    replace hi ps := hi ps (fun b hb => hitems b (.tail _ hb)) (fun b hb => hbody b (.tail _ hb))
      (fun b hb => settled b (.tail _ hb))
    rw [replaceInTurn, List.foldl_cons, ← replaceInTurn]
    cases ha : body? a
    case none =>
      refine hi ps hps fun b hb hs => (List.mem_cons.mp <| covered b hb hs).resolve_left fun he => ?_
      exact hs (he ▸ ha)
    case some body =>
      have hm := replaceAll_join hraw body <| only a ps (hitems a List.mem_cons_self) hps
      simp only [Option.map_some, Option.elim_some, hm]
      rw [hi _ ?sound ?covered, flatMap_put_expand ha <| settled a List.mem_cons_self body ha]
      case sound =>
        intro p hp
        cases mem_flatMap_put hp
        case inl h => exact hbody a List.mem_cons_self body ha p h
        case inr h => exact hps p h.left
      case covered =>
        intro b hb hs
        cases mem_flatMap_put hb
        case inl h => exact absurd (settled a List.mem_cons_self body ha b h) hs
        case inr h =>
          exact (List.mem_cons.mp <| covered b h.left hs).resolve_left fun he => h.right (he ▸ rfl)

end InTurn
end Stencil.Text
