import Stencil.Proofs.Text.Pieces

/-!
Pieces that may come to stand next to any text. Every item has one character, its sign, that tells which of
the pieces of a text it belongs to. When no piece but an item itself can hold the sign of that item, the
items of a text are those among its pieces, however the pieces were put together.
-/
namespace Stencil.Text

variable {α : Type} {r : Recogniser α} {WellFormed : α → Prop}

namespace Piece

def item? : Piece α → Option α
  | gap _ => none
  | item a => some a

@[simp]
theorem item?_eq_some_iff {p : Piece α} {a : α} : p.item? = some a ↔ p = item a := by
  cases p <;> simp [item?]

end Piece

namespace Recogniser

-- A text within which no item starts is passed over, whatever follows it.
theorem Reads.items_append_of_not_within {g t : Text} (hr : r.Reads WellFormed)
    (hg : ∀ a u v, WellFormed a → g = u ++ v → v ≠ [] → ¬ r.raw a <+: v ++ t) : r.items (g ++ t) = r.items t := by
  induction g
  case nil => rfl
  case cons c g hi =>
    have hn : r.atStart? (c :: (g ++ t)) = none := by
      refine Option.eq_none_iff_forall_not_mem.mpr fun a ha => ?_
      have ⟨hw, hp⟩ := hr.atStart?_iff.mp ha
      exact hg a [] (c :: g) hw rfl (by simp) hp
    rw [List.cons_append, items_cons hn]
    exact hi fun a u v hw he => hg a (c :: u) v hw (by simp [he])

structure Anchor (r : Recogniser α) (WellFormed : α → Prop) where
  sign : Char
  -- What an item has before and after its sign.
  before : α → Text
  after : α → Text
  raw_eq : ∀ a, r.raw a = before a ++ sign :: after a
  reads : r.Reads WellFormed

namespace Anchor

variable {k : r.Anchor WellFormed} {a : α} {g t : Text} {ps : List (Piece α)}

-- No item has its sign in the piece, whatever text stands on the left and on the right of the piece, unless
-- the piece is that item.
structure Closed (k : r.Anchor WellFormed) (p : Piece α) : Prop where
  wellFormed : ∀ a, p = .item a → WellFormed a
  sign : ∀ {a u v left right pre post}, WellFormed a → p.text r.raw = u ++ k.sign :: v →
    left ++ u = pre ++ k.before a → v ++ right = k.after a ++ post → p = .item a ∧ left = pre

-- A text that is cut into such pieces.
def Sealed (k : r.Anchor WellFormed) (t : Text) : Prop :=
  ∀ p ∈ r.pieces t, k.Closed p

theorem closed_gap_of_not_mem (h : k.sign ∉ g) : k.Closed (.gap g) where
  wellFormed _ he := nomatch he
  sign _ hg := absurd (by simp [show g = _ from hg]) h

-- From the place of its sign on, an item can be read in both directions.
theorem closed_item (ha : WellFormed a)
    (h : ∀ {b u v left pre}, WellFormed b → r.raw a = u ++ k.sign :: v → left ++ u = pre ++ k.before b →
      left = pre) :
    k.Closed (.item a) where
  wellFormed _ he := Piece.item.inj he ▸ ha
  sign {b u v left right pre post} hb hu hl hr := by
    replace hu : r.raw a = u ++ k.sign :: v := hu
    obtain rfl := h hb hu hl
    obtain rfl : u = k.before b := List.append_cancel_left hl
    have hj : r.raw a ++ right = r.raw b ++ post := by simp [hu, k.raw_eq b, hr]
    obtain rfl : a = b := k.reads.eq_of_append_eq ha hb hj
    exact ⟨rfl, rfl⟩

-- The sign of an item that is found among the pieces lies in one of them.
theorem onlyAt (hps : ∀ p ∈ ps, k.Closed p) (ha : WellFormed a) : Piece.OnlyAt r.raw a ps := by
  intro pre post h
  replace h : Piece.join r.raw ps = (pre ++ k.before a) ++ k.sign :: (k.after a ++ post) := by
    simp [h, k.raw_eq]
  obtain ⟨qs, p, rs, u, v, rfl, hp, hl, hr⟩ := Piece.exists_of_join_eq_append_cons h
  obtain ⟨rfl, rfl⟩ := (hps p (by simp)).sign ha hp hl.symm hr.symm
  exact ⟨qs, rs, rfl, rfl⟩

theorem items_join (hps : ∀ p ∈ ps, k.Closed p) :
    r.items (Piece.join r.raw ps) = ps.filterMap Piece.item? := by
  have honly a (ha : WellFormed a) := onlyAt hps ha
  induction ps
  case nil => rfl
  case cons p ps hi =>
    replace hi := hi (fun p hp => hps p (.tail _ hp)) fun a ha => (honly a ha).tail k.reads.raw_ne_nil
    cases p
    case gap g =>
      have hg a u v (ha : WellFormed a) (he : g = u ++ v) := (honly a ha).not_within (nomatch ·) he
      rw [Piece.join_cons, Piece.text, k.reads.items_append_of_not_within hg, hi]
      rfl
    case item a =>
      have ha := (hps _ List.mem_cons_self).wellFormed a rfl
      rw [Piece.join_cons, Piece.text, k.reads.lawful.items_append (k.reads.atStart?_append ha _), hi]
      rfl

theorem mem_items_join_iff (hps : ∀ p ∈ ps, k.Closed p) : a ∈ r.items (Piece.join r.raw ps) ↔ .item a ∈ ps := by
  simp [items_join hps, List.mem_filterMap]

-- What is written for the items counts as gaps from then on.
theorem items_rewrite_eq_nil {write : α → Text} (ht : k.Sealed t)
    (hwrite : ∀ a ∈ r.items t, k.Closed (.gap <| write a)) : r.items (r.rewrite write t) = [] := by
  let ps : List (Piece α) := (r.pieces t).map fun p => .gap (p.text write)
  have hj : Piece.join r.raw ps = r.rewrite write t := by
    rw [Piece.join, List.flatMap_map]
    rfl
  have hps : ∀ p ∈ ps, k.Closed p := by
    intro p hp
    obtain ⟨q, hq, rfl⟩ := List.mem_map.mp hp
    cases q
    case gap => exact ht _ hq
    case item a => exact hwrite a <| k.reads.lawful.item_mem_pieces.mp hq
  rw [← hj, items_join hps, List.filterMap_eq_nil_iff]
  simp [ps, Piece.item?]

end Anchor
end Recogniser
end Stencil.Text
