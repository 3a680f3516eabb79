import Stencil.Text.Basic

/-!
A recogniser says which item, if any, stands at the start of a text. It cuts every text into
segments: the leftmost items that do not overlap, and the characters between them. The occurrences
of an item and the replacement of a text by another are both read off the segments.
-/
namespace Stencil.Text

structure Recogniser (α : Type) where
  atStart? : Text → Option α
  -- The text that an item takes up.
  raw : α → Text

inductive Segment (α : Type)
  | plain (c : Char)
  | item (a : α)
deriving DecidableEq

-- An item with the byte offset at which it stands.
structure Occurrence (α : Type) where
  offset : Nat
  item : α
deriving DecidableEq

namespace Recogniser

variable {α : Type} (r : Recogniser α)

-- The segments of a text after its first `skip` characters, which belong to an earlier item.
def segmentsFrom (skip : Nat) : Text → List (Segment α)
  | [] => []
  | c :: t =>
    match skip with
    | skip + 1 => segmentsFrom skip t
    | 0 =>
      match r.atStart? (c :: t) with
      | some a => .item a :: segmentsFrom ((r.raw a).length - 1) t
      | none => .plain c :: segmentsFrom 0 t

def segments (t : Text) : List (Segment α) :=
  r.segmentsFrom 0 t

end Recogniser

namespace Segment

variable {α : Type}

-- The text of a segment when an item `a` is written as `write a`.
def text (write : α → Text) : Segment α → Text
  | plain c => [c]
  | item a => write a

def item? : Segment α → Option α
  | plain _ => none
  | item a => some a

-- The occurrences among segments of which the first stands at `offset`.
def occurrences (raw : α → Text) (offset : Nat) : List (Segment α) → List (Occurrence α)
  | [] => []
  | plain c :: rest => occurrences raw (offset + c.utf8Size) rest
  | item a :: rest => ⟨offset, a⟩ :: occurrences raw (offset + byteLength (raw a)) rest

end Segment

namespace Recogniser

variable {α : Type} (r : Recogniser α)

-- The items of a text from left to right.
def items (t : Text) : List α :=
  (r.segments t).filterMap Segment.item?

def occurrences (t : Text) : List (Occurrence α) :=
  Segment.occurrences r.raw 0 (r.segments t)

-- The text in which each item is written in its place by `write` and all else is kept.
def replaceItems (write : α → Text) (t : Text) : Text :=
  (r.segments t).flatMap (Segment.text write)

-- Recognises one fixed text, which is not empty.
def literal (old : Text) : Recogniser Unit where
  atStart? t := if old.isPrefixOf t then some () else none
  raw _ := old

end Recogniser

-- Every occurrence of `old`, leftmost first and without overlap, becomes `new`.
def replaceAll (old new : Text) : Text → Text :=
  (Recogniser.literal old).replaceItems fun _ => new

end Stencil.Text
