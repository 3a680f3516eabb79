import Stencil.Settings.Value
import Stencil.Text.Lower

/-!
Layers of settings. A layer assigns values to keys such as `views.path`; later layers win, and a
table only changes the keys it mentions. Keys do not distinguish upper and lower case.
-/
namespace Stencil.Settings

-- What one source of settings assigns, in order.
abbrev Layer := List (Text × Value)

-- The entries of a table; anything else has none.
def Value.entries : Value → List (Text × Value)
  | table _ entries => entries
  | _ => []

-- Where a table was written; anything else gives way to a table from nowhere.
def Value.tableOrigin? : Value → Option Text
  | table origin? _ => origin?
  | _ => none

-- Sets the value of a key in place, or adds it at the end.
def setEntry (key : Text) (v : Value) : List (Text × Value) → List (Text × Value)
  | [] => [(key, v)]
  | (k, old) :: rest => if k = key then (key, v) :: rest else (k, old) :: setEntry key v rest

-- A value as a table in which a key has a value.
def Value.withEntry (root : Value) (key : Text) (v : Value) : Value :=
  .table root.tableOrigin? (setEntry key v root.entries)

mutual

-- Assigns a value to a key of a table. A table is assigned key by key to what is there.
def assign (key : Text) (root : Value) : Value → Value
  | .table _ entries =>
    let key := Text.lower key
    let old := (root.entries.lookup key).getD Value.emptyTable
    root.withEntry key (assignAll old entries)
  | v => root.withEntry (Text.lower key) v

def assignAll (root : Value) : List (Text × Value) → Value
  | [] => root
  | (key, v) :: rest => assignAll (assign key root v) rest

end

-- A step on the way to a value: a key of a table or a position in a list. Negative positions count
-- from the end.
inductive Step
  | key (k : Text)
  | position (i : Int)
deriving DecidableEq

namespace Step

def isNameChar (c : Char) : Bool :=
  c.isAlphanum || c = '_' || c = '-' || c = ' '

-- A position is a whole number of 64 bits, without a plus.
def position? (t : Text) : Option Int :=
  let t := Text.trim (fun c => c = ' ' || c = '\t') t
  if t.head? = some '+' then none else Number.int? (-(Nat.pow 2 63)) (Nat.pow 2 63 - 1) t

-- Names and positions after the first name, as in `.b[0].c`.
def rest? : (fuel : Nat) → Text → Option (List Step)
  | _, [] => some []
  | 0, _ => none
  | fuel + 1, '.' :: t =>
    let name := t.takeWhile isNameChar
    if name = [] then none else (rest? fuel (t.dropWhile isNameChar)).map (.key name :: ·)
  | fuel + 1, '[' :: t =>
    match position? (t.takeWhile (· ≠ ']')), t.dropWhile (· ≠ ']') with
    | some i, _ :: t => (rest? fuel t).map (.position i :: ·)
    | _, _ => none
  | _, _ => none

-- The steps that a key spells out. A key that spells none is a name as a whole.
def ofKey (key : Text) : List Step :=
  let name := key.takeWhile isNameChar
  if name = [] then [.key key]
  else match rest? key.length (key.dropWhile isNameChar) with
    | some steps => .key name :: steps
    | none => [.key key]

-- The items of a list, with enough empty ones at its end or its start for a position, and the index of
-- the position among them. There is memory for all of them, however far away the position is.
def padded (items : List Value) : Int → List Value × Nat
  | .ofNat i => (items ++ List.replicate (i + 1 - items.length) (.scalar none .nil), i)
  | .negSucc i =>
    (List.replicate (i + 1 - items.length) (.scalar none .nil) ++ items, items.length - (i + 1))

end Step

-- The items of a list; anything else has none.
def Value.items : Value → List Value
  | array _ items => items
  | _ => []

def Value.arrayOrigin? : Value → Option Text
  | array origin? _ => origin?
  | _ => none

-- Assigns a value at the end of some steps, making tables and lists on the way.
def assignAt (v : Value) : List Step → Value → Value
  | [], _ => v
  | [.key k], root => assign k root v
  | .key k :: rest, root =>
    let k := Text.lower k
    root.withEntry k (assignAt v rest ((root.entries.lookup k).getD (.scalar none .nil)))
  | .position i :: rest, root =>
    let (items, i) := Step.padded root.items i
    .array root.arrayOrigin? (items.set i (assignAt v rest (items[i]?.getD (.scalar none .nil))))

-- A layer on top of what is there.
def apply (root : Value) (layer : Layer) : Value :=
  layer.foldl (fun root (key, v) => assignAt v (Step.ofKey key) root) root

-- All layers, the lowest first.
def stack (layers : List Layer) : Value :=
  layers.foldl apply Value.emptyTable

end Stencil.Settings
