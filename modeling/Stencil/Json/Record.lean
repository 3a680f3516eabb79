import Stencil.Json.Tree

/-!
Records are written either as objects, whose members may come in any order, or as arrays of their
fields in order. Members that are not fields are passed over without a look at their values.
-/
namespace Stencil.Json.Tree

-- The members of an object, if all of its names have a text.
def named? (members : List (Option Text × Tree)) : Option (List (Text × Tree)) :=
  members.mapM fun (name?, value) => name?.map (·, value)

-- The member with a name. An object that repeats the name is no record.
def field? (members : List (Text × Tree)) (name : Text) : Option (Option Tree) :=
  match members.filter (·.1 = name) with
  | [] => some none
  | [(_, value)] => some (some value)
  | _ => none

-- The fields of a record with the given names, none for a field that is not there.
def fields? (names : List Text) : Tree → Option (List (Option Tree))
  | object members => do
    let members ← named? members
    names.mapM (field? members)
  | array items =>
    if items.length ≤ names.length then
      some (items.map some ++ List.replicate (names.length - items.length) none)
    else none
  | _ => none

def text? : Tree → Option Text
  | string text? => text?
  | _ => none

-- A whole number between two bounds.
def int? (low high : Int) : Tree → Option Int
  | number n =>
    match n.value? with
    | some (.int i) => if low ≤ i && i ≤ high then some i else none
    | _ => none
  | _ => none

-- A natural number up to a bound.
def nat? (high : Nat) (t : Tree) : Option Nat :=
  (t.int? 0 high).map Int.toNat

def list? (item? : Tree → Option α) : Tree → Option (List α)
  | array items => items.mapM item?
  | _ => none

-- One of several words, alone or as the name of a null.
def word? : Tree → Option Text
  | string text? => text?
  | object [(name?, null)] => name?
  | _ => none

-- A field that may be absent.
def orElse (fallback : α) (read? : Tree → Option α) : Option Tree → Option α
  | none => some fallback
  | some t => read? t

end Stencil.Json.Tree
