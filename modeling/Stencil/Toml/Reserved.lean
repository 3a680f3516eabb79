import Stencil.Toml.Moment

/-!
One key is reserved: a table that has it in front of all others stands for a moment, which is spelled out
in the text of the key.
-/
namespace Stencil.Toml

def reservedKey : Text := "$__toml_private_datetime"

mutual

-- The value with moments for the tables that stand for them. What follows the reserved key does not
-- count; what it holds has to be the text of a moment.
def withMoments? : Toml → Option Toml
  | array items => (itemsWithMoments? items).map array
  | table ((key, v) :: rest) =>
    if key = reservedKey then
      match v with
      | text t => (Moment.ofText? t).map moment
      | _ => none
    else do
      let v ← withMoments? v
      return table ((key, v) :: (← entriesWithMoments? rest))
  | v => some v

def itemsWithMoments? : List Toml → Option (List Toml)
  | [] => some []
  | v :: rest => do
    let v ← withMoments? v
    return v :: (← itemsWithMoments? rest)

def entriesWithMoments? : List (Text × Toml) → Option (List (Text × Toml))
  | [] => some []
  | (key, v) :: rest => do
    let v ← withMoments? v
    return (key, v) :: (← entriesWithMoments? rest)

end

end Stencil.Toml
