/-!
Classes of characters as lists of runs, each given by its first and its last code point. The tables of
such runs describe the characters beyond ASCII as of Unicode 17.
-/
namespace Stencil.Text

abbrev Ranges := List (Nat × Nat)

def Ranges.has (ranges : Ranges) (c : Char) : Bool :=
  ranges.any fun (first, last) => first ≤ c.toNat && c.toNat ≤ last

end Stencil.Text
