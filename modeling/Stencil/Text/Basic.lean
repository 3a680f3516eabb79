/-!
Texts are lists of characters. Offsets into a text count the bytes of its UTF-8 form, so the length
that matters for a position is `Text.byteLength`.
-/
namespace Stencil

abbrev Text := List Char

instance : Coe String Text := ⟨String.toList⟩

namespace Text

-- The number of bytes of the UTF-8 form.
def byteLength (t : Text) : Nat :=
  t.foldr (fun c n => c.utf8Size + n) 0

@[simp]
theorem byteLength_nil : byteLength [] = 0 := rfl

@[simp]
theorem byteLength_cons (c : Char) (t : Text) : byteLength (c :: t) = c.utf8Size + byteLength t := rfl

@[simp]
theorem byteLength_append (s t : Text) : byteLength (s ++ t) = byteLength s + byteLength t := by
  induction s <;> simp_all [Nat.add_assoc]

-- The decimal digits of a number, without sign or leading zeros.
def ofNat (n : Nat) : Text :=
  Nat.toDigits 10 n

def ofInt : Int → Text
  | .ofNat n => ofNat n
  | .negSucc n => '-' :: ofNat (n + 1)

def ofBool (b : Bool) : Text :=
  if b then "true" else "false"

-- The characters whose UTF-8 forms start within the first `n` bytes.
def takeBytes (n : Nat) : Text → Text
  | [] => []
  | c :: t => if n = 0 then [] else c :: takeBytes (n - c.utf8Size) t

-- The characters whose UTF-8 forms start after the first `n` bytes.
def dropBytes (n : Nat) : Text → Text
  | [] => []
  | c :: t => if n = 0 then c :: t else dropBytes (n - c.utf8Size) t

-- The parts before and after the first `sep`, if there is one.
def splitFirst (sep : Char) : Text → Option (Text × Text)
  | [] => none
  | c :: t =>
    if c = sep then some ([], t) else (splitFirst sep t).map fun (before, after) => (c :: before, after)

-- The parts between the separators, of which there is always one more than separators.
def split (sep : Char) : Text → List Text
  | [] => [[]]
  | c :: t =>
    if c = sep then [] :: split sep t
    else match split sep t with
      | part :: parts => (c :: part) :: parts
      | [] => [[c]]

theorem split_ne_nil (sep : Char) (t : Text) : split sep t ≠ [] := by
  cases t with
  | nil => simp [split]
  | cons c t => unfold split; split <;> (try split) <;> simp

-- The text without the characters at its end that satisfy `p`.
def dropWhileEnd (p : Char → Bool) (t : Text) : Text :=
  (t.reverse.dropWhile p).reverse

-- The text without the characters at either end that satisfy `p`.
def trim (p : Char → Bool) (t : Text) : Text :=
  dropWhileEnd p (t.dropWhile p)

-- The text with its ASCII letters in lower case.
def lowerAscii (t : Text) : Text :=
  t.map Char.toLower

-- The text with its ASCII letters in upper case.
def upper (t : Text) : Text :=
  t.map Char.toUpper

-- Does `part` occur somewhere in the text?
def hasInfix (part : Text) : Text → Bool
  | [] => part.isEmpty
  | c :: t => part.isPrefixOf (c :: t) || hasInfix part t

-- The number the digits stand for, most significant first.
def digitsValue (digits : Text) : Nat :=
  digits.foldl (fun n c => 10 * n + (c.toNat - '0'.toNat)) 0

end Text

-- The items of a list, of those with one key only the first.
def distinctBy [DecidableEq κ] (key : α → κ) (items : List α) : List α :=
  go [] items
where
  go (seen : List κ) : List α → List α
    | [] => []
    | a :: rest => if key a ∈ seen then go seen rest else a :: go (key a :: seen) rest

end Stencil
