import Stencil.Text.Blank
import Stencil.Text.Utf8

/-!
The lines of a file of assignments. A line goes on past its end while a quote or a blank is open, and
it ends early where a comment starts after a blank.
-/
namespace Stencil.Environment

-- What the next character of a line is part of.
inductive LineMode
  | complete
  | blank
  | escape
  | strong
  | strongEscape
  | weak
  | weakEscape
deriving DecidableEq

namespace LineMode

-- The mode after a character outside of quotes.
def opened (c : Char) : LineMode :=
  if c = '\\' then escape
  else if c = '"' then weak
  else if c = '\'' then strong
  else complete

-- The mode after a character, or none when the character starts a comment.
def next? : LineMode → Char → Option LineMode
  | complete, c => some (if Text.isBlank c && c ≠ '\n' && c ≠ '\r' then blank else opened c)
  | blank, c => if c = '#' then none else some (opened c)
  | escape, _ => some complete
  | strong, c => some (if c = '\\' then strongEscape else if c = '\'' then complete else strong)
  | strongEscape, _ => some strong
  | weak, c => some (if c = '\\' then weakEscape else if c = '"' then complete else weak)
  | weakEscape, _ => some weak

-- The part of a line before its comment, and the mode at its end if there is no comment.
def run (mode : LineMode) : Text → Text × Option LineMode
  | [] => ([], some mode)
  | c :: t =>
    match mode.next? c with
    | none => ([], none)
    | some mode =>
      let (kept, final?) := run mode t
      (c :: kept, final?)

end LineMode

-- A line without the break at its end.
def withoutBreak (t : Text) : Text :=
  match t.reverse with
  | '\n' :: '\r' :: t => t.reverse
  | '\n' :: t => t.reverse
  | _ => t

-- Joins physical lines, each with its break, into whole ones. What cannot be read ends the lines:
-- bytes that are no text, or a line that is still open at the end.
def joinLines (mode : LineMode) (buffer : Text) : List (Option Text) → List (Option Text)
  | [] => if mode = .complete then [] else [none]
  | none :: _ => [none]
  | some line :: rest =>
    let whole := buffer ++ line
    if (whole.dropWhile Text.isBlank).head? = some '#' then some [] :: joinLines .complete [] rest
    else match mode.run line with
      | (kept, none) => some (buffer ++ kept) :: joinLines .complete [] rest
      | (_, some .complete) => some (withoutBreak whole) :: joinLines .complete [] rest
      | (_, some mode) => joinLines mode whole rest

-- The lines of a file.
def lines (bytes : ByteArray) : List (Option Text) :=
  joinLines .complete [] ((Text.byteParts 0x0a (Text.withoutMark bytes)).map Text.ofUtf8?)

end Stencil.Environment
