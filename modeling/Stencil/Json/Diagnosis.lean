import Stencil.Json.Reader

/-!
Why a text is no JSON value: the first thing in it that is wrong, and where. Numbers out of range, half
surrogate pairs and too deep nesting are wrong where they stand, whatever comes after them.
-/
namespace Stencil.Json

inductive Cause
  | unfinishedList
  | unfinishedObject
  | unfinishedString
  | unfinishedValue
  | expectedColon
  | expectedItemEnd
  | expectedMemberEnd
  | expectedWord
  | expectedValue
  | invalidEscape
  | invalidNumber
  | outOfRange
  | controlCharacter
  | keyNotString
  | halfPair
  | unfinishedPair
  | trailingComma
  | trailingCharacters
  | tooDeep
deriving DecidableEq

def Cause.text : Cause → Text
  | unfinishedList => "EOF while parsing a list"
  | unfinishedObject => "EOF while parsing an object"
  | unfinishedString => "EOF while parsing a string"
  | unfinishedValue => "EOF while parsing a value"
  | expectedColon => "expected `:`"
  | expectedItemEnd => "expected `,` or `]`"
  | expectedMemberEnd => "expected `,` or `\x7d`"
  | expectedWord => "expected ident"
  | expectedValue => "expected value"
  | invalidEscape => "invalid escape"
  | invalidNumber => "invalid number"
  | outOfRange => "number out of range"
  | controlCharacter => "control character (\\u0000-\\u001F) found while parsing a string"
  | keyNotString => "key must be a string"
  | halfPair => "lone leading surrogate in hex escape"
  | unfinishedPair => "unexpected end of hex escape"
  | trailingComma => "trailing comma"
  | trailingCharacters => "trailing characters"
  | tooDeep => "recursion limit exceeded"

-- A cause with its line and the bytes before it on that line.
structure Problem where
  cause : Cause
  line : Nat
  column : Nat
deriving DecidableEq

def Problem.message (p : Problem) : Text :=
  p.cause.text ++ " at line " ++ Text.ofNat p.line ++ " column " ++ Text.ofNat p.column

namespace Diagnosis

-- A cause, the text from where it was found, and how many more bytes belong to it.
structure Stop where
  cause : Cause
  rest : Text
  more : Nat

-- The text after something that is right, or what is wrong.
abbrev Outcome := Except Stop Text

-- The next character is wrong.
def wrongNext (cause : Cause) (t : Text) : Outcome :=
  .error ⟨cause, t, 1⟩

def wrongHere (cause : Cause) (t : Text) : Outcome :=
  .error ⟨cause, t, 0⟩

-- The rest of a word such as `null`.
def word : Text → Text → Outcome
  | [], t => .ok t
  | _ :: _, [] => wrongHere .unfinishedValue []
  | c :: cs, d :: t => if c = d then word cs t else wrongNext .expectedWord (d :: t)

-- Four hexadecimal digits.
def unit (t : Text) : Except Stop (Nat × Text) :=
  match t with
  | a :: b :: c :: d :: rest =>
    match Reader.hexUnit? a b c d with
    | some n => .ok (n, rest)
    | none => .error ⟨.invalidEscape, t, 4⟩
  | _ => if t.byteLength < 4 then .error ⟨.unfinishedString, [], 0⟩ else .error ⟨.invalidEscape, t, 4⟩

-- The character that has to come next within a pair of surrogates.
def inPair (c : Char) : Text → Outcome
  | [] => wrongHere .unfinishedString []
  | d :: t => if c = d then .ok t else wrongNext .unfinishedPair (d :: t)

-- A character given by one unit or by a pair, after the letter `u`.
def units (t : Text) : Outcome := do
  let (n, t) ← unit t
  if StringPart.isLow n then wrongHere .halfPair t
  else if !StringPart.isHigh n then .ok t
  else
    let t ← inPair '\\' t
    let t ← inPair 'u' t
    let (n, t) ← unit t
    if StringPart.isLow n then .ok t else wrongHere .halfPair t

-- A string after its opening quote.
def string : (fuel : Nat) → Text → Outcome
  | 0, t => .ok t
  | fuel + 1, t =>
    match t with
    | [] => wrongHere .unfinishedString []
    | '"' :: t => .ok t
    | '\\' :: [] => wrongHere .unfinishedString []
    | '\\' :: 'u' :: t => do string fuel (← units t)
    | '\\' :: e :: t =>
      if (Reader.escape? e).isSome then string fuel t else wrongNext .invalidEscape (e :: t)
    | c :: t => if c.toNat < 0x20 then wrongHere .controlCharacter t else string fuel t

-- One or more digits after a point or an exponent.
def digits (wrong : Cause → Text → Outcome) (t : Text) : Outcome :=
  match t with
  | [] => wrongHere .unfinishedValue []
  | c :: _ => if c.isDigit then .ok (t.dropWhile Char.isDigit) else wrong .invalidNumber t

def fraction : Text → Outcome
  | '.' :: t => digits wrongNext t
  | t => .ok t

-- The largest exponent.
def maxExponent : Nat := Nat.pow 2 31 - 1

def exponent (t : Text) : Outcome :=
  match t with
  | [] => .ok []
  | c :: t =>
    if c = 'e' || c = 'E' then
      digits wrongNext (match t with
        | '-' :: t => t
        | '+' :: t => t
        | t => t)
    else .ok (c :: t)

-- Where the digits of a number that is out of range stop to count.
def outOfRangeAt (n : Numeral) (rest : Text) : Text :=
  match n.exponent? with
  | none => rest
  | some (_, digits) =>
    match (List.range (digits.length + 1)).find? fun k => maxExponent < Text.digitsValue (digits.take k) with
    | some k => digits.drop k ++ rest
    | none => rest

-- A number from its sign on.
def number (t : Text) : Outcome :=
  match Reader.numeral? t with
  | some (n, rest) => if n.value?.isSome then .ok rest else wrongHere .outOfRange (outOfRangeAt n rest)
  | none =>
    let t := match t with
      | '-' :: t => t
      | t => t
    match t with
    | [] => wrongHere .unfinishedValue []
    | '0' :: d :: t =>
      if d.isDigit then wrongNext .invalidNumber (d :: t) else do exponent (← fraction (d :: t))
    | t => do exponent (← fraction (← digits wrongNext t))

mutual

def value : (fuel depth : Nat) → Text → Outcome
  | 0, _, t => .ok t
  | fuel + 1, depth, t =>
    match t.dropWhile isSpace with
    | [] => wrongNext .unfinishedValue []
    | 'n' :: t => word "ull" t
    | 't' :: t => word "rue" t
    | 'f' :: t => word "alse" t
    | '"' :: t => string (t.length + 1) t
    | '[' :: t =>
      match depth, t.dropWhile isSpace with
      | 0, _ => wrongNext .tooDeep ('[' :: t)
      | _, [] => wrongNext .unfinishedList []
      | _, ']' :: t => .ok t
      | depth + 1, t => items fuel depth t
    | '{' :: t =>
      match depth, t.dropWhile isSpace with
      | 0, _ => wrongNext .tooDeep ('{' :: t)
      | _, [] => wrongNext .unfinishedObject []
      | _, '}' :: t => .ok t
      | depth + 1, '"' :: t => members fuel depth t
      | _, t => wrongNext .keyNotString t
    | c :: t => if c = '-' || c.isDigit then number (c :: t) else wrongNext .expectedValue (c :: t)

-- One or more items, up to the closing bracket.
def items : (fuel depth : Nat) → Text → Outcome
  | 0, _, t => .ok t
  | fuel + 1, depth, t => do
    let t ← value fuel depth t
    match t.dropWhile isSpace with
    | [] => wrongNext .unfinishedList []
    | ']' :: t => return t
    | ',' :: t =>
      match t.dropWhile isSpace with
      | [] => wrongNext .unfinishedValue []
      | ']' :: t => wrongNext .trailingComma (']' :: t)
      | t => items fuel depth t
    | t => wrongNext .expectedItemEnd t

-- One or more members, the first of them after its opening quote, up to the closing brace.
def members : (fuel depth : Nat) → Text → Outcome
  | 0, _, t => .ok t
  | fuel + 1, depth, t => do
    let t ← string (t.length + 1) t
    let t ← match t.dropWhile isSpace with
      | [] => wrongNext .unfinishedObject []
      | ':' :: t => value fuel depth t
      | t => wrongNext .expectedColon t
    match t.dropWhile isSpace with
    | [] => wrongNext .unfinishedObject []
    | '}' :: t => return t
    | ',' :: t =>
      match t.dropWhile isSpace with
      | [] => wrongNext .unfinishedValue []
      | '"' :: t => members fuel depth t
      | '}' :: t => wrongNext .trailingComma ('}' :: t)
      | t => wrongNext .keyNotString t
    | t => wrongNext .expectedMemberEnd t

end

def document (t : Text) : Outcome := do
  let t ← value (2 * t.length + 1) Tree.maxDepth t
  match t.dropWhile isSpace with
  | [] => return []
  | t => wrongNext .trailingCharacters t

-- The line and the column of a place in a text.
def Stop.locate (s : Stop) (t : Text) : Problem :=
  let offset := min t.byteLength (t.byteLength - s.rest.byteLength + s.more)
  let before := t.takeBytes offset
  let lastLine := (before.reverse.takeWhile (· ≠ '\n')).reverse
  let start := Text.byteLength (before.take (before.length - lastLine.length))
  ⟨s.cause, 1 + before.count '\n', offset - start⟩

end Diagnosis

-- The first problem of a text that has one.
def diagnose? (t : Text) : Option Problem :=
  match Diagnosis.document t with
  | .ok _ => none
  | .error s => some (s.locate t)

end Stencil.Json
