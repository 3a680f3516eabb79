import Stencil.Json.Printer
import Stencil.Json.Reader

/-!
What is printed is read back. A printed text is read as the tree of its value, whatever characters there are
in its strings (`Json.Tree.parse?_print`).
-/
namespace Stencil.Json

namespace StringPart

-- How a character stands in a printed string: as itself or after a backslash, or by its number.
def ofChar (c : Char) : StringPart :=
  if c.toNat < 0x20 ∧ c ∉ ['\x08', '\t', '\n', '\x0c', '\r'] then unit c.toNat else char c

theorem join?_unit_cons {n : Nat} (h : n < 0x20) (parts : List StringPart) :
    join? (unit n :: parts) = (join? parts).map (Char.ofNat n :: ·) := by
  have hh : isHigh n = false := by simp [isHigh]; omega
  have hl : isLow n = false := by simp [isLow]; omega
  rcases parts with _ | ⟨_ | m, parts⟩ <;> simp [join?, hh, hl, Function.comp_def]

theorem join?_map_ofChar (t : Text) : join? (t.map ofChar) = some t := by
  induction t
  case nil => rfl
  case cons c t hi =>
    rw [List.map_cons, ofChar]
    split
    case isTrue h => simp [join?_unit_cons h.left, hi]
    case isFalse => simp [join?, hi]

end StringPart

namespace Reader

theorem hexUnit?_hexDigit {n : Nat} (h : n < 0x20) :
    hexUnit? '0' '0' (hexDigit (n / 16)) (hexDigit n) = some n := by
  have : ∀ n < 0x20, hexUnit? '0' '0' (hexDigit (n / 16)) (hexDigit n) = some n := by decide
  exact this n h

theorem escapeChar_cases (c : Char) :
    (∃ e, escapeChar c = ['\\', e] ∧ escape? e = some c ∧ StringPart.ofChar c = .char c) ∨
    (c.toNat < 0x20 ∧ escapeChar c = ['\\', 'u', '0', '0', hexDigit (c.toNat / 16), hexDigit c.toNat] ∧
      StringPart.ofChar c = .unit c.toNat) ∨
    (c ≠ '"' ∧ c ≠ '\\' ∧ ¬c.toNat < 0x20 ∧ escapeChar c = [c] ∧ StringPart.ofChar c = .char c) := by
  by_cases hs : c ∈ ['"', '\\', '\x08', '\t', '\n', '\x0c', '\r']
  case pos =>
    left
    simp only [List.mem_cons, List.not_mem_nil, or_false] at hs
    obtain rfl | rfl | rfl | rfl | rfl | rfl | rfl := hs <;> exact ⟨_, rfl, rfl, rfl⟩
  case neg =>
    right
    simp only [List.mem_cons, List.not_mem_nil, or_false, not_or] at hs
    by_cases hc : c.toNat < 0x20
    case pos => exact .inl ⟨hc, by simp [escapeChar, hs, hc], by simp [StringPart.ofChar, hs, hc]⟩
    case neg => exact .inr ⟨hs.1, hs.2.1, hc, by simp [escapeChar, hs, hc], by simp [StringPart.ofChar, hc]⟩

theorem stringParts?_escapeChar_append (c : Char) (t : Text) : stringParts? (escapeChar c ++ t) =
    (stringParts? t).map fun (parts, rest) => (.ofChar c :: parts, rest) := by
  obtain ⟨e, hc, he, hp⟩ | ⟨hl, hc, hp⟩ | ⟨hq, hb, hl, hc, hp⟩ := escapeChar_cases c
  · have hu : e ≠ 'u' := by
      rintro rfl
      exact nomatch he
    rw [hc, hp, List.cons_append, List.singleton_append, stringParts?]
    · simp only [he, Option.bind_eq_bind, Option.bind_some]
      cases stringParts? t <;> rfl
    · simp [hu]
  · rw [hc, hp]
    simp only [List.cons_append, List.nil_append, stringParts?, hexUnit?_hexDigit hl]
    cases stringParts? t <;> rfl
  · rw [hc, hp, List.singleton_append, stringParts?]
    · simp [hb, hl]
    all_goals simp [hq, hb]

theorem string?_quoted (t rest : Text) :
    string? (t.flatMap escapeChar ++ '"' :: rest) = some (some t, rest) := by
  have hp : stringParts? (t.flatMap escapeChar ++ '"' :: rest) = some (t.map .ofChar, rest) := by
    induction t
    case nil => rfl
    case cons c t hi =>
      rw [List.flatMap_cons, List.append_assoc, stringParts?_escapeChar_append, hi]
      rfl
  simp only [string?, hp, Option.map_some, StringPart.join?_map_ofChar]

end Reader

namespace Tree

mutual

-- The tree that the text of a value has. There is none for values with numbers.
def ofJson? : Json → Option Tree
  | .null => some null
  | .bool b => some (bool b)
  | .number _ => none
  | .string t => some (string (some t))
  | .array items => (ofItems? items).map array
  | .object members => (ofMembers? members).map object

def ofItems? : List Json → Option (List Tree)
  | [] => some []
  | item :: items => do
    let tree ← ofJson? item
    return tree :: (← ofItems? items)

def ofMembers? : List (Text × Json) → Option (List (Option Text × Tree))
  | [] => some []
  | (key, value) :: members => do
    let tree ← ofJson? value
    return (some key, tree) :: (← ofMembers? members)

end

end Tree

open Reader Json.Tree

-- A value starts with a character that is no blank and closes no list.
theorem exists_print_eq_cons {j : Json} {tree : Tree} (h : ofJson? j = some tree) :
    ∃ c t, print j = c :: t ∧ isSpace c = false ∧ c ≠ ']' := by
  cases j
  case null => exact ⟨'n', _, rfl, by decide⟩
  case bool b =>
    cases b
    case false => exact ⟨'f', _, rfl, by decide⟩
    case true => exact ⟨'t', _, rfl, by decide⟩
  case number => simp [ofJson?] at h
  case string t => exact ⟨'"', t.flatMap escapeChar ++ ['"'], rfl, by decide⟩
  case array items => exact ⟨'[', printItems items ++ [']'], by rw [print]; rfl, by decide⟩
  case object members => exact ⟨'{', printMembers members ++ ['}'], by rw [print]; rfl, by decide⟩

theorem printItems_cons_cons (item next : Json) (items : List Json) :
    printItems (item :: next :: items) = print item ++ ',' :: printItems (next :: items) := by
  rw [printItems]
  simp

theorem printMembers_cons_cons (key : Text) (value : Json) (next : Text × Json) (members : List (Text × Json)) :
    printMembers ((key, value) :: next :: members) =
      quote key ++ ':' :: print value ++ ',' :: printMembers (next :: members) := by
  rw [printMembers]
  simp

theorem exists_printItems_eq_cons {item : Json} (items : List Json) {tree : Tree}
    (h : ofJson? item = some tree) : ∃ c t, printItems (item :: items) = c :: t ∧ isSpace c = false ∧ c ≠ ']' := by
  obtain ⟨c, t, hp, hc⟩ := exists_print_eq_cons h
  cases items
  case nil => exact ⟨c, t, by rw [printItems, hp], hc⟩
  case cons next items => exact ⟨c, _, by rw [printItems_cons_cons, hp, List.cons_append], hc⟩

theorem exists_printMembers_eq_cons (key : Text) (value : Json) (members : List (Text × Json)) :
    ∃ t, printMembers ((key, value) :: members) = '"' :: t := by
  cases members
  case nil => exact ⟨_, by rw [printMembers]; rfl⟩
  case cons => exact ⟨_, by rw [printMembers_cons_cons]; rfl⟩

theorem ofItems?_cons_eq_some_iff {item : Json} {items : List Json} {trees : List Tree} :
    ofItems? (item :: items) = some trees ↔
      ∃ tree rest, ofJson? item = some tree ∧ ofItems? items = some rest ∧ trees = tree :: rest := by
  simp only [ofItems?, Option.bind_eq_bind, Option.bind_eq_some_iff, Option.pure_def, Option.some_inj]
  grind

theorem ofMembers?_cons_eq_some_iff {key : Text} {value : Json} {members : List (Text × Json)}
    {trees : List (Option Text × Tree)} : ofMembers? ((key, value) :: members) = some trees ↔
      ∃ tree rest, ofJson? value = some tree ∧ ofMembers? members = some rest ∧
        trees = (some key, tree) :: rest := by
  simp only [ofMembers?, Option.bind_eq_bind, Option.bind_eq_some_iff, Option.pure_def, Option.some_inj]
  grind

mutual

theorem tree?_print {tree : Tree} (fuel : Nat) : (j : Json) → ofJson? j = some tree →
    2 * (print j).length ≤ fuel → ∀ rest, tree? fuel (print j ++ rest) = some (tree, rest) := by
  intro j h hf rest
  obtain ⟨c, t, hp, hs, -⟩ := exists_print_eq_cons h
  have hd : (print j ++ rest).dropWhile isSpace = print j ++ rest := by simp [hp, hs]
  obtain ⟨fuel, rfl⟩ : ∃ n, fuel = n + 1 :=
    Nat.exists_eq_succ_of_ne_zero <| by simp [hp] at hf; omega
  rw [tree?, hd]
  clear hp hd
  match j with
  | .null =>
    obtain rfl := Option.some.inj h
    simp [print]
  | .bool b =>
    obtain rfl := Option.some.inj h
    cases b <;> simp [print]
  | .string t =>
    obtain rfl := Option.some.inj h
    simp [print, quote, string?_quoted]
  | .array [] =>
    obtain rfl := Option.some.inj h
    simp [print, printItems, isSpace]
  | .array (item :: items) =>
    obtain ⟨trees, ht, rfl⟩ := Option.map_eq_some_iff.mp h
    obtain ⟨_, _, hi, -⟩ := ofItems?_cons_eq_some_iff.mp ht
    obtain ⟨c, t, hp, hs, hc⟩ := exists_printItems_eq_cons items hi
    have hr := items?_printItems fuel (item :: items) ht (by simp)
      (by simp [print] at hf; omega) rest
    rw [hp] at hr
    simpa [print, hp, hs, hc] using hr
  | .object [] =>
    obtain rfl := Option.some.inj h
    simp [print, printMembers, isSpace]
  | .object ((key, value) :: members) =>
    obtain ⟨trees, ht, rfl⟩ := Option.map_eq_some_iff.mp h
    have hr := members?_printMembers fuel ((key, value) :: members) ht (by simp)
      (by simp [print] at hf; omega) rest
    obtain ⟨t, hp⟩ := exists_printMembers_eq_cons key value members
    rw [hp] at hr
    simpa [print, hp, isSpace] using hr

theorem items?_printItems {trees : List Tree} (fuel : Nat) : (items : List Json) →
    ofItems? items = some trees → items ≠ [] → 2 * (printItems items).length < fuel →
    ∀ rest, items? fuel (printItems items ++ ']' :: rest) = some (trees, rest) := by
  intro items h hn hf rest
  obtain ⟨fuel, rfl⟩ : ∃ n, fuel = n + 1 := Nat.exists_eq_succ_of_ne_zero <| Nat.ne_of_gt <| Nat.zero_lt_of_lt hf
  match items with
  | [item] =>
    obtain ⟨tree, _, hi, he, rfl⟩ := ofItems?_cons_eq_some_iff.mp h
    obtain rfl := Option.some.inj he
    have hr := tree?_print fuel item hi (by simp [printItems] at hf; omega) (']' :: rest)
    rw [items?, printItems, hr]
    simp [isSpace]
  | item :: next :: items =>
    obtain ⟨tree, trees, hi, ht, rfl⟩ := ofItems?_cons_eq_some_iff.mp h
    rw [printItems_cons_cons] at hf ⊢
    simp only [List.length_append, List.length_cons] at hf
    have hr := tree?_print fuel item hi (by omega) (',' :: (printItems (next :: items) ++ ']' :: rest))
    have hs := items?_printItems fuel (next :: items) ht (by simp) (by omega) rest
    rw [items?, List.append_assoc, List.cons_append, hr]
    simp [isSpace, hs]

theorem members?_printMembers {trees : List (Option Text × Tree)} (fuel : Nat) : (members : List (Text × Json)) →
    ofMembers? members = some trees → members ≠ [] → 2 * (printMembers members).length < fuel →
    ∀ rest, members? fuel (printMembers members ++ '}' :: rest) = some (trees, rest) := by
  intro members h hn hf rest
  obtain ⟨fuel, rfl⟩ : ∃ n, fuel = n + 1 := Nat.exists_eq_succ_of_ne_zero <| Nat.ne_of_gt <| Nat.zero_lt_of_lt hf
  match members with
  | [(key, value)] =>
    obtain ⟨tree, _, hi, he, rfl⟩ := ofMembers?_cons_eq_some_iff.mp h
    obtain rfl := Option.some.inj he
    have hr := tree?_print fuel value hi (by simp [printMembers] at hf; omega) ('}' :: rest)
    rw [members?, printMembers]
    simp [isSpace, quote, string?_quoted, hr]
  | (key, value) :: next :: members =>
    obtain ⟨tree, trees, hi, ht, rfl⟩ := ofMembers?_cons_eq_some_iff.mp h
    rw [printMembers_cons_cons] at hf ⊢
    simp only [List.length_append, List.length_cons] at hf
    have hr := tree?_print fuel value hi (by omega)
      (',' :: (printMembers (next :: members) ++ '}' :: rest))
    have hs := members?_printMembers fuel (next :: members) ht (by simp) (by omega) rest
    rw [members?]
    simp [isSpace, quote, string?_quoted, hr, hs]

end

theorem Tree.parse?_print {j : Json} {tree : Tree} (h : ofJson? j = some tree) :
    Tree.parse? (print j) = some tree := by
  have hr : tree? (2 * (print j).length + 1) (print j) = some (tree, []) := by
    simpa using tree?_print (2 * (print j).length + 1) j h (by omega) []
  unfold Tree.parse?
  rw [hr]
  rfl

end Stencil.Json
