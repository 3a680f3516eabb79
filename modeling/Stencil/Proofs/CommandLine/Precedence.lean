import Stencil.Proofs.CommandLine.Outcome
import Stencil.Proofs.Dictionary
import Stencil.Proofs.Json.Printed
import Stencil.Proofs.Text.Basic
import Stencil.Proofs.Text.Split

/-!
Which value a name is bound to on the command line: that of the last assignment to it, or else that of the
last member with the name in the file of bindings (`CommandLine.loadBindings_decides`).
-/
namespace Stencil

namespace Bindings

variable {a name value : Text} {assignments : List Text} {b b' : Bindings}

-- An assignment puts what follows its first equals sign under a name.
def Puts (a name value : Text) : Prop :=
  ∃ left, a = left ++ '=' :: value ∧ '=' ∉ left ∧ Text.trimBlank left = name

-- There is an equals sign, and something that is not blank in front of the first one.
def IsAssignment (a : Text) : Prop :=
  ∃ left value, a = left ++ '=' :: value ∧ '=' ∉ left ∧ ∃ c ∈ left, ¬Text.isBlank c

-- The last assignment to a name puts the value there.
def LastPuts (assignments : List Text) (name value : Text) : Prop :=
  ∃ before a after, assignments = before ++ a :: after ∧ Puts a name value ∧
    ∀ x ∈ after, ∀ other, ¬Puts x name other

theorem trimBlank_eq_nil_iff (t : Text) : Text.trimBlank t = [] ↔ ∀ c ∈ t, Text.isBlank c := by
  constructor
  case mp =>
    intro h
    obtain ⟨left, right, ht, hl, hr⟩ := (Text.trims_trim Text.isBlank t).around
    have he : Text.trim Text.isBlank t = [] := h
    rw [he, List.append_nil] at ht
    exact ht ▸ List.forall_mem_append.mpr ⟨hl, hr⟩
  case mpr =>
    intro h
    have hd : t.dropWhile Text.isBlank = [] := List.dropWhile_eq_nil_iff.mpr h
    rw [Text.trimBlank, Text.trim, hd]
    rfl

theorem parseAssignment_append_cons {left : Text} (h : '=' ∉ left) (value : Text) :
    parseAssignment (left ++ '=' :: value) = if Text.trimBlank left = [] then
      .error (.noName (left ++ '=' :: value)) else .ok (Text.trimBlank left, value) := by
  unfold parseAssignment
  rw [Text.splitFirst_append_cons h]

theorem parseAssignment_of_not_mem (h : '=' ∉ a) : parseAssignment a = .error (.noEquals a) := by
  unfold parseAssignment
  rw [Text.splitFirst_of_not_mem h]

theorem Puts.unique {name' value' : Text} (h : Puts a name value) (h' : Puts a name' value') :
    name = name' ∧ value = value' := by
  obtain ⟨left, rfl, hl, rfl⟩ := h
  obtain ⟨left', ha, hl', rfl⟩ := h'
  have hs := (Text.splitFirst_append_cons hl).symm.trans <| ha ▸ Text.splitFirst_append_cons hl'
  obtain ⟨rfl, rfl⟩ := Prod.mk.inj (Option.some.inj hs)
  exact ⟨rfl, rfl⟩

theorem puts_of_parseAssignment {entry : Text × Text} (h : parseAssignment a = .ok entry) :
    Puts a entry.fst entry.snd := by
  by_cases ha : '=' ∈ a
  case neg =>
    rw [parseAssignment_of_not_mem ha] at h
    contradiction
  case pos =>
    obtain ⟨left, value, rfl, hl⟩ := List.eq_append_cons_of_mem ha
    rw [parseAssignment_append_cons hl] at h
    split at h
    case isTrue => contradiction
    case isFalse => exact Except.ok.inj h ▸ ⟨left, rfl, hl, rfl⟩

theorem isAssignment_iff : IsAssignment a ↔ ∃ entry, parseAssignment a = .ok entry := by
  have hb (left : Text) : (∃ c ∈ left, ¬Text.isBlank c) ↔ Text.trimBlank left ≠ [] := by
    simp [trimBlank_eq_nil_iff]
  constructor
  case mp =>
    rintro ⟨left, value, rfl, hl, hn⟩
    exact ⟨_, by rw [parseAssignment_append_cons hl, if_neg <| (hb left).mp hn]⟩
  case mpr =>
    rintro ⟨entry, h⟩
    obtain ⟨left, rfl, hl, hn⟩ := puts_of_parseAssignment h
    refine ⟨left, entry.snd, rfl, hl, (hb left).mpr fun hn => ?_⟩
    rw [parseAssignment_append_cons hl, if_pos hn] at h
    contradiction

theorem parseAssignment_eq_error_iff {e : Error} : parseAssignment a = .error e ↔
    ¬IsAssignment a ∧ e = if '=' ∈ a then .noName a else .noEquals a := by
  rw [isAssignment_iff]
  refine eq_error_iff_of_unique fun e h => ?_
  by_cases ha : '=' ∈ a
  case neg =>
    rw [parseAssignment_of_not_mem ha] at h
    rw [if_neg ha, Except.error.inj h]
  case pos =>
    rw [if_pos ha]
    obtain ⟨left, value, rfl, hl⟩ := List.eq_append_cons_of_mem ha
    rw [parseAssignment_append_cons hl] at h
    split at h
    case isTrue => rw [Except.error.inj h]
    case isFalse => contradiction

theorem exists_assign_eq_ok_iff :
    (∃ b', b.assign assignments = .ok b') ↔ ∀ a ∈ assignments, IsAssignment a := by
  induction assignments generalizing b
  case nil => simp [assign]
  case cons a rest hi =>
    rw [List.forall_mem_cons, isAssignment_iff, assign]
    cases ha : parseAssignment a
    case error e => simp
    case ok entry => simp [hi]

theorem lastPuts_cons_iff {rest : List Text} : LastPuts (a :: rest) name value ↔
    LastPuts rest name value ∨ (∀ x ∈ rest, ∀ other, ¬Puts x name other) ∧ Puts a name value := by
  constructor
  case mp =>
    rintro ⟨_ | ⟨_, before⟩, x, after, h, hx, ha⟩
    · obtain ⟨rfl, rfl⟩ := List.cons.inj h
      exact .inr ⟨ha, hx⟩
    · obtain ⟨-, rfl⟩ := List.cons.inj h
      exact .inl ⟨before, x, after, rfl, hx, ha⟩
  case mpr =>
    rintro (⟨before, x, after, rfl, hx, ha⟩ | ⟨hr, ha⟩)
    case inl => exact ⟨a :: before, x, after, rfl, hx, ha⟩
    case inr => exact ⟨[], a, rest, rfl, ha, hr⟩

theorem puts_iff_of_parseAssignment {entry : Text × Text} (h : parseAssignment a = .ok entry) :
    Puts a name value ↔ name = entry.fst ∧ value = entry.snd where
  mp hp := hp.unique <| puts_of_parseAssignment h
  mpr := by
    rintro ⟨rfl, rfl⟩
    exact puts_of_parseAssignment h

theorem find?_assign_eq_some_iff {v : Json} (h : b.assign assignments = .ok b') : b'.find? name = some v ↔
    (∃ value, LastPuts assignments name value ∧ v = .string value) ∨
      (∀ a ∈ assignments, ∀ value, ¬Puts a name value) ∧ b.find? name = some v := by
  induction assignments generalizing b
  case nil =>
    obtain rfl := Except.ok.inj h
    simp [LastPuts]
  case cons a rest hi =>
    rw [assign] at h
    cases ha : parseAssignment a
    case error => simp [ha] at h
    case ok entry =>
      obtain ⟨other, put⟩ := entry
      simp only [ha] at h
      simp only [hi h, lastPuts_cons_iff, List.forall_mem_cons, puts_iff_of_parseAssignment ha, find?_insert]
      by_cases hn : name = other
      case pos =>
        -- An assignment to the name hides what was bound before, and yields to those that follow.
        simp only [hn, if_pos, true_and, Option.some_inj]
        grind
      case neg => simp [hn]

end Bindings

namespace CommandLine

open Bindings

variable {tree : FileTree} {o : Options} {members : List (Text × Json)} {name value : Text} {f : Fault}

-- The members of the file of bindings in the order in which they are written, of which several may bear one
-- name; none without such a file.
inductive Offers (tree : FileTree) (o : Options) : List (Text × Json) → Prop
  | nothing : o.bindings? = none → Offers tree o []
  | object {p : Path} {t : Text} {written : List (Option Text × Json.Tree)} {members : List (Text × Json)} :
    o.bindings? = some p → tree.readText p = .ok t → Json.Tree.parse? t = some (.object written) →
    Json.Tree.membersWithin? (Json.Tree.maxDepth - 1) written = some members → Offers tree o members

theorem Offers.starts (h : Offers tree o members) : Starts tree o (.ofEntries members) := by
  cases h
  case nothing h => exact .empty h
  case object h hr hp hm =>
    have hv : Json.Tree.membersWithin? 126 _ = some members := hm
    refine .object h hr ?_
    rw [Json.parse?, hp, Option.bind_some, Json.Tree.value?, Json.Tree.maxDepth, Json.Tree.valueWithin?, hv]
    rfl

-- The value that a name is bound to.
inductive Binds (members : List (Text × Json)) (assignments : List Text) (name : Text) : Json → Prop
  | assignment {value : Text} : LastPuts assignments name value → Binds members assignments name (.string value)
  | member {v : Json} :
    (∀ a ∈ assignments, ∀ value, ¬Puts a name value) → Dictionary.Last name members v →
    Binds members assignments name v

theorem binds_iff {assignments : List Text} {v : Json} : Binds members assignments name v ↔
    (∃ value, LastPuts assignments name value ∧ v = .string value) ∨
      (∀ a ∈ assignments, ∀ value, ¬Puts a name value) ∧ Dictionary.Last name members v := by
  constructor
  case mp =>
    intro
    | .assignment h => exact .inl ⟨_, h, rfl⟩
    | .member hn h => exact .inr ⟨hn, h⟩
  case mpr =>
    rintro (⟨value, h, rfl⟩ | ⟨hn, h⟩)
    case inl => exact .assignment h
    case inr => exact .member hn h

theorem loadBindings_decides (h : Offers tree o members) :
    ((∃ b, loadBindings tree o = .ok b) ↔ ∀ a ∈ o.assignments, IsAssignment a) ∧
    (∀ b, loadBindings tree o = .ok b → ∀ name v, b.find? name = some v ↔ Binds members o.assignments name v) ∧
    ∀ f, loadBindings tree o = .error f ↔ ∃ before a after, o.assignments = before ++ a :: after ∧
      (∀ x ∈ before, IsAssignment x) ∧ ¬IsAssignment a ∧
      f = .view (.badBindings <| if '=' ∈ a then .noName a else .noEquals a) := by
  rw [loadBindings_of_starts h.starts]
  refine ⟨?succeeds, ?binds, ?fails⟩
  case succeeds => simp only [mapError_eq_ok_iff, exists_assign_eq_ok_iff]
  case binds =>
    intro b hb name v
    rw [mapError_eq_ok_iff] at hb
    rw [binds_iff, find?_assign_eq_some_iff hb, ← Dictionary.find?_ofEntries_eq_some_iff]
    rfl
  case fails =>
    intro f
    simp only [mapError_eq_error_iff, assign_eq_error_iff, ← isAssignment_iff, parseAssignment_eq_error_iff]
    constructor
    case mp =>
      rintro ⟨e, ⟨before, a, after, ha, hb, hn, rfl⟩, rfl⟩
      exact ⟨before, a, after, ha, hb, hn, rfl⟩
    case mpr =>
      rintro ⟨before, a, after, ha, hb, hn, rfl⟩
      exact ⟨_, ⟨before, a, after, ha, hb, hn, rfl⟩, rfl⟩

-- The file has both names twice. Of the assignments to one of them the last counts, with the spaces and the
-- equals sign in its value.
theorem loadBindings_decides_repeated :
    let members : List (Text × Json) := [("n", .bool true), ("m", .null), ("n", .array []), ("m", .string "f")]
    let tree : FileTree := ⟨[], [(["v"], .file (Text.toUtf8 (Json.object members).print))]⟩
    let o : Options := ⟨"page", none, none, none, ["n=a", " n\t= b = c ", "k="], some ⟨"v"⟩, false⟩
    Offers tree o members ∧ ∃ b, loadBindings tree o = .ok b ∧
      b.find? "n" = some (.string " b = c ") ∧ b.find? "m" = some (.string "f") := by
  intro members tree o
  have hr : tree.readText ⟨"v"⟩ = .ok (Json.object members).print := by decide +kernel
  have h : Offers tree o members := .object rfl hr (Json.Tree.parse?_print rfl) rfl
  have ha : Puts "n=a" "n" "a" := ⟨"n".toList, rfl, by decide, rfl⟩
  have hn : Puts " n\t= b = c " "n" " b = c " := ⟨" n\t".toList, rfl, by decide, rfl⟩
  have hk : Puts "k=" "k" "" := ⟨"k".toList, rfl, by decide, rfl⟩
  have hs : ∀ a ∈ o.assignments, IsAssignment a := by
    intro a hm
    simp only [o, List.mem_cons, List.not_mem_nil, or_false] at hm
    obtain rfl | rfl | rfl := hm
    · exact ⟨"n".toList, "a".toList, rfl, by decide, 'n', by decide, by decide⟩
    · exact ⟨" n\t".toList, " b = c ".toList, rfl, by decide, 'n', by decide, by decide⟩
    · exact ⟨"k".toList, "".toList, rfl, by decide, 'k', by decide, by decide⟩
  obtain ⟨b, hb⟩ := (loadBindings_decides h).left.mpr hs
  have hf := (loadBindings_decides h).right.left b hb
  have hl : Dictionary.Last "m" members (.string "f") :=
    ⟨[("n", .bool true), ("m", .null), ("n", .array [])], [], rfl, by simp⟩
  refine ⟨h, b, hb, (hf "n" _).mpr <| .assignment ?_, (hf "m" _).mpr <| .member ?_ hl⟩
  · refine ⟨["n=a"], _, ["k="], rfl, hn, fun x hx other hp => ?_⟩
    obtain rfl := List.mem_singleton.mp hx
    exact absurd (hp.unique hk).left (by decide)
  · intro a hm value hp
    simp only [o, List.mem_cons, List.not_mem_nil, or_false] at hm
    obtain rfl | rfl | rfl := hm
    · exact absurd (hp.unique ha).left (by decide)
    · exact absurd (hp.unique hn).left (by decide)
    · exact absurd (hp.unique hk).left (by decide)

end CommandLine
end Stencil
