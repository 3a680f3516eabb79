import Mathlib.Data.List.Nodup
import Stencil.Environment.File

/-!
What a file of assignments does to the environment. A variable that is set already keeps its value, and any
other one gets that of the first assignment to it (`Environment.find?_withFile?`), unless one of these values
holds a NUL (`Environment.exists_withFile?_eq_some_iff`).
-/
namespace Stencil

namespace Dictionary

variable {α : Type} {d : Dictionary α} {key : Text} {value : α}

theorem mem_of_find? (h : d.find? key = some value) : (key, value) ∈ d := by
  induction d
  case nil => simp [find?] at h
  case cons entry rest hi =>
    obtain ⟨k, v⟩ := entry
    by_cases hk : k = key
    case pos =>
      subst hk
      simp_all [find?]
    case neg => exact .tail _ <| hi <| by simpa [find?, hk] using h

theorem find?_of_mem (hd : (d.map Prod.fst).Nodup) (h : (key, value) ∈ d) : d.find? key = some value := by
  induction d
  case nil => simp at h
  case cons entry rest hi =>
    obtain ⟨k, v⟩ := entry
    have ⟨hk, hr⟩ := List.nodup_cons.mp hd
    obtain h | h := List.mem_cons.mp h
    case inl => simp_all [find?]
    case inr =>
      have hne : k ≠ key := by
        rintro rfl
        exact hk <| List.mem_map.mpr ⟨_, h, rfl⟩
      simpa [find?, hne] using hi hr h

end Dictionary

namespace Environment

variable {env env' : Environment} {tree : FileTree} {name value other : Text} {ls : List (Option Text)}

-- The assignments of some lines, up to the first line that is malformed or the first that crashes the program.
-- What is read of other variables on the way are the values that they have by then.
def assignments (env : Environment) : List (Option Text) → Dictionary Text
  | some line :: rest =>
    match Assignment.parse env line with
    | .blank => assignments env rest
    | .assignment name value =>
      match env.define? name value with
      | some env => (name, value) :: assignments env rest
      | none => [(name, value)]
    | .malformed => []
  | _ => []

-- The assignments of the file that belongs to the working folder.
def fileAssignments (env : Environment) (tree : FileTree) : Dictionary Text :=
  match assignmentsFile? tree with
  | none => []
  | some bytes => env.assignments (lines bytes)

-- The value of a variable: the one that it is set to, or else the one that the file assigns to it.
def valueOf? (env : Environment) (tree : FileTree) (name : Text) : Option Text :=
  (env.find? name).or ((env.fileAssignments tree).find? name)

-- No variable gets a value with a NUL from the file.
def Settable (env : Environment) (tree : FileTree) : Prop :=
  ∀ name value, env.find? name = none → env.valueOf? tree name = some value → '\x00' ∉ value

theorem define?_eq_none_iff : env.define? name value = none ↔ env.find? name = none ∧ '\x00' ∈ value := by
  unfold define?
  cases env.find? name <;> simp

theorem find?_define? (h : env.define? name value = some env') (other : Text) :
    env'.find? other = (env.find? other).or (Dictionary.find? other [(name, value)]) := by
  unfold define? at h
  split at h
  case isTrue hs =>
    obtain rfl := Option.some.inj h
    obtain ⟨v, hv⟩ := Option.isSome_iff_exists.mp hs
    by_cases hn : name = other
    case pos => rw [← hn, hv, Option.some_or]
    case neg => rw [Dictionary.find?, if_neg hn, Dictionary.find?, Option.or_none]
  case isFalse =>
    split at h
    case isTrue => contradiction
    case isFalse =>
      obtain rfl := Option.some.inj h
      exact Dictionary.find?_append ..

-- A line that cannot be read, or the end, leaves the environment as it is.
theorem defineLines?_of_ne_cons (h : ∀ line rest, ls ≠ some line :: rest) : env.defineLines? ls = some env := by
  rcases ls with _ | ⟨_ | line, rest⟩
  · rfl
  · rfl
  · exact (h line rest rfl).elim

theorem find?_defineLines? (h : env.defineLines? ls = some env') (name : Text) :
    env'.find? name = (env.find? name).or ((env.assignments ls).find? name) := by
  fun_induction assignments env ls
  case case1 hp hi => exact hi <| by simpa [defineLines?, hp] using h
  case case2 hp _ hd hi =>
    rw [hi <| by simpa [defineLines?, hp, hd] using h, find?_define? hd, Option.or_assoc, ← Dictionary.find?_append]
    rfl
  case case3 hp hd => simp [defineLines?, hp, hd] at h
  case case4 hp =>
    obtain rfl : _ = env' := by simpa [defineLines?, hp] using h
    exact (Option.or_none ..).symm
  case case5 ls _ hl =>
    obtain rfl := Option.some.inj <| (defineLines?_of_ne_cons hl).symm.trans h
    exact (Option.or_none ..).symm

-- No variable that is not set yet gets a value with a NUL from the assignments.
def Admits (env : Environment) (assigned : Dictionary Text) : Prop :=
  ∀ name value, env.find? name = none → assigned.find? name = some value → '\x00' ∉ value

variable {assigned : Dictionary Text}

theorem admits_cons_iff (h : env.define? name value = some env') :
    env.Admits ((name, value) :: assigned) ↔ env'.Admits assigned := by
  have hf := find?_define? h
  constructor
  case mp =>
    intro ha other v hn hv
    rw [hf, Option.or_eq_none_iff] at hn
    have hne : name ≠ other := by
      rintro rfl
      simp [Dictionary.find?] at hn
    exact ha other v hn.left <| by rwa [Dictionary.find?, if_neg hne]
  case mpr =>
    intro ha other v hn hv
    by_cases hne : name = other
    case pos =>
      subst hne
      obtain rfl : value = v := by simpa [Dictionary.find?] using hv
      exact fun hz => Option.some_ne_none _ <| h.symm.trans <| define?_eq_none_iff.mpr ⟨hn, hz⟩
    case neg =>
      rw [Dictionary.find?, if_neg hne] at hv
      exact ha other v (by simp [hf, hn, Dictionary.find?, hne]) hv

theorem not_admits_cons (h : env.define? name value = none) : ¬ env.Admits ((name, value) :: assigned) := by
  obtain ⟨hn, hz⟩ := define?_eq_none_iff.mp h
  exact fun ha => ha name value hn (if_pos rfl) hz

theorem admits_nil (env : Environment) : env.Admits [] := by
  simp [Admits, Dictionary.find?]

theorem exists_defineLines?_eq_some_iff :
    (∃ env', env.defineLines? ls = some env') ↔ env.Admits (env.assignments ls) := by
  fun_induction assignments env ls
  case case1 hp hi => simpa [defineLines?, hp] using hi
  case case2 hp _ hd hi => simpa [defineLines?, hp, hd, admits_cons_iff hd] using hi
  case case3 hp hd => simpa [defineLines?, hp, hd] using not_admits_cons hd
  case case4 hp => simpa [defineLines?, hp] using admits_nil _
  case case5 ls _ hl =>
    exact iff_of_true ⟨_, defineLines?_of_ne_cons hl⟩ <| admits_nil _

theorem find?_withFile? (h : env.withFile? tree = some env') (name : Text) :
    env'.find? name = env.valueOf? tree name := by
  unfold withFile? at h
  unfold valueOf? fileAssignments
  cases hb : assignmentsFile? tree
  case none =>
    obtain rfl : env = env' := by simpa [hb] using h
    exact (Option.or_none ..).symm
  case some bytes => exact find?_defineLines? (by simpa [hb] using h) name

theorem settable_iff_admits : env.Settable tree ↔ env.Admits (env.fileAssignments tree) := by
  refine forall₂_congr fun name value => imp_congr_right fun hn => ?_
  rw [valueOf?, hn, Option.none_or]

theorem exists_withFile?_eq_some_iff : (∃ env', env.withFile? tree = some env') ↔ env.Settable tree := by
  rw [settable_iff_admits]
  unfold withFile? fileAssignments
  cases assignmentsFile? tree
  case none => simpa using admits_nil env
  case some bytes => exact exists_defineLines?_eq_some_iff

theorem nodup_define? (hn : (env.map Prod.fst).Nodup) (h : env.define? name value = some env') :
    (env'.map Prod.fst).Nodup := by
  unfold define? at h
  split at h
  case isTrue => exact Option.some.inj h ▸ hn
  case isFalse hf =>
    split at h
    case isTrue => contradiction
    case isFalse =>
      obtain rfl := Option.some.inj h
      rw [List.map_append, List.nodup_append]
      refine ⟨hn, by simp, fun other ho => ?_⟩
      obtain ⟨⟨other, v⟩, he, rfl⟩ := List.mem_map.mp ho
      rintro _ hs rfl
      obtain rfl := List.mem_singleton.mp hs
      exact hf <| by simp [Dictionary.find?_of_mem hn he]

theorem nodup_defineLines? (hn : (env.map Prod.fst).Nodup) (h : env.defineLines? ls = some env') :
    (env'.map Prod.fst).Nodup := by
  fun_induction defineLines? env ls
  case case1 hi => exact hi hn h
  case case2 hd hi => exact hi (nodup_define? hn hd) h
  case case3 => contradiction
  all_goals exact Option.some.inj h ▸ hn

theorem nodup_withFile? (hn : (env.map Prod.fst).Nodup) (h : env.withFile? tree = some env') :
    (env'.map Prod.fst).Nodup := by
  unfold withFile? at h
  split at h
  case h_1 => exact Option.some.inj h ▸ hn
  case h_2 => exact nodup_defineLines? hn h

end Environment
end Stencil
