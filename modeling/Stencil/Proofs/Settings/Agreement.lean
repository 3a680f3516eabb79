import Mathlib
import Stencil.Proofs.Dictionary
import Stencil.Proofs.Settings.Document
import Stencil.Proofs.Settings.Layering

/-!
A document gives the same settings when it is read as settings and when it is loaded as a file that no other
source of settings adds to (`Settings.parse?_load_agree`).
-/
namespace Stencil.Settings

open Json (Tree)

variable {d : Document} {g : Section} {e : Entry} {k : Key} {origin : Text}

namespace Entry

def value (e : Entry) (origin : Text) : Value :=
  .scalar (some origin) e.scalar

def json (e : Entry) : Json :=
  match e.scalar with
  | .text t => .string t
  | .int i => .number (.int i)
  | _ => .null

theorem valueWithin?_tree (e : Entry) (depth : Nat) : e.tree.valueWithin? depth = some e.json := by
  obtain ⟨k, tree, x, hs, hx⟩ := e
  have hn (i : Int) (h : x = .int i) := (h ▸ hs).exists_value?_eq (h ▸ hx)
  cases hs
  case text => rfl
  case int n i _ _ =>
    obtain ⟨n, hnum, hn⟩ := hn i rfl
    obtain rfl := Tree.number.inj hnum
    simp [json, Json.Tree.valueWithin?, hn]

end Entry

theorem ofJsonMembers_eq_map (origin : Text) (members : List (Text × Json)) :
    Value.ofJsonMembers origin members = members.map fun m => (m.fst, Value.ofJson origin m.snd) := by
  induction members
  case nil => rfl
  case cons m members hi => rw [Value.ofJsonMembers, hi, List.map_cons]

theorem arrangeEntries_eq_map (order : Layer → Layer) (entries : Layer) :
    arrangeEntries order entries = entries.map fun e => (e.fst, e.snd.arrange order) := by
  induction entries
  case nil => rfl
  case cons e entries hi => rw [arrangeEntries, hi, List.map_cons]

variable {leeway : Leeway}

-- What JSON in a file stands for when the entries of its objects come in any order.
def Leeway.ofJson (leeway : Leeway) (origin : Text) (json : Json) : Value :=
  (Value.ofJson origin json).arrange leeway.entries

-- The members of an object are in the order of their names before they are put in another one.
theorem Leeway.ofJson_object_perm {α : Type} {items : List α} {name : α → Text} (hn : (items.map name).Nodup)
    (leeway : Leeway) (origin : Text) (json : α → Json) :
    ∃ entries, leeway.ofJson origin (.object <| Dictionary.ofEntries <| items.map fun a => (name a, json a)) =
        .table (some origin) entries ∧
      entries.Perm (items.map fun a => (name a, leeway.ofJson origin (json a))) := by
  have hn' : ((items.map fun a => (name a, json a)).map Prod.fst).Nodup := by
    simpa [Function.comp_def] using hn
  rw [ofJson, Value.ofJson, Value.arrange, ofJsonMembers_eq_map, arrangeEntries_eq_map, List.map_map]
  refine ⟨_, rfl, (leeway.entries_perm _).trans ?_⟩
  have hp := (Dictionary.ofEntries_perm hn').map fun m => (m.fst, leeway.ofJson origin m.snd)
  rwa [List.map_map] at hp

theorem Entry.ofJson_json (e : Entry) (leeway : Leeway) (origin : Text) :
    leeway.ofJson origin e.json = e.value origin := by
  obtain ⟨k, tree, x, hs, hx⟩ := e
  cases hs
  case text => rfl
  case int => simp [json, value, Leeway.ofJson, Value.ofJson, Value.ofNumeric, hx.le_maxInt, Value.arrange]

theorem ofKey_group (k : Key) : Step.ofKey k.group = [.key k.group] := by
  cases k <;> decide

namespace Section

def json (g : Section) : Json :=
  .object <| Dictionary.ofEntries <| g.entries.map fun e => (e.key.name, e.json)

def sets (g : Section) (origin : Text) : List (Key × Value) :=
  g.entries.map fun e => (e.key, e.value origin)

theorem valueWithin?_tree (g : Section) (depth : Nat) : g.tree.valueWithin? (depth + 1) = some g.json :=
  Json.Tree.valueWithin?_record fun e _ => e.valueWithin?_tree depth

theorem exists_writes (g : Section) (leeway : Leeway) (origin : Text) :
    ∃ sets, Writes (g.name, leeway.ofJson origin g.json) sets ∧ sets.Perm (g.sets origin) := by
  have hn : (g.entries.map (·.key.name)).Nodup := by
    simpa [Function.comp_def] using g.nodup.map fun _ _ => Key.name_injective
  obtain ⟨entries, he, hp⟩ := leeway.ofJson_object_perm hn origin Entry.json
  have hf : List.Forall₂ (fun e set => Text.lower e.fst = set.fst.name ∧ e.snd = set.snd)
      (g.entries.map fun e => (e.key.name, leeway.ofJson origin e.json)) (g.sets origin) := by
    rw [sets, List.forall₂_map_left_iff, List.forall₂_map_right_iff, List.forall₂_same]
    exact fun e _ => ⟨lower_name e.key, e.ofJson_json leeway origin⟩
  obtain ⟨sets, hs, hp⟩ := List.perm_comp_forall₂ hp hf
  refine ⟨sets, ?_, hp⟩
  obtain ⟨k, hk⟩ := g.exists_key
  rw [json, he]
  refine .group g.name (hk ▸ ofKey_group k) (fun set hm => ?_) hs
  obtain ⟨e, he, rfl⟩ := List.mem_map.mp <| hp.mem_iff.mp hm
  rw [← hk, lower_group, hk]
  exact g.group_eq e he

end Section

namespace Document

def json (d : Document) : Json :=
  .object <| Dictionary.ofEntries <| d.sections.map fun g => (g.name, g.json)

theorem value?_tree (d : Document) : d.tree.value? = some d.json :=
  Json.Tree.valueWithin?_record fun g _ => g.valueWithin?_tree _

def sets (d : Document) (origin : Text) : List (Key × Value) :=
  d.sections.flatMap (·.sets origin)

theorem nodup_sets (d : Document) (origin : Text) : ((d.sets origin).map Prod.fst).Nodup := by
  have h : (d.sets origin).map Prod.fst = d.sections.flatMap fun g => g.entries.map Entry.key := by
    simp [sets, Section.sets, List.map_flatMap, Function.comp_def]
  rw [h, List.nodup_flatMap]
  refine ⟨fun g _ => g.nodup, (List.pairwise_map.mp d.nodup).imp fun {g g'} hg => ?_⟩
  intro k hk hk'
  obtain ⟨e, he, rfl⟩ := List.mem_map.mp hk
  obtain ⟨e', he', hkk⟩ := List.mem_map.mp hk'
  exact hg <| (g.group_eq e he).symm.trans <| hkk ▸ g'.group_eq e' he'

theorem lookup_sets (d : Document) (origin : Text) (k : Key) :
    (d.sets origin).lookup k = (d.entryOf? k).map (·.value origin) := by
  refine Option.ext fun v => ?_
  rw [lookup_eq_some_iff_of_nodup <| d.nodup_sets origin, Option.map_eq_some_iff]
  simp only [entryOf?_eq_some_iff, sets, Section.sets, List.mem_flatMap, List.mem_map, Prod.mk.injEq]
  constructor
  case mp => exact fun ⟨g, hg, e, he, hk, hv⟩ => ⟨e, ⟨⟨g, hg, he⟩, hk⟩, hv⟩
  case mpr => exact fun ⟨e, ⟨⟨g, hg, he⟩, hk⟩, hv⟩ => ⟨g, hg, e, he, hk, hv⟩

-- The layer of a document assigns the values that it has, with the place that they come from.
theorem exists_assigns (d : Document) (leeway : Leeway) (origin : Text) : ∃ layer,
    leeway.ofJson origin d.json = .table (some origin) layer ∧
      Assigns layer fun k => (d.entryOf? k).map (·.value origin) := by
  choose sets hw hp using fun g : Section => g.exists_writes leeway origin
  obtain ⟨layer, hl, hperm⟩ := leeway.ofJson_object_perm d.nodup origin Section.json
  have hf : List.Forall₂ Writes (d.sections.map fun g => (g.name, leeway.ofJson origin g.json))
      (d.sections.map sets) := by
    rw [List.forall₂_map_left_iff, List.forall₂_map_right_iff, List.forall₂_same]
    exact fun g _ => hw g
  obtain ⟨parts, hparts, hpp⟩ := List.perm_comp_forall₂ hperm hf
  have hsets : parts.flatten.Perm (d.sets origin) :=
    hpp.flatten.trans <| .flatMap_left d.sections fun g _ => hp g
  refine ⟨layer, hl, parts, hparts, (hsets.map Prod.fst).nodup_iff.mpr <| d.nodup_sets origin, fun k => ?_⟩
  rw [lookup_eq_of_perm hsets (d.nodup_sets origin), d.lookup_sets]

end Document

variable {tree : FileTree} {env : Environment} {name q : Path} {t : Text}

-- The layer of a file that holds a document.
theorem exists_fileLayer_assigns (ht : Tree.parse? t = some d.tree)
    (hf : findFile? leeway tree name = some (q, .json)) (hq : tree.readText q = .ok t) (required : Bool) :
    ∃ layer origin, fileLayer leeway tree required name = .ok layer ∧
      Assigns layer fun k => (d.entryOf? k).map (·.value origin) := by
  obtain ⟨layer, hl, ha⟩ := d.exists_assigns leeway (originOf tree q)
  refine ⟨layer, originOf tree q, ?_, ha⟩
  have hp : leeway.parse? .json (originOf tree q) t = some (.table (some (originOf tree q)) layer) := by
    rw [Leeway.parse?, Json.parse?, ht, Option.bind_some, d.value?_tree, ← hl]
    rfl
  simp [fileLayer, hf, hq, Except.toOption, hp]

theorem ofEnvironment_eq_nil (h : ∀ e ∈ env, keyOfVariable? e.fst = none) : ofEnvironment env = [] := by
  refine List.filterMap_eq_nil_iff.mpr fun e he => ?_
  exact congrArg (Option.map _) (h e he)

-- A file that is not there, or that has the same text, has nothing for other keys than the document.
theorem exists_fileLayer_assigns_sub (ht : Tree.parse? t = some d.tree)
    (ho : findFile? leeway tree name = none ∨
      ∃ r, findFile? leeway tree name = some (r, .json) ∧ tree.readText r = .ok t) :
    ∃ layer a, fileLayer leeway tree false name = .ok layer ∧ Assigns layer a ∧
      ∀ k, d.entryOf? k = none → a k = none := by
  obtain hn | ⟨r, hf, hr⟩ := ho
  case inl => exact ⟨[], _, by simp [fileLayer, hn], assigns_nil, fun _ _ => rfl⟩
  case inr =>
    obtain ⟨layer, origin, hl, ha⟩ := exists_fileLayer_assigns ht hf hr false
    exact ⟨layer, _, hl, ha, fun k hk => congrArg (Option.map _) hk⟩

theorem exists_winner_eq {a b : Key → Option Value} (ha : d.entryOf? k = none → a k = none)
    (hb : d.entryOf? k = none → b k = none) (origin : Text) : ∃ origin?,
      winner k [fun _ => none, fun k => (d.entryOf? k).map (·.value origin), b, a] = .scalar origin? (d.get k) := by
  cases he : d.entryOf? k
  case none =>
    refine ⟨none, ?_⟩
    have hg : d.get k = k.builtIn := congrArg (fun e? : Option Entry => (e?.map _).getD _) he
    simp [winner, he, ha he, hb he, hg, k.default_eq]
  case some e =>
    refine ⟨some origin, ?_⟩
    have hg : d.get k = e.scalar := congrArg (fun e? : Option Entry => (e?.map _).getD _) he
    simp [winner, he, hg, Entry.value, Value.over]

-- There is no other file of settings in any format. The configuration may have the text of the file itself, as it
-- does when it is the file that is asked for.
theorem parse?_load_agree {p : Path} (ht : Tree.parse? t = some d.tree)
    (hf : findFile? leeway tree p = some (q, .json)) (hq : tree.readText q = .ok t)
    (ho : ∀ name ∈ [(⟨"config/default"⟩ : Path), ⟨"config/" ++ runMode env⟩],
      findFile? leeway tree name = none ∨
        ∃ r, findFile? leeway tree name = some (r, .json) ∧ tree.readText r = .ok t)
    (he : Environment.assignmentsFile? tree = none) (hv : ∀ e ∈ env, keyOfVariable? e.fst = none) :
    ∃ s, parse? t = some s ∧ load tree env (some p) leeway = .ok s ∧ ∀ k : Key, s.get k = d.get k := by
  obtain ⟨s, hs⟩ := d.exists_get_eq
  refine ⟨s, ?_, ?_, hs⟩
  · rw [parse?, ht, Option.bind_some, d.ofTree?_tree_eq_some_iff]
    exact hs
  · obtain ⟨hbase, hmode⟩ := List.forall_mem_cons.mp ho
    have hmode := hmode _ List.mem_cons_self
    obtain ⟨base, a, hbase, ha, hda⟩ := exists_fileLayer_assigns_sub ht hbase
    obtain ⟨ofMode, b, hmode, hb, hdb⟩ := exists_fileLayer_assigns_sub ht hmode
    obtain ⟨ofFile, origin, hfile, hc⟩ := exists_fileLayer_assigns ht hf hq true
    have hfile : (some p).elim (.ok []) (fileLayer leeway tree true) = .ok ofFile := hfile
    have hw : env.withFile? tree = some env := by rw [Environment.withFile?, he]
    have hn : Assigns (leeway.environment <| ofEnvironment env) fun _ => none :=
      .of_perm (ofEnvironment_eq_nil hv ▸ assigns_nil) <| leeway.environment_perm _
    rw [load_of_withFile? hw, ofLayers_eq_ok_iff hbase ha hmode hb hfile hc hn]
    intro k
    obtain ⟨origin?, hk⟩ := exists_winner_eq (hda k) (hdb k) origin
    rw [hk, Key.reads_iff (d.holds_get k)]
    exact hs k

-- A section that is left out, an empty one, and one that has only the smallest code, under a name with an escape.
theorem parse?_load_agree_smallest :
    let t : Text :=
      "\x7b\"logging\": \x7b\x7d,\n\"messages\": \x7b\"\\u0076iew_not_found_code\": -9223372036854775808\x7d\x7d"
    let tree : FileTree := ⟨[], [(["own.json"], .file (Text.toUtf8 t))]⟩
    let env : Environment := [("RUN_MODE", "live")]
    Environment.assignmentsFile? tree = none ∧ (∀ e ∈ env, keyOfVariable? e.fst = none) ∧
    ∃ s, parse? t = some s ∧ load tree env (some ⟨"own"⟩) = .ok s ∧
      ∀ k : Key, s.get k = if k = .viewNotFoundCode then .int (-9223372036854775808) else k.builtIn := by
  intro t tree env
  let n : Json.Numeral := ⟨true, "9223372036854775808", none, none⟩
  have hn : n.Spells (-9223372036854775808) := ⟨rfl, rfl, by decide +kernel⟩
  let messages : Section := {
    name := "messages"
    entries := [⟨.viewNotFoundCode, .number n, .int _, .int hn fun _ => by decide, .code (by decide) (by decide)⟩]
    exists_key := ⟨.viewNotFoundCode, rfl⟩
    group_eq := List.forall_mem_singleton.mpr rfl
    nodup := List.nodup_singleton _ }
  let d : Document := ⟨[.empty .level, messages], show (["logging", "messages"] : List Text).Nodup by decide⟩
  have hd : d.tree = .object [(some "logging", .object []), (some "messages", .object [
      (some "view_not_found_code", .number ⟨true, "9223372036854775808", none, none⟩)])] := rfl
  have ht : Tree.parse? t = some d.tree := by
    rw [hd]
    unfold t
    cbv
  have hf : findFile? .plain tree ⟨"own"⟩ = some (⟨"/own.json"⟩, .json) := by decide +kernel
  have hq : tree.readText ⟨"/own.json"⟩ = .ok t := by decide +kernel
  have ho : ∀ name ∈ [(⟨"config/default"⟩ : Path), ⟨"config/" ++ runMode env⟩], findFile? .plain tree name = none := by
    decide +kernel
  have he : Environment.assignmentsFile? tree = none := by decide +kernel
  have hv : ∀ e ∈ env, keyOfVariable? e.fst = none := by decide
  obtain ⟨s, hp, hl, hs⟩ := parse?_load_agree ht hf hq (fun name hm => .inl <| ho name hm) he hv
  refine ⟨he, hv, s, hp, hl, fun k => ?_⟩
  rw [hs]
  cases k <;> rfl

-- Zero with a sign is a code in range, but it is not read as a whole number. One of the two makes a whole number of
-- what is read, and the other does not.
theorem parse?_load_disagree :
    let t : Text := "\x7b\"messages\":\x7b\"view_not_found_code\":-0\x7d\x7d"
    let tree : FileTree := ⟨[], [(["own.json"], .file (Text.toUtf8 t))]⟩
    let n : Json.Numeral := ⟨true, "0", none, none⟩
    n.Spells 0 ∧ Key.viewNotFoundCode.kind.Holds (.int 0) ∧
      Tree.parse? t = some (.object [(some "messages", .object [(some "view_not_found_code", .number n)])]) ∧
      findFile? .plain tree ⟨"own.json"⟩ = some (⟨"/own.json"⟩, .json) ∧ tree.readText ⟨"/own.json"⟩ = .ok t ∧
      (∀ name ∈ [(⟨"config/default"⟩ : Path), ⟨"config/development"⟩], findFile? .plain tree name = none) ∧
      Environment.assignmentsFile? tree = none ∧
      parse? t = none ∧ load tree [] (some ⟨"own.json"⟩) = .ok { messages := { viewNotFoundCode := 0 } } := by
  intro t tree n
  have ht : Tree.parse? t =
      some (.object [(some "messages", .object [(some "view_not_found_code", .number n)])]) := by
    unfold t
    cbv
  have hp : parse? t = none := by
    rw [parse?, ht]
    decide +kernel
  refine ⟨⟨rfl, rfl, by decide⟩, .code (by decide) (by decide), ht, ?_, ?_, ?_, ?_, hp, ?_⟩
  all_goals decide +kernel

end Stencil.Settings
