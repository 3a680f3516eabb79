import Stencil.Proofs.Json.Numeral
import Stencil.Proofs.Json.Record
import Stencil.Proofs.Lookup
import Stencil.Proofs.Settings.Kind
import Stencil.Settings.Json

/-!
Documents of settings: records of sections, which are records of keys with values of their types. All of it may be
left out and it may come in any order. Settings are made of a document when they have its values, and the
built-in ones for all other keys (`Settings.Document.ofTree?_tree_eq_some_iff`).
-/
namespace Stencil.Settings

open Json (Tree)
open Json.Tree (orElse)

-- The scalar that a tree of JSON spells. A whole number is spelled by its digits, and zero has no sign.
inductive Spells : Tree → Scalar → Prop
  | text (t : Text) : Spells (.string (some t)) (.text t)
  | int {n : Json.Numeral} {i : Int} : n.Spells i → (n.negative → i ≠ 0) → Spells (.number n) (.int i)

structure Entry where
  key : Key
  tree : Tree
  scalar : Scalar
  spells : Spells tree scalar
  holds : key.kind.Holds scalar

structure Section where
  name : Text
  entries : List Entry
  exists_key : ∃ k : Key, k.group = name
  group_eq : ∀ e ∈ entries, e.key.group = name
  nodup : (entries.map Entry.key).Nodup

structure Document where
  sections : List Section
  nodup : (sections.map Section.name).Nodup

theorem Spells.exists_value?_eq {tree : Tree} {i : Int} {kind : Kind} (h : Spells tree (.int i))
    (hi : kind.Holds (.int i)) : ∃ n : Json.Numeral, tree = .number n ∧ n.value? = some (.int i) := by
  cases h
  case int n hs hz => exact ⟨n, rfl, hs.value?_eq hz hi.minInt_le <| Int.le_trans hi.le_maxInt (by decide)⟩

namespace Entry

variable {e : Entry}

theorem text?_eq_some_iff (h : e.key.kind = .text) {t : Text} : e.tree.text? = some t ↔ .text t = e.scalar := by
  obtain ⟨k, tree, x, hs, hx⟩ := e
  rw [show k.kind = .text from h] at hx
  cases hx
  cases hs
  simp [Json.Tree.text?, eq_comm]

theorem codeOfTree?_eq_some_iff (h : e.key.kind = .code) {i : Int} :
    Messages.codeOfTree? e.tree = some i ↔ .int i = e.scalar := by
  obtain ⟨k, tree, x, hs, hx⟩ := e
  rw [show k.kind = .code from h] at hx
  cases hx
  case code j hl hh =>
    obtain ⟨n, rfl, hn⟩ := hs.exists_value?_eq <| .code hl hh
    have hj : Messages.codeOfTree? (.number n) = some j := Json.Tree.int?_number hn hl hh
    simp [hj, eq_comm]

theorem nat?_eq_some_iff (h : e.key.kind = .depth) {n : Nat} :
    e.tree.nat? (Nat.pow 2 64 - 1) = some n ↔ .int n = e.scalar := by
  obtain ⟨k, tree, x, hs, hx⟩ := e
  rw [show k.kind = .depth from h] at hx
  cases hx
  case depth j hl hh =>
    obtain ⟨m, rfl, hm⟩ := hs.exists_value?_eq <| .depth hl hh
    have hm' : Scalar.maxInt ≤ (Nat.pow 2 64 - 1 : Nat) := by decide
    have hj := Json.Tree.int?_number hm hl <| Int.le_trans hh hm'
    simp only [Json.Tree.nat?, hj, Option.map_some, Option.some.injEq, Scalar.int.injEq]
    omega

theorem ofWord?_eq_some_iff (h : e.key.kind = .format) {f : LogFormat} :
    e.tree.word?.bind LogFormat.ofText? = some f ↔ .text f.text = e.scalar := by
  obtain ⟨k, tree, x, hs, hx⟩ := e
  rw [show k.kind = .format from h] at hx
  cases hx
  case format f' =>
    cases hs
    have hf : LogFormat.ofText? f'.text = some f' := by cases f' <;> rfl
    simp only [Json.Tree.word?, Option.bind_some, hf, Option.some.injEq, Scalar.text.injEq]
    exact ⟨fun h => h ▸ rfl, fun h => (text_injective h).symm⟩

end Entry

namespace Section

variable {g : Section} {k : Key} {e : Entry}

-- A section without any keys.
def empty (k : Key) : Section where
  name := k.group
  entries := []
  exists_key := ⟨k, rfl⟩
  group_eq := List.forall_mem_nil _
  nodup := List.nodup_nil

def tree (g : Section) : Tree :=
  .record (g.entries.map fun e => (e.key.name, e.tree))

def entryOf? (g : Section) (k : Key) : Option Entry :=
  g.entries.find? (·.key = k)

-- The value of a key, which is the built-in one if there is no other.
def get (g : Section) (k : Key) : Scalar :=
  ((g.entryOf? k).map Entry.scalar).getD k.builtIn

theorem entryOf?_eq_some_iff : g.entryOf? k = some e ↔ e ∈ g.entries ∧ e.key = k :=
  find?_eq_some_iff_of_nodup g.nodup

theorem holds_get (g : Section) (k : Key) : k.kind.Holds (g.get k) := by
  unfold get
  cases he : g.entryOf? k
  case none => exact k.holds_builtIn
  case some e => exact (entryOf?_eq_some_iff.mp he).right ▸ e.holds

theorem fields?_tree (g : Section) (keys : List Key) :
    g.tree.fields? (keys.map Key.name) = some (keys.map fun k => (g.entryOf? k).map Entry.tree) := by
  have hn : ((g.entries.map fun e => (e.key.name, e.tree)).map Prod.fst).Nodup := by
    simpa [Function.comp_def] using g.nodup.map fun _ _ => Key.name_injective
  rw [tree, Json.Tree.fields?_record hn, List.map_map]
  refine congrArg some <| List.map_congr_left fun k _ => ?_
  have hk : (fun e : Entry => decide (e.key.name = k.name)) = (decide <| ·.key = k) := by
    funext e
    exact decide_eq_decide.mpr ⟨Key.name_injective, fun h => h ▸ rfl⟩
  rw [Function.comp_apply, lookup_map_eq (fun e : Entry => e.key.name), hk, entryOf?]

theorem orElse_eq_some_iff {read? : Tree → Option α} (toScalar : α → Scalar) (hi : Function.Injective toScalar)
    (hr : ∀ e : Entry, e.key = k → ∀ a, read? e.tree = some a ↔ toScalar a = e.scalar) {base : α}
    (hb : k.builtIn = toScalar base) :
    orElse base read? ((g.entryOf? k).map Entry.tree) = some a ↔ toScalar a = g.get k := by
  unfold get
  cases he : g.entryOf? k
  case none => simp [orElse, hb, hi.eq_iff, eq_comm]
  case some e => exact hr e (entryOf?_eq_some_iff.mp he).right a

theorem text_eq_some_iff (hk : k.kind = .text) {base t : Text} (hb : k.builtIn = .text base) :
    orElse base Json.Tree.text? ((g.entryOf? k).map Entry.tree) = some t ↔ .text t = g.get k :=
  orElse_eq_some_iff .text (fun _ _ => Scalar.text.inj) (fun _ he _ => Entry.text?_eq_some_iff <| he ▸ hk) hb

theorem code_eq_some_iff (hk : k.kind = .code) {base i : Int} (hb : k.builtIn = .int base) :
    orElse base Messages.codeOfTree? ((g.entryOf? k).map Entry.tree) = some i ↔ .int i = g.get k :=
  orElse_eq_some_iff .int (fun _ _ => Scalar.int.inj) (fun _ he _ => Entry.codeOfTree?_eq_some_iff <| he ▸ hk) hb

theorem depth_eq_some_iff (hk : k.kind = .depth) {base n : Nat} (hb : k.builtIn = .int base) :
    orElse base (Json.Tree.nat? (Nat.pow 2 64 - 1)) ((g.entryOf? k).map Entry.tree) = some n ↔ .int n = g.get k :=
  orElse_eq_some_iff (fun n : Nat => .int n) (fun _ _ h => Int.ofNat.inj <| Scalar.int.inj h)
    (fun _ he _ => Entry.nat?_eq_some_iff <| he ▸ hk) hb

theorem format_eq_some_iff (hk : k.kind = .format) {base f : LogFormat} (hb : k.builtIn = .text base.text) :
    orElse base (fun t => t.word?.bind LogFormat.ofText?) ((g.entryOf? k).map Entry.tree) = some f ↔
      .text f.text = g.get k :=
  orElse_eq_some_iff (fun f : LogFormat => .text f.text)
    (fun _ _ h => text_injective <| Scalar.text.inj h) (fun _ he _ => Entry.ofWord?_eq_some_iff <| he ▸ hk) hb

theorem views_eq_some_iff {views : Views} : Views.ofTree? g.tree = some views ↔
    .text views.path.text = g.get .path ∧ .text views.extension = g.get .extension ∧
      .int views.maxIncludeDepth = g.get .maxIncludeDepth := by
  have hf : g.tree.fields? ["path", "extension", "max_include_depth"] = some _ :=
    g.fields?_tree [.path, .extension, .maxIncludeDepth]
  unfold Views.ofTree?
  rw [hf]
  simp only [List.map, Option.bind_eq_bind, Option.bind_some, Option.bind_eq_some_iff, Option.pure_def,
    Option.some.injEq]
  constructor
  case mp =>
    rintro ⟨path, hp, extension, he, depth, hd, rfl⟩
    exact ⟨(text_eq_some_iff rfl rfl).mp hp, (text_eq_some_iff rfl rfl).mp he, (depth_eq_some_iff rfl rfl).mp hd⟩
  case mpr =>
    rintro ⟨hp, he, hd⟩
    exact ⟨_, (text_eq_some_iff rfl rfl).mpr hp, _, (text_eq_some_iff rfl rfl).mpr he, _,
      (depth_eq_some_iff rfl rfl).mpr hd, rfl⟩

theorem messages_eq_some_iff {messages : Messages} : Messages.ofTree? g.tree = some messages ↔
    .text messages.viewNotFound = g.get .viewNotFound ∧ .int messages.viewNotFoundCode = g.get .viewNotFoundCode ∧
      .text messages.routeExists = g.get .routeExists ∧ .int messages.routeExistsCode = g.get .routeExistsCode := by
  have hf : g.tree.fields? ["view_not_found_message", "view_not_found_code", "route_already_exists_message",
      "route_already_exists_code"] = some _ :=
    g.fields?_tree [.viewNotFound, .viewNotFoundCode, .routeExists, .routeExistsCode]
  unfold Messages.ofTree?
  rw [hf]
  simp only [List.map, Option.bind_eq_bind, Option.bind_some, Option.bind_eq_some_iff, Option.pure_def,
    Option.some.injEq]
  constructor
  case mp =>
    rintro ⟨notFound, hn, notFoundCode, hnc, «exists», he, existsCode, hec, rfl⟩
    exact ⟨(text_eq_some_iff rfl rfl).mp hn, (code_eq_some_iff rfl rfl).mp hnc, (text_eq_some_iff rfl rfl).mp he,
      (code_eq_some_iff rfl rfl).mp hec⟩
  case mpr =>
    rintro ⟨hn, hnc, he, hec⟩
    exact ⟨_, (text_eq_some_iff rfl rfl).mpr hn, _, (code_eq_some_iff rfl rfl).mpr hnc, _,
      (text_eq_some_iff rfl rfl).mpr he, _, (code_eq_some_iff rfl rfl).mpr hec, rfl⟩

theorem logging_eq_some_iff {logging : Logging} : Logging.ofTree? g.tree = some logging ↔
    .text logging.level = g.get .level ∧ .text logging.format.text = g.get .format := by
  have hf : g.tree.fields? ["level", "format"] = some _ := g.fields?_tree [.level, .format]
  unfold Logging.ofTree?
  rw [hf]
  simp only [List.map, Option.bind_eq_bind, Option.bind_some, Option.bind_eq_some_iff, Option.pure_def,
    Option.some.injEq]
  constructor
  case mp =>
    rintro ⟨level, hl, format, hf, rfl⟩
    exact ⟨(text_eq_some_iff rfl rfl).mp hl, (format_eq_some_iff rfl rfl).mp hf⟩
  case mpr =>
    rintro ⟨hl, hf⟩
    exact ⟨_, (text_eq_some_iff rfl rfl).mpr hl, _, (format_eq_some_iff rfl rfl).mpr hf, rfl⟩

end Section

namespace Document

variable {d : Document} {k : Key} {e : Entry} {s : Settings}

def tree (d : Document) : Tree :=
  .record (d.sections.map fun g => (g.name, g.tree))

-- The section of a key, which has no keys if it is left out.
def group (d : Document) (k : Key) : Section :=
  (d.sections.find? (·.name = k.group)).getD (.empty k)

def entryOf? (d : Document) (k : Key) : Option Entry :=
  (d.group k).entryOf? k

def get (d : Document) (k : Key) : Scalar :=
  (d.group k).get k

theorem entryOf?_eq_some_iff : d.entryOf? k = some e ↔ (∃ g ∈ d.sections, e ∈ g.entries) ∧ e.key = k := by
  rw [entryOf?, Section.entryOf?_eq_some_iff]
  refine and_congr_left fun hk => ?_
  unfold group
  constructor
  case mp =>
    cases hg : d.sections.find? (·.name = k.group)
    case none => exact fun he => absurd he List.not_mem_nil
    case some g => exact fun he => ⟨g, List.mem_of_find?_eq_some hg, he⟩
  case mpr =>
    rintro ⟨g, hg, he⟩
    have hf : d.sections.find? (·.name = k.group) = some g :=
      (find?_eq_some_iff_of_nodup d.nodup).mpr ⟨hg, hk ▸ (g.group_eq e he).symm⟩
    rwa [hf]

theorem holds_get (d : Document) (k : Key) : k.kind.Holds (d.get k) :=
  (d.group k).holds_get k

theorem exists_get_eq (d : Document) : ∃ s : Settings, ∀ k : Key, s.get k = d.get k :=
  Settings.exists_get_eq d.holds_get

theorem fields?_tree (d : Document) (keys : List Key) : d.tree.fields? (keys.map Key.group) =
    some (keys.map fun k => (d.sections.find? (·.name = k.group)).map Section.tree) := by
  have hn : ((d.sections.map fun g => (g.name, g.tree)).map Prod.fst).Nodup := by
    simpa [Function.comp_def] using d.nodup
  rw [tree, Json.Tree.fields?_record hn, List.map_map]
  exact congrArg some <| List.map_congr_left fun k _ => lookup_map_eq Section.name Section.tree d.sections k.group

-- To leave a section out is the same as to have it without any keys.
theorem orElse_group {α : Type} {base : α} {read? : Tree → Option α} (k : Key)
    (h : read? (Section.empty k).tree = some base) :
    orElse base read? ((d.sections.find? (·.name = k.group)).map Section.tree) = read? (d.group k).tree := by
  unfold group
  cases d.sections.find? (·.name = k.group)
  case none => exact h.symm
  case some => rfl

theorem ofTree?_tree_eq_some_iff : ofTree? d.tree = some s ↔ ∀ k : Key, s.get k = d.get k := by
  have hf : d.tree.fields? ["views", "messages", "logging"] = some _ :=
    d.fields?_tree [.path, .viewNotFound, .level]
  have hv : orElse ({} : Settings).views Views.ofTree? _ = _ := d.orElse_group .path rfl
  have hm : orElse ({} : Settings).messages Messages.ofTree? _ = _ := d.orElse_group .viewNotFound rfl
  have hl : orElse ({} : Settings).logging Logging.ofTree? _ = _ := d.orElse_group .level rfl
  unfold ofTree?
  rw [hf]
  simp only [List.map, Option.bind_eq_bind, Option.bind_some, hv, hm, hl, Option.bind_eq_some_iff,
    Section.views_eq_some_iff, Section.messages_eq_some_iff, Section.logging_eq_some_iff, Option.pure_def,
    Option.some.injEq]
  constructor
  case mp =>
    rintro ⟨_, ⟨hp, he, hd⟩, _, ⟨hn, hnc, hx, hxc⟩, _, ⟨hlevel, hformat⟩, rfl⟩
    intro
    | .path => exact hp
    | .extension => exact he
    | .maxIncludeDepth => exact hd
    | .viewNotFound => exact hn
    | .viewNotFoundCode => exact hnc
    | .routeExists => exact hx
    | .routeExistsCode => exact hxc
    | .level => exact hlevel
    | .format => exact hformat
  case mpr =>
    intro h
    exact ⟨_, ⟨h .path, h .extension, h .maxIncludeDepth⟩, _, ⟨h .viewNotFound, h .viewNotFoundCode,
      h .routeExists, h .routeExistsCode⟩, _, ⟨h .level, h .format⟩, rfl⟩

end Document
end Stencil.Settings
