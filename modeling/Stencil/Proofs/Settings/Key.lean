import Mathlib.Control.Monad.Basic
import Mathlib.Tactic.Choose
import Stencil.Proofs.Result
import Stencil.Settings.Decode
import Stencil.Settings.Source

/-!
The keys of settings. A table in which every key has a value gives settings exactly when each of the values
can be read as what its key is for (`Settings.ofValue_eq_ok_iff`). Sections are read each on its own, and a key that is
not in its section as if it had its built-in value (`Settings.readsSection_iff_of_shows`).
-/
namespace Stencil.Settings

inductive Key
  | path
  | extension
  | maxIncludeDepth
  | viewNotFound
  | viewNotFoundCode
  | routeExists
  | routeExistsCode
  | level
  | format
deriving DecidableEq

namespace Key

def all : List Key :=
  [path, extension, maxIncludeDepth, viewNotFound, viewNotFoundCode, routeExists, routeExistsCode, level,
    format]

-- The section that a key belongs to.
def group : Key → Text
  | path | extension | maxIncludeDepth => "views"
  | viewNotFound | viewNotFoundCode | routeExists | routeExistsCode => "messages"
  | level | format => "logging"

-- The name of a key within its section.
def name : Key → Text
  | path => "path"
  | extension => "extension"
  | maxIncludeDepth => "max_include_depth"
  | viewNotFound => "view_not_found_message"
  | viewNotFoundCode => "view_not_found_code"
  | routeExists => "route_already_exists_message"
  | routeExistsCode => "route_already_exists_code"
  | level => "level"
  | format => "format"

def dotted (k : Key) : Text :=
  k.group ++ '.' :: k.name

-- The built-in value.
def default : Key → Value
  | path => .scalar none (.text "views")
  | extension => .scalar none (.text "html")
  | maxIncludeDepth => .scalar none (.int 32)
  | viewNotFound => .scalar none (.text "View not found")
  | viewNotFoundCode => .scalar none (.int 404)
  | routeExists => .scalar none (.text "Route already exists")
  | routeExistsCode => .scalar none (.int 409)
  | level => .scalar none (.text "info")
  | format => .scalar none (.text "pretty")

-- The value of a key, which is the built-in one if there is no other.
def valueIn (k : Key) (values : Key → Option Value) : Value :=
  (values k).getD k.default

-- The value is converted to what the settings have for the key.
def Reads (k : Key) (v : Value) (s : Settings) : Prop :=
  match k with
  | path => v.text path.dotted = .ok s.views.path.text
  | extension => v.text extension.dotted = .ok s.views.extension
  | maxIncludeDepth => v.nat maxIncludeDepth.dotted = .ok s.views.maxIncludeDepth
  | viewNotFound => v.text viewNotFound.dotted = .ok s.messages.viewNotFound
  | viewNotFoundCode => v.int64 viewNotFoundCode.dotted = .ok s.messages.viewNotFoundCode
  | routeExists => v.text routeExists.dotted = .ok s.messages.routeExists
  | routeExistsCode => v.int64 routeExistsCode.dotted = .ok s.messages.routeExistsCode
  | level => v.text level.dotted = .ok s.logging.level
  | format => v.format format.dotted = .ok s.logging.format

instance (k : Key) (v : Value) (s : Settings) : Decidable (k.Reads v s) :=
  match k with
  | path | extension | maxIncludeDepth | viewNotFound | viewNotFoundCode | routeExists | routeExistsCode
  | level | format => inferInstanceAs <| Decidable (_ = _)

theorem name_injective {k l : Key} (h : k.name = l.name) : k = l := by
  revert h
  cases k <;> cases l <;> decide

theorem reads_default (k : Key) : k.Reads k.default {} := by
  cases k <;> rfl

-- Settings that have for every key what is read for it can be put together from any that have it for one.
theorem exists_reads_iff {values : Key → Value} :
    (∃ s, ∀ k : Key, k.Reads (values k) s) ↔ ∀ k : Key, ∃ s, k.Reads (values k) s where
  mp := fun ⟨s, h⟩ k => ⟨s, h k⟩
  mpr h := by
    choose s h using h
    refine ⟨{
      views := ⟨(s path).views.path, (s extension).views.extension, (s maxIncludeDepth).views.maxIncludeDepth⟩
      messages := ⟨(s viewNotFound).messages.viewNotFound, (s viewNotFoundCode).messages.viewNotFoundCode,
        (s routeExists).messages.routeExists, (s routeExistsCode).messages.routeExistsCode⟩
      logging := ⟨(s level).logging.level, (s format).logging.format⟩ }, fun k => ?_⟩
    specialize h k
    cases k <;> exact h

end Key

theorem defaults_eq : defaults = Key.all.map fun k => (k.dotted, k.default) := by
  rfl

-- The section of a name, empty if there is none.
def Value.group (root : Value) (name : Text) : Value :=
  (root.entries.lookup name).getD .emptyTable

-- The keys of a section have these values in a table.
structure ShowsGroup (values : Key → Option Value) (group : Text) (v : Value) : Prop where
  table : ∃ origin? entries, v = .table origin? entries
  lookup : ∀ k : Key, k.group = group → v.entries.lookup k.name = values k

def Shows (values : Key → Option Value) (root : Value) : Prop :=
  ∀ k : Key, ShowsGroup values k.group (root.group k.group)

variable {values : Key → Option Value} {v root : Value} {group : Text} {s : Settings}

-- A key that is not there is read as its built-in value.
theorem ShowsGroup.orDefault_field {α : Type} (h : ShowsGroup values group v) (k : Key) (hk : k.group = group)
    (position : Nat) {base : α} {read : Text → Value → Except Problem α}
    (hd : read k.dotted k.default = .ok base) :
    orDefault base read (v.field group position k.name) = read k.dotted (k.valueIn values) := by
  have hn : group ≠ [] := hk ▸ by cases k <;> decide
  obtain ⟨origin?, entries, rfl⟩ := h.table
  have hl : entries.lookup k.name = values k := h.lookup k hk
  rw [Value.field, hl, if_neg hn, ← hk, Key.valueIn]
  cases values k
  case none => exact hd.symm
  case some => rfl

theorem ShowsGroup.expectSection (h : ShowsGroup values group v) (name : Text) :
    v.expectSection name = .ok () := by
  obtain ⟨origin?, entries, rfl⟩ := h.table
  rfl

-- A section that has a key in it is there.
theorem Shows.lookup_group {values : Key → Value} (h : Shows (some <| values ·) root) (k : Key) :
    root.entries.lookup k.group = some (root.group k.group) := by
  have hk := (h k).lookup k rfl
  unfold Value.group at hk ⊢
  cases hl : root.entries.lookup k.group
  case none =>
    rw [hl] at hk
    contradiction
  case some => rfl

theorem views_eq_ok_iff (h : ShowsGroup values "views" v) {views : Views} :
    Views.ofValue "views" v = .ok views ↔
      (Key.valueIn .path values).text Key.path.dotted = .ok views.path.text ∧
      (Key.valueIn .extension values).text Key.extension.dotted = .ok views.extension ∧
      (Key.valueIn .maxIncludeDepth values).nat Key.maxIncludeDepth.dotted = .ok views.maxIncludeDepth := by
  have h₀ : orDefault ({} : Views).path.text Value.text (v.field "views" 0 "path") = _ :=
    h.orDefault_field .path rfl 0 rfl
  have h₁ : orDefault ({} : Views).extension Value.text (v.field "views" 1 "extension") = _ :=
    h.orDefault_field .extension rfl 1 rfl
  have h₂ : orDefault ({} : Views).maxIncludeDepth Value.nat (v.field "views" 2 "max_include_depth") = _ :=
    h.orDefault_field .maxIncludeDepth rfl 2 rfl
  unfold Views.ofValue
  simp only [h.expectSection, h₀, h₁, h₂, bind_eq_ok_iff, pure_eq_ok_iff]
  constructor
  case mp =>
    rintro ⟨-, -, path, hp, extension, he, depth, hd, rfl⟩
    exact ⟨hp, he, hd⟩
  case mpr => exact fun ⟨hp, he, hd⟩ => ⟨(), trivial, _, hp, _, he, _, hd, rfl⟩

theorem messages_eq_ok_iff (h : ShowsGroup values "messages" v) {messages : Messages} :
    messagesOfValue "messages" v = .ok messages ↔
      (Key.valueIn .viewNotFound values).text Key.viewNotFound.dotted = .ok messages.viewNotFound ∧
      (Key.valueIn .viewNotFoundCode values).int64 Key.viewNotFoundCode.dotted = .ok messages.viewNotFoundCode ∧
      (Key.valueIn .routeExists values).text Key.routeExists.dotted = .ok messages.routeExists ∧
      (Key.valueIn .routeExistsCode values).int64 Key.routeExistsCode.dotted = .ok messages.routeExistsCode := by
  have h₀ : orDefault ({} : Messages).viewNotFound Value.text
      (v.field "messages" 0 "view_not_found_message") = _ := h.orDefault_field .viewNotFound rfl 0 rfl
  have h₁ : orDefault ({} : Messages).viewNotFoundCode Value.int64
      (v.field "messages" 1 "view_not_found_code") = _ := h.orDefault_field .viewNotFoundCode rfl 1 rfl
  have h₂ : orDefault ({} : Messages).routeExists Value.text
      (v.field "messages" 2 "route_already_exists_message") = _ := h.orDefault_field .routeExists rfl 2 rfl
  have h₃ : orDefault ({} : Messages).routeExistsCode Value.int64
      (v.field "messages" 3 "route_already_exists_code") = _ := h.orDefault_field .routeExistsCode rfl 3 rfl
  unfold messagesOfValue
  simp only [h.expectSection, h₀, h₁, h₂, h₃, bind_eq_ok_iff, pure_eq_ok_iff]
  constructor
  case mp =>
    rintro ⟨-, -, notFound, hn, notFoundCode, hnc, «exists», he, existsCode, hec, rfl⟩
    exact ⟨hn, hnc, he, hec⟩
  case mpr => exact fun ⟨hn, hnc, he, hec⟩ => ⟨(), trivial, _, hn, _, hnc, _, he, _, hec, rfl⟩

theorem logging_eq_ok_iff (h : ShowsGroup values "logging" v) {logging : Logging} :
    Logging.ofValue "logging" v = .ok logging ↔
      (Key.valueIn .level values).text Key.level.dotted = .ok logging.level ∧
      (Key.valueIn .format values).format Key.format.dotted = .ok logging.format := by
  have h₀ : orDefault ({} : Logging).level Value.text (v.field "logging" 0 "level") = _ :=
    h.orDefault_field .level rfl 0 rfl
  have h₁ : orDefault ({} : Logging).format Value.format (v.field "logging" 1 "format") = _ :=
    h.orDefault_field .format rfl 1 rfl
  unfold Logging.ofValue
  simp only [h.expectSection, h₀, h₁, bind_eq_ok_iff, pure_eq_ok_iff]
  constructor
  case mp =>
    rintro ⟨-, -, level, hl, format, hf, rfl⟩
    exact ⟨hl, hf⟩
  case mpr => exact fun ⟨hl, hf⟩ => ⟨(), trivial, _, hl, _, hf, rfl⟩

-- The section of a key is converted to what the settings have for it.
def Key.ReadsSection (k : Key) (v? : Option Value) (s : Settings) : Prop :=
  match k with
  | path | extension | maxIncludeDepth =>
    orDefault ({} : Settings).views Views.ofValue (v?.map ("views", ·)) = .ok s.views
  | viewNotFound | viewNotFoundCode | routeExists | routeExistsCode =>
    orDefault ({} : Settings).messages messagesOfValue (v?.map ("messages", ·)) = .ok s.messages
  | level | format => orDefault ({} : Settings).logging Logging.ofValue (v?.map ("logging", ·)) = .ok s.logging

-- Sections are converted each on its own.
theorem ofValue_table_eq_ok_iff {origin? : Option Text} {entries : List (Text × Value)} :
    ofValue (.table origin? entries) = .ok s ↔ ∀ k : Key, k.ReadsSection (entries.lookup k.group) s := by
  unfold ofValue
  simp only [Value.field, if_pos, bind_eq_ok_iff, pure_eq_ok_iff]
  constructor
  case mp =>
    rintro ⟨_, hv, _, hm, _, hl, rfl⟩
    intro k
    cases k
    case path | extension | maxIncludeDepth => exact hv
    case viewNotFound | viewNotFoundCode | routeExists | routeExistsCode => exact hm
    case level | format => exact hl
  case mpr => exact fun h => ⟨_, h .path, _, h .viewNotFound, _, h .level, rfl⟩

theorem exists_ofValue_table_eq_ok_iff {origin? : Option Text} {entries : List (Text × Value)} :
    (∃ s, ofValue (.table origin? entries) = .ok s) ↔
      ∀ k : Key, ∃ s, k.ReadsSection (entries.lookup k.group) s where
  mp := fun ⟨s, h⟩ k => ⟨s, ofValue_table_eq_ok_iff.mp h k⟩
  mpr h := by
    obtain ⟨s, hv⟩ := h .path
    obtain ⟨s', hm⟩ := h .viewNotFound
    obtain ⟨s'', hl⟩ := h .level
    refine ⟨⟨s.views, s'.messages, s''.logging⟩, ofValue_table_eq_ok_iff.mpr fun k => ?_⟩
    cases k
    case path | extension | maxIncludeDepth => exact hv
    case viewNotFound | viewNotFoundCode | routeExists | routeExistsCode => exact hm
    case level | format => exact hl

theorem readsSection_iff_of_shows {k : Key} (h : ShowsGroup values k.group v) :
    k.ReadsSection (some v) s ↔ ∀ l : Key, l.group = k.group → l.Reads (l.valueIn values) s := by
  cases k
  case path | extension | maxIncludeDepth =>
    refine (views_eq_ok_iff h).trans ⟨?_, fun hr => ⟨hr .path rfl, hr .extension rfl, hr .maxIncludeDepth rfl⟩⟩
    rintro ⟨hp, he, hd⟩ l hl
    cases l
    case path => exact hp
    case extension => exact he
    case maxIncludeDepth => exact hd
    all_goals exact absurd hl (by decide)
  case viewNotFound | viewNotFoundCode | routeExists | routeExistsCode =>
    refine (messages_eq_ok_iff h).trans ⟨?_, fun hr => ⟨hr .viewNotFound rfl, hr .viewNotFoundCode rfl,
      hr .routeExists rfl, hr .routeExistsCode rfl⟩⟩
    rintro ⟨hn, hnc, hx, hxc⟩ l hl
    cases l
    case viewNotFound => exact hn
    case viewNotFoundCode => exact hnc
    case routeExists => exact hx
    case routeExistsCode => exact hxc
    all_goals exact absurd hl (by decide)
  case level | format =>
    refine (logging_eq_ok_iff h).trans ⟨?_, fun hr => ⟨hr .level rfl, hr .format rfl⟩⟩
    rintro ⟨hlevel, hf⟩ l hl
    cases l
    case level => exact hlevel
    case format => exact hf
    all_goals exact absurd hl (by decide)

-- The values of a section can be read together if each of them can be read.
theorem exists_readsSection_iff_of_shows {k : Key} (h : ShowsGroup values k.group v) :
    (∃ s, k.ReadsSection (some v) s) ↔ ∀ l : Key, l.group = k.group → ∃ s, l.Reads (l.valueIn values) s := by
  simp only [readsSection_iff_of_shows h]
  constructor
  case mp => exact fun ⟨s, hs⟩ l hl => ⟨s, hs l hl⟩
  case mpr =>
    intro hr
    have hr' (l : Key) : ∃ s, l.Reads (if l.group = k.group then l.valueIn values else l.default) s := by
      split
      case isTrue hl => exact hr l hl
      case isFalse => exact ⟨_, l.reads_default⟩
    obtain ⟨s, hs⟩ := Key.exists_reads_iff.mpr hr'
    refine ⟨s, fun l hl => ?_⟩
    have hsl := hs l
    rwa [if_pos hl] at hsl

theorem showsGroup_table (k : Key) (origin? : Option Text) (entries : List (Text × Value)) :
    ShowsGroup (fun l => entries.lookup l.name) k.group (.table origin? entries) :=
  ⟨⟨origin?, entries, rfl⟩, fun _ _ => rfl⟩

theorem ofValue_eq_ok_iff {values : Key → Value} (h : Shows (some <| values ·) root) :
    ofValue root = .ok s ↔ ∀ k : Key, k.Reads (values k) s := by
  obtain ⟨origin?, entries, rfl⟩ : ∃ origin? entries, root = .table origin? entries := by
    have hl := h.lookup_group .path
    cases root
    case table origin? entries => exact ⟨origin?, entries, rfl⟩
    all_goals contradiction
  have hk (k : Key) : k.ReadsSection (entries.lookup k.group) s ↔
      ∀ l : Key, l.group = k.group → l.Reads (values l) s := by
    rw [show entries.lookup k.group = some _ from h.lookup_group k]
    exact readsSection_iff_of_shows (h k)
  rw [ofValue_table_eq_ok_iff]
  exact ⟨fun hr k => (hk k).mp (hr k) k rfl, fun hr k => (hk k).mpr fun l _ => hr l⟩

end Stencil.Settings
