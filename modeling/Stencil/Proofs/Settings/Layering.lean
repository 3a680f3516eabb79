import Mathlib.Data.List.Perm.Basic
import Stencil.Proofs.Environment
import Stencil.Proofs.Lookup
import Stencil.Proofs.Settings.Key
import Stencil.Settings.Load

/-!
Which layer a setting comes from: for each key on its own, the highest one that assigns it
(`Settings.winner`), whatever the layers below have there and whatever it does with other keys.
-/
namespace Stencil.Settings

-- A value on top of another one. A table adds its entries to what is there, anything else takes its place.
def Value.over (below : Value) : Value → Value
  | .table _ entries => assignAll below entries
  | v => v

-- What an entry of a layer assigns to keys. It spells out one of them, or it has a table for a section.
inductive Writes : Text × Value → List (Key × Value) → Prop
  | key {spelled : Text} {v : Value} {k : Key} (group name : Text) :
    Step.ofKey spelled = [.key group, .key name] → Text.lower group = k.group → Text.lower name = k.name →
    Writes (spelled, v) [(k, v)]
  | group {spelled : Text} {origin? : Option Text} {entries : List (Text × Value)}
      {sets : List (Key × Value)} (group : Text) :
    Step.ofKey spelled = [.key group] → (∀ set ∈ sets, set.fst.group = Text.lower group) →
    List.Forall₂ (fun e set => Text.lower e.fst = set.fst.name ∧ e.snd = set.snd) entries sets →
    Writes (spelled, .table origin? entries) sets

-- A layer that assigns values to some keys and to nothing else, and to no key twice.
def Assigns (layer : Layer) (a : Key → Option Value) : Prop :=
  ∃ parts : List (List (Key × Value)),
    List.Forall₂ Writes layer parts ∧ (parts.flatten.map Prod.fst).Nodup ∧ ∀ k, a k = parts.flatten.lookup k

-- The value of a key under some assignments, the highest first.
def winner (k : Key) : List (Key → Option Value) → Value
  | [] => k.default
  | a :: below =>
    match a k with
    | none => winner k below
    | some v => (winner k below).over v

-- The values of the keys after an assignment to one of them.
def lay (values : Key → Option Value) (set : Key × Value) : Key → Option Value :=
  Function.update values set.fst (some <| ((values set.fst).getD .emptyTable).over set.snd)

theorem lookup_cons_ite {α : Type} (key k : Text) (v : α) (entries : List (Text × α)) :
    List.lookup k ((key, v) :: entries) = if k = key then some v else entries.lookup k := by
  rw [List.lookup_cons]
  by_cases hk : k = key
  case pos => simp [hk]
  case neg => simp only [beq_eq_false_iff_ne.mpr hk, if_neg hk]

theorem lookup_setEntry (key k : Text) (v : Value) (entries : List (Text × Value)) :
    (setEntry key v entries).lookup k = if k = key then some v else entries.lookup k := by
  induction entries
  case nil => exact lookup_cons_ite key k v []
  case cons e entries hi =>
    obtain ⟨other, old⟩ := e
    rw [setEntry]
    split
    case isTrue ho =>
      subst ho
      simp only [lookup_cons_ite]
      split <;> rfl
    case isFalse ho =>
      rw [lookup_cons_ite, lookup_cons_ite, hi]
      grind

theorem lookup_withEntry (root w : Value) (group k : Text) :
    (root.withEntry group w).entries.lookup k = if k = group then some w else root.entries.lookup k :=
  lookup_setEntry group k w root.entries

theorem group_withEntry (root w : Value) (group k : Text) :
    (root.withEntry group w).group k = if k = group then w else root.group k := by
  rw [Value.group, lookup_withEntry]
  split <;> rfl

theorem assign_eq (key : Text) (root v : Value) : assign key root v =
    root.withEntry (Text.lower key) ((root.group <| Text.lower key).over v) := by
  cases v <;> simp [assign, Value.over, Value.group]

-- A key of a section that is not there is set in an empty one.
theorem assignAt_group_name (group name : Text) (root v : Value) : assignAt v [.key group, .key name] root =
    root.withEntry (Text.lower group) (assign name (root.group <| Text.lower group) v) := by
  rw [assignAt, assignAt, Value.group]
  · cases root.entries.lookup <| Text.lower group
    case none => cases v <;> rfl
    case some => rfl
  · simp

variable {values values' : Key → Option Value} {v root : Value} {group : Text} {k : Key}
variable {sets : List (Key × Value)} {layer : Layer} {a : Key → Option Value}

theorem ShowsGroup.of_assign (h : ShowsGroup values k.group v) {name : Text} (hn : Text.lower name = k.name)
    (w : Value) : ShowsGroup (lay values (k, w)) k.group (assign name v w) where
  table := ⟨_, _, assign_eq name v w⟩
  lookup l hl := by
    have hw : (assign name v w).entries = setEntry k.name ((v.group k.name).over w) v.entries := by
      rw [assign_eq, hn]
      rfl
    rw [hw, lookup_setEntry, lay, Function.update_apply]
    by_cases hk : l = k
    case pos =>
      subst hk
      simp [Value.group, h.lookup l rfl]
    case neg => simpa [mt Key.name_injective hk, hk] using h.lookup l hl

-- A table for a section is laid over it key by key.
theorem ShowsGroup.of_assignAll {entries : List (Text × Value)} (h : ShowsGroup values group v)
    (hg : ∀ set ∈ sets, set.fst.group = group)
    (he : List.Forall₂ (fun e set => Text.lower e.fst = set.fst.name ∧ e.snd = set.snd) entries sets) :
    ShowsGroup (sets.foldl lay values) group (assignAll v entries) := by
  induction he generalizing values v
  case nil => exact h
  case cons e set entries sets hs _ hi =>
    obtain ⟨hn, hv⟩ := hs
    obtain ⟨rfl, hg⟩ := List.forall_mem_cons.mp hg
    exact hi (hv ▸ h.of_assign hn e.snd) hg

-- Replacing a section only changes what is shown of its own keys.
theorem Shows.of_withEntry (h : Shows values root)
    (hg : ∀ k : Key, k.group = group → ShowsGroup values' group v)
    (ho : ∀ k : Key, k.group ≠ group → values' k = values k) : Shows values' (root.withEntry group v) := by
  intro k
  rw [group_withEntry]
  by_cases hk : k.group = group
  case pos => simpa [hk] using hg k hk
  case neg =>
    rw [if_neg hk]
    exact ⟨(h k).table, fun l hl => (h k).lookup l hl |>.trans (ho l <| hl ▸ hk).symm⟩

theorem foldl_lay_of_not_mem (hk : k ∉ sets.map Prod.fst) (values : Key → Option Value) :
    sets.foldl lay values k = values k := by
  induction sets generalizing values
  case nil => rfl
  case cons set sets hi =>
    obtain ⟨hne, hk⟩ := not_or.mp <| List.mem_cons.not.mp hk
    rw [List.foldl_cons, hi hk, lay, Function.update_of_ne hne]

-- What an entry of a layer writes is shown once it is assigned.
theorem Shows.of_writes {e : Text × Value} (h : Shows values root) (hw : Writes e sets) :
    Shows (sets.foldl lay values) (assignAt e.snd (Step.ofKey e.fst) root) := by
  cases hw
  case key v k g name hs hg hn =>
    simp only [hs, assignAt_group_name, hg]
    refine h.of_withEntry (fun _ _ => (h k).of_assign hn v) fun l hl => ?_
    exact Function.update_of_ne (fun hk => hl <| congrArg Key.group hk) _ _
  case group origin? entries g hs hg he =>
    simp only [hs, assignAt, assign_eq, Value.over]
    refine h.of_withEntry (fun k hk => (hk ▸ h k).of_assignAll hg he) fun l hl => ?_
    refine foldl_lay_of_not_mem (fun hm => ?_) values
    obtain ⟨set, hs, rfl⟩ := List.mem_map.mp hm
    exact hl <| hg set hs

theorem Shows.of_forall₂ {parts : List (List (Key × Value))} (h : Shows values root)
    (hp : List.Forall₂ Writes layer parts) : Shows (parts.flatten.foldl lay values) (apply root layer) := by
  induction hp generalizing values root
  case nil => exact h
  case cons e part layer parts hw _ hi =>
    rw [List.flatten_cons, List.foldl_append]
    exact hi <| h.of_writes hw

theorem foldl_lay_of_nodup (hn : (sets.map Prod.fst).Nodup) (values : Key → Option Value) (k : Key) :
    sets.foldl lay values k =
      ((sets.lookup k).map fun v => ((values k).getD .emptyTable).over v).or (values k) := by
  induction sets generalizing values
  case nil => rfl
  case cons set sets hi =>
    obtain ⟨l, v⟩ := set
    obtain ⟨hl, hn⟩ := List.nodup_cons.mp hn
    by_cases hk : k = l
    case pos =>
      subst hk
      rw [List.foldl_cons, foldl_lay_of_not_mem hl]
      simp [lay]
    case neg =>
      rw [List.foldl_cons, hi hn, List.lookup_cons, beq_eq_false_iff_ne.mpr hk]
      simp [lay, Function.update_of_ne hk]

-- A layer leaves the keys that it does not assign as they are, and lays its values over the others.
theorem Shows.of_assigns (h : Shows values root) (ha : Assigns layer a) :
    Shows (fun k => ((a k).map fun v => ((values k).getD .emptyTable).over v).or (values k))
      (apply root layer) := by
  obtain ⟨parts, hp, hn, hl⟩ := ha
  simpa only [hl, ← foldl_lay_of_nodup hn] using h.of_forall₂ hp

theorem Shows.of_winner {below : List (Key → Option Value)}
    (h : Shows (fun k => some <| winner k below) root) (ha : Assigns layer a) :
    Shows (fun k => some <| winner k (a :: below)) (apply root layer) := by
  convert h.of_assigns ha using 2 with k
  rw [winner]
  cases a k <;> rfl

theorem shows_emptyTable : Shows (fun _ => none) Value.emptyTable :=
  fun _ => ⟨⟨_, _, rfl⟩, fun _ _ => rfl⟩

theorem ofKey_dotted (k : Key) : Step.ofKey k.dotted = [.key k.group, .key k.name] := by
  cases k <;> decide

theorem lower_group (k : Key) : Text.lower k.group = k.group := by
  cases k <;> decide

theorem lower_name (k : Key) : Text.lower k.name = k.name := by
  cases k <;> decide

-- A layer whose entries spell out keys, as the defaults and the environment do.
theorem assigns_dotted (hn : (sets.map Prod.fst).Nodup) :
    Assigns (sets.map fun set => (set.fst.dotted, set.snd)) (List.lookup · sets) := by
  have hs : (sets.map ([·])).flatten = sets := by rw [← List.flatMap_def, List.flatMap_singleton']
  refine ⟨sets.map ([·]), ?_, by rwa [hs], fun k => by rw [hs]⟩
  rw [List.forall₂_map_left_iff, List.forall₂_map_right_iff, List.forall₂_same]
  exact fun set _ => .key _ _ (ofKey_dotted set.fst) (lower_group set.fst) (lower_name set.fst)

theorem Assigns.of_perm {layer' : Layer} (h : Assigns layer a) (hp : layer'.Perm layer) : Assigns layer' a := by
  obtain ⟨parts, hw, hn, hl⟩ := h
  obtain ⟨parts', hw, hp⟩ := List.perm_comp_forall₂ hp hw
  refine ⟨parts', hw, (hp.flatten.map Prod.fst).nodup_iff.mpr hn, fun k => ?_⟩
  rw [hl, lookup_eq_of_perm hp.flatten hn]

theorem assigns_nil : Assigns [] fun _ => none :=
  ⟨[], .nil, List.nodup_nil, fun _ => rfl⟩

theorem assigns_defaults : Assigns defaults (some ∘ Key.default) := by
  let sets := Key.all.map fun k => (k, k.default)
  have hn : (sets.map Prod.fst).Nodup := by decide
  have hl : (List.lookup · sets) = some ∘ Key.default := by
    funext k
    cases k <;> rfl
  rw [defaults_eq, ← hl]
  exact assigns_dotted hn

theorem shows_defaults : Shows (fun k => some <| winner k []) (apply Value.emptyTable defaults) := by
  convert shows_emptyTable.of_assigns assigns_defaults using 2 with k
  cases k <;> rfl

-- The spelling of a key as a variable.
def Key.variableName (k : Key) : Text :=
  "ARA__" ++ k.group.map Char.toUpper ++ "__" ++ k.name.map Char.toUpper

theorem keyOfVariable?_variableName (k : Key) : keyOfVariable? k.variableName = some k.dotted := by
  cases k <;> decide

variable {names : Key → Text} {env set : Environment} {tree : FileTree} {file? : Option Path} {s : Settings}
variable {leeway : Leeway} {base ofMode ofFile : Layer} {b : Key → Option Value} {c : Key → Option Value}

theorem layers_eq (hbase : fileLayer leeway tree false ⟨"config/default"⟩ = .ok base)
    (hmode : fileLayer leeway tree false ⟨"config/" ++ runMode env⟩ = .ok ofMode)
    (hfile : file?.elim (.ok []) (fileLayer leeway tree true) = .ok ofFile) :
    layers leeway tree env file? =
      .ok [defaults, base, ofMode, ofFile, leeway.environment (ofEnvironment env)] := by
  cases file?
  case none =>
    obtain rfl := Except.ok.inj hfile
    rw [layers, hbase, hmode]
    rfl
  case some p =>
    rw [Option.elim] at hfile
    rw [layers, hbase, hmode]
    simp only [hfile]
    rfl

theorem ofLayers_eq_ok_iff_apply : ofLayers leeway tree env file? = .ok s ↔
    ∃ base ofMode ofFile, fileLayer leeway tree false ⟨"config/default"⟩ = .ok base ∧
      fileLayer leeway tree false ⟨"config/" ++ runMode env⟩ = .ok ofMode ∧
      file?.elim (.ok []) (fileLayer leeway tree true) = .ok ofFile ∧
      ofValue (apply (stack [defaults, base, ofMode, ofFile]) (leeway.environment <| ofEnvironment env)) =
        .ok s := by
  constructor
  case mp =>
    intro h
    obtain ⟨ls, hl, h⟩ := bind_eq_ok_iff.mp h
    obtain ⟨base, hbase, hl⟩ := bind_eq_ok_iff.mp hl
    obtain ⟨ofMode, hmode, hl⟩ := bind_eq_ok_iff.mp hl
    cases file?
    all_goals
      obtain ⟨ofFile, hfile, hl⟩ := bind_eq_ok_iff.mp hl
      obtain rfl := Except.ok.inj hl
      exact ⟨base, ofMode, ofFile, hbase, hmode, hfile, h⟩
  case mpr =>
    rintro ⟨base, ofMode, ofFile, hbase, hmode, hfile, h⟩
    rw [ofLayers, layers_eq hbase hmode hfile]
    exact h

theorem ofLayers_eq_ok_iff {e : Key → Option Value}
    (hbase : fileLayer leeway tree false ⟨"config/default"⟩ = .ok base) (ha : Assigns base a)
    (hmode : fileLayer leeway tree false ⟨"config/" ++ runMode env⟩ = .ok ofMode) (hb : Assigns ofMode b)
    (hfile : file?.elim (.ok []) (fileLayer leeway tree true) = .ok ofFile) (hc : Assigns ofFile c)
    (he : Assigns (leeway.environment <| ofEnvironment env) e) :
    ofLayers leeway tree env file? = .ok s ↔ ∀ k : Key, k.Reads (winner k [e, c, b, a]) s := by
  rw [ofLayers, layers_eq hbase hmode hfile]
  exact ofValue_eq_ok_iff <| shows_defaults.of_winner ha |>.of_winner hb |>.of_winner hc |>.of_winner he

theorem load_of_withFile? (h : env.withFile? tree = some set) (file? : Option Path) (leeway : Leeway) :
    load tree env file? leeway = ofLayers leeway tree set file? := by
  rw [load, h]

end Stencil.Settings
