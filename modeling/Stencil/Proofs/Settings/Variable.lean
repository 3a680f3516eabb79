import Mathlib.Data.List.Induction
import Stencil.Proofs.Settings.Kind
import Stencil.Proofs.Settings.Layering
import Stencil.Proofs.Settings.Spelling

/-!
What a variable of the environment makes of a setting that is a text (`Settings.load_settles`). The variable decides
the setting whatever the other layers have for it, but its text is read as a value first, so that a text that spells
a truth value or a number is not kept as it is written.
-/
namespace Stencil.Settings

open Number

-- The steps lead to another section, or to another key in the section.
def Key.Apart (k : Key) : List Step → Prop
  | .key group :: rest =>
    Text.lower group = k.group → ∃ name, rest.head? = some (.key name) ∧ Text.lower name ≠ k.name
  | _ => False

-- Two tables that may differ in the value of one key, and in what its section is apart from its entries.
structure AgreesBut (k : Key) (root root' : Value) : Prop where
  group : ∀ g, g ≠ k.group → root.entries.lookup g = root'.entries.lookup g
  name : ∀ n, n ≠ k.name → (root.group k.group).entries.lookup n = (root'.group k.group).entries.lookup n

-- The key has the value in a table.
def Has (k : Key) (v : Value) (root : Value) : Prop :=
  ∃ origin? entries, root.entries.lookup k.group = some (.table origin? entries) ∧
    entries.lookup k.name = some v

-- The entries of a layer that do not spell the key itself.
def others (k : Key) (layer : Layer) : Layer :=
  layer.filter (·.fst ≠ k.dotted)

-- What an assignment puts under a name when its other steps go on from what is there.
def put (v : Value) (rest : List Step) (old? : Option Value) : Value :=
  match rest with
  | [] => (old?.getD .emptyTable).over v
  | _ => assignAt v rest (old?.getD (.scalar none .nil))

variable {k : Key} {v root root' : Value} {steps : List Step} {layer : Layer}

theorem assignAt_key_cons (v root : Value) (g : Text) (rest : List Step) : assignAt v (.key g :: rest) root =
    root.withEntry (Text.lower g) (put v rest <| root.entries.lookup <| Text.lower g) := by
  cases rest
  case nil => rw [assignAt, assign_eq, put, Value.group]
  case cons => rw [assignAt, put] <;> simp

theorem lookup_put_key_cons (root v : Value) (n : Text) (rest : List Step) (group m : Text) :
    (put v (.key n :: rest) <| root.entries.lookup group).entries.lookup m = if m = Text.lower n then
      some (put v rest <| (root.group group).entries.lookup <| Text.lower n)
    else (root.group group).entries.lookup m := by
  have he : ((root.entries.lookup group).getD (.scalar none .nil)).entries = (root.group group).entries := by
    unfold Value.group
    cases root.entries.lookup group <;> rfl
  rw [put, assignAt_key_cons, lookup_withEntry, he]
  simp

theorem apply_cons (root : Value) (e : Text × Value) (layer : Layer) :
    apply root (e :: layer) = apply (assignAt e.snd (Step.ofKey e.fst) root) layer := by
  rfl

theorem exists_put_key_cons_eq (v : Value) (n : Text) (rest : List Step) (old? : Option Value) :
    ∃ origin? entries, put v (.key n :: rest) old? = .table origin? entries := by
  rw [put, assignAt_key_cons]
  · exact ⟨_, _, rfl⟩
  · simp

namespace AgreesBut

theorem refl (root : Value) : AgreesBut k root root :=
  ⟨fun _ _ => rfl, fun _ _ => rfl⟩

theorem symm (h : AgreesBut k root root') : AgreesBut k root' root :=
  ⟨fun g hg => (h.group g hg).symm, fun n hn => (h.name n hn).symm⟩

theorem assign (v root : Value) (k : Key) : AgreesBut k (assignAt v [.key k.group, .key k.name] root) root := by
  rw [assignAt_key_cons, lower_group]
  constructor
  case group =>
    intro g hg
    rw [lookup_withEntry, if_neg hg]
  case name =>
    intro n hn
    rw [group_withEntry, if_pos rfl, lookup_put_key_cons, lower_name, if_neg hn]

theorem trans {root'' : Value} (h : AgreesBut k root root') (h' : AgreesBut k root' root'') :
    AgreesBut k root root'' where
  group g hg := (h.group g hg).trans (h'.group g hg)
  name n hn := (h.name n hn).trans (h'.name n hn)

theorem assignAt (h : AgreesBut k root root') (v : Value) (hs : k.Apart steps) :
    AgreesBut k (assignAt v steps root) (assignAt v steps root') := by
  match steps with
  | .key g :: rest =>
    rw [assignAt_key_cons, assignAt_key_cons]
    by_cases hg : Text.lower g = k.group
    case neg =>
      constructor
      case group =>
        intro g' hg'
        rw [lookup_withEntry, lookup_withEntry, h.group _ hg, h.group g' hg']
      case name =>
        intro n hn
        rw [group_withEntry, group_withEntry, if_neg (Ne.symm hg), if_neg (Ne.symm hg), h.name n hn]
    case pos =>
      obtain ⟨n, hr, hn⟩ := hs hg
      obtain ⟨rest, rfl⟩ := List.head?_eq_some_iff.mp hr
      rw [hg]
      constructor
      case group =>
        intro g' hg'
        rw [lookup_withEntry, lookup_withEntry, if_neg hg', if_neg hg', h.group g' hg']
      case name =>
        intro n' hn'
        rw [group_withEntry, group_withEntry, if_pos rfl, if_pos rfl, lookup_put_key_cons, lookup_put_key_cons,
          h.name _ hn, h.name n' hn']

theorem apply_others (h : AgreesBut k root root')
    (hl : ∀ e ∈ layer, e.fst = k.dotted ∨ k.Apart (Step.ofKey e.fst)) :
    AgreesBut k (apply root layer) (apply root' <| others k layer) := by
  induction layer generalizing root root'
  case nil => exact h
  case cons e layer hi =>
    obtain ⟨he, hl⟩ := List.forall_mem_cons.mp hl
    rw [others, List.filter_cons, apply_cons]
    split
    case isTrue hk => exact hi (h.assignAt e.snd <| he.resolve_left <| by simpa using hk) hl
    case isFalse hk =>
      have hk : e.fst = k.dotted := by simpa using hk
      rw [hk, ofKey_dotted]
      exact hi ((AgreesBut.assign e.snd root k).trans h) hl

end AgreesBut

namespace Has

theorem assign (origin? : Option Text) (x : Scalar) (root : Value) (k : Key) :
    Has k (.scalar origin? x) (assignAt (.scalar origin? x) [.key k.group, .key k.name] root) := by
  rw [assignAt_key_cons, lower_group]
  obtain ⟨table?, entries, hp⟩ := exists_put_key_cons_eq (.scalar origin? x) k.name [] (root.entries.lookup k.group)
  have hl := lookup_put_key_cons root (.scalar origin? x) k.name [] k.group k.name
  refine ⟨table?, entries, by rw [lookup_withEntry, if_pos rfl, hp], ?_⟩
  rw [hp, lower_name, if_pos rfl] at hl
  exact hl

theorem assignAt (h : Has k v root) (w : Value) (hs : k.Apart steps) : Has k v (assignAt w steps root) := by
  obtain ⟨origin?, entries, hg, hk⟩ := h
  match steps with
  | .key g :: rest =>
    rw [assignAt_key_cons]
    by_cases hg' : Text.lower g = k.group
    case neg => exact ⟨origin?, entries, by rw [lookup_withEntry, if_neg (Ne.symm hg'), hg], hk⟩
    case pos =>
      obtain ⟨n, hr, hn⟩ := hs hg'
      obtain ⟨rest, rfl⟩ := List.head?_eq_some_iff.mp hr
      obtain ⟨origin'?, entries', hp⟩ := exists_put_key_cons_eq w n rest (root.entries.lookup k.group)
      refine ⟨origin'?, entries', by rw [lookup_withEntry, hg', if_pos rfl, hp], ?_⟩
      have hl := lookup_put_key_cons root w n rest k.group k.name
      rw [hp, if_neg (Ne.symm hn), Value.group, hg] at hl
      exact hl.trans hk

theorem apply {x : Scalar} {origin? : Option Text} (hm : (k.dotted, .scalar origin? x) ∈ layer)
    (hl : ∀ e ∈ layer, e = (k.dotted, .scalar origin? x) ∨ k.Apart (Step.ofKey e.fst)) (root : Value) :
    Has k (.scalar origin? x) (apply root layer) := by
  induction layer using List.reverseRecOn
  case nil => contradiction
  case append_singleton layer e hi =>
    obtain ⟨hl, he⟩ := List.forall_mem_append.mp hl
    rw [Settings.apply, List.foldl_append]
    obtain rfl | he := List.forall_mem_singleton.mp he
    case inl =>
      have hs := Has.assign origin? x (Settings.apply root layer) k
      rwa [← ofKey_dotted] at hs
    case inr =>
      have hm : (k.dotted, .scalar origin? x) ∈ layer := by
        refine (List.mem_append.mp hm).resolve_right fun hm => ?_
        obtain rfl := List.mem_singleton.mp hm
        obtain ⟨name, hn, hne⟩ := (ofKey_dotted k ▸ he) (lower_group k)
        obtain rfl := Step.key.inj <| Option.some.inj hn
        exact hne <| lower_name k
      exact (hi hm hl).assignAt e.snd he

end Has

variable {env env' set : Environment} {name t : Text} {leeway : Leeway} {tree : FileTree}
variable {file? : Option Path} {s : Settings}

-- No variable leads to the key, through it, or to its section.
def Key.Spared (k : Key) (env : Environment) : Prop :=
  ∀ e ∈ env, ∀ key, keyOfVariable? e.fst = some key → k.Apart (Step.ofKey key)

-- What a variable adds to the layer of the environment.
def ofVariable (t : Text) : Value :=
  .scalar (some "the environment") (Scalar.ofText t)

theorem Key.Spared.eq_or_apart (h : k.Spared (env.erase k.variableName)) {e : Text × Value}
    (he : e ∈ ofEnvironment env) :
    (∃ t, (k.variableName, t) ∈ env ∧ e = (k.dotted, ofVariable t)) ∨ k.Apart (Step.ofKey e.fst) := by
  obtain ⟨⟨name, t⟩, hm, he⟩ := List.mem_filterMap.mp he
  obtain ⟨key, hk, rfl⟩ := Option.map_eq_some_iff.mp he
  by_cases hn : name = k.variableName
  case pos =>
    subst hn
    obtain rfl : k.dotted = key := Option.some.inj <| (keyOfVariable?_variableName k).symm.trans hk
    exact .inl ⟨t, hm, rfl⟩
  case neg => exact .inr <| h (name, t) (List.mem_filter.mpr ⟨hm, by simpa using hn⟩) key hk

theorem Key.Spared.dotted_or_apart (h : k.Spared (env.erase k.variableName)) {e : Text × Value}
    (he : e ∈ ofEnvironment env) : e.fst = k.dotted ∨ k.Apart (Step.ofKey e.fst) := by
  obtain ⟨t, _, rfl⟩ | ha := h.eq_or_apart he
  case inl => exact .inl rfl
  case inr => exact .inr ha

-- The variables, in whatever order they come, leave all other keys to what the others among them make of them.
theorem Key.Spared.agreesBut_apply (h : k.Spared (env.erase k.variableName)) (hp : layer.Perm (ofEnvironment env))
    (root : Value) : AgreesBut k (apply root layer) (apply root <| others k layer) :=
  (AgreesBut.refl root).apply_others fun _ he => h.dotted_or_apart <| hp.mem_iff.mp he

theorem Key.Spared.has_apply (h : k.Spared (env.erase k.variableName)) (hn : (env.map Prod.fst).Nodup)
    (ht : env.find? k.variableName = some t) (hp : layer.Perm (ofEnvironment env)) (root : Value) :
    Has k (ofVariable t) (apply root layer) := by
  have hm : (k.dotted, ofVariable t) ∈ ofEnvironment env :=
    List.mem_filterMap.mpr ⟨_, Dictionary.mem_of_find? ht, congrArg (Option.map _) <| keyOfVariable?_variableName k⟩
  refine .apply (hp.mem_iff.mpr hm) (fun e he => (h.eq_or_apart <| hp.mem_iff.mp he).imp_left ?_) root
  rintro ⟨t', hm, rfl⟩
  obtain rfl : t = t' := Option.some.inj <| ht.symm.trans <| Dictionary.find?_of_mem hn hm
  rfl

theorem erase_cons (entry : Text × Text) (env : Environment) (name : Text) :
    Dictionary.erase name (entry :: env) = if entry.fst = name then env.erase name else entry :: env.erase name := by
  by_cases h : entry.fst = name <;> simp [Dictionary.erase, h]

theorem find?_erase_of_ne {other : Text} (h : other ≠ name) (env : Environment) :
    (env.erase name).find? other = env.find? other := by
  induction env
  case nil => rfl
  case cons entry env hi =>
    rw [erase_cons]
    split
    case isTrue hn => rw [hi, Dictionary.find?, if_neg (hn ▸ Ne.symm h)]
    case isFalse => rw [Dictionary.find?, Dictionary.find?, hi]

theorem runMode_eq_of_erase_eq (h : env'.erase k.variableName = env.erase k.variableName) :
    runMode env = runMode env' := by
  have hne : ("RUN_MODE" : Text) ≠ k.variableName := by cases k <;> decide
  rw [runMode, runMode, ← find?_erase_of_ne hne, ← find?_erase_of_ne hne env', h]

theorem exists_ofKey_eq_cons (key : Text) : ∃ g rest, Step.ofKey key = .key g :: rest := by
  simp only [Step.ofKey]
  split
  case isTrue => exact ⟨_, _, rfl⟩
  case isFalse => split <;> exact ⟨_, _, rfl⟩

theorem exists_apply_eq_table (h : ∃ origin? entries, root = .table origin? entries) (layer : Layer) :
    ∃ origin? entries, apply root layer = .table origin? entries := by
  induction layer generalizing root
  case nil => exact h
  case cons e layer hi =>
    obtain ⟨g, rest, hk⟩ := exists_ofKey_eq_cons e.fst
    rw [apply_cons, hk, assignAt_key_cons]
    exact hi ⟨_, _, rfl⟩

theorem exists_stack_eq_table (layers : List Layer) : ∃ origin? entries, stack layers = .table origin? entries := by
  induction layers using List.reverseRecOn
  case nil => exact ⟨_, _, rfl⟩
  case append_singleton layers layer hi =>
    rw [stack, List.foldl_append]
    exact exists_apply_eq_table hi layer

-- What a table has for a key can be read when the table can. A section that is a list has nothing for the key.
theorem exists_reads_of_ofValue_eq_ok {origin? : Option Text} {entries : List (Text × Value)}
    (h : ofValue (.table origin? entries) = .ok s) (l : Key) :
    ∃ s, l.Reads ((((Value.table origin? entries).group l.group).entries.lookup l.name).getD l.default) s := by
  have hl := ofValue_table_eq_ok_iff.mp h l
  rw [Value.group, Value.entries]
  cases hg : entries.lookup l.group
  case none => exact ⟨_, l.reads_default⟩
  case some v =>
    cases v
    case table origin? entries =>
      rw [hg] at hl
      exact ⟨s, (readsSection_iff_of_shows <| showsGroup_table l origin? entries).mp hl l rfl⟩
    all_goals exact ⟨_, l.reads_default⟩

theorem exists_get_eq_text (hk : k.kind = .text) (t : Text) : ∃ s : Settings, s.get k = .text t := by
  have hx : k.kind.Holds (.text t) := hk ▸ .text t
  obtain ⟨_, _, _, _, h⟩ := exists_get_uniform hx
  exact ⟨_, h⟩

-- What a variable makes of a setting that is a text.
theorem exists_reads_ofVariable_iff (hk : k.kind = .text) (t : Text) :
    ∃ u, Settles t u ∧ ∀ s, k.Reads (ofVariable t) s ↔ s.get k = .text u := by
  obtain ⟨u, hu, htu⟩ := exists_text?_ofText_eq t
  exact ⟨u, htu, fun s => Key.reads_iff_of_text? hk hu _⟩

theorem exists_ofValue_eq_ok (h : AgreesBut k root root') (hv : Has k v root') (hr : ∃ s, k.Reads v s)
    (ht : ∃ origin? entries, root = .table origin? entries) (ht' : ∃ origin? entries, root' = .table origin? entries)
    (hs : ofValue root = .ok s) : ∃ s, ofValue root' = .ok s ∧ k.Reads v s := by
  obtain ⟨table?, sections, rfl⟩ := ht
  obtain ⟨table'?, sections', rfl⟩ := ht'
  obtain ⟨origin?, entries, hg, hk⟩ := hv
  have hg' : Value.group (.table table'? sections') k.group = .table origin? entries :=
    congrArg (Option.getD · _) hg
  have hread (l : Key) (hl : l.group = k.group) : ∃ s, l.Reads (l.valueIn fun l => entries.lookup l.name) s := by
    by_cases hlk : l = k
    case pos =>
      subst hlk
      rwa [Key.valueIn, hk]
    case neg =>
      have hn := h.name l.name <| mt Key.name_injective hlk
      rw [hg'] at hn
      rw [Key.valueIn, show entries.lookup l.name = _ from hn.symm, ← hl]
      exact exists_reads_of_ofValue_eq_ok hs l
  have hsection (l : Key) : ∃ s, l.ReadsSection (sections'.lookup l.group) s := by
    by_cases hl : l.group = k.group
    case pos =>
      rw [hl, show sections'.lookup k.group = _ from hg,
        exists_readsSection_iff_of_shows <| showsGroup_table l origin? entries]
      exact fun m hm => hread m <| hm.trans hl
    case neg => exact ⟨s, h.group _ hl ▸ ofValue_table_eq_ok_iff.mp hs l⟩
  obtain ⟨s, hs⟩ := exists_ofValue_table_eq_ok_iff.mpr hsection
  refine ⟨s, hs, ?_⟩
  have hks : k.ReadsSection (some (.table origin? entries)) s := hg ▸ ofValue_table_eq_ok_iff.mp hs k
  have hkr := (readsSection_iff_of_shows <| showsGroup_table k origin? entries).mp hks k rfl
  rwa [Key.valueIn, hk] at hkr

-- The settings can be loaded from the other layers: in the environment as the file of assignments leaves it, they
-- can when only this variable is unset or has another value, and the other variables come in the same order.
theorem load_settles {order : Layer → Layer} (hp : ∀ layer, (order layer).Perm layer)
    (hk : k.kind = .text) (hn : (env.map Prod.fst).Nodup)
    (ht : env.find? k.variableName = some t) (_ : t ≠ []) (_ : '\x00' ∉ t)
    (hset : env.withFile? tree = some set) (hs : k.Spared <| set.erase k.variableName)
    (he : env'.erase k.variableName = set.erase k.variableName)
    (hv : others k (order <| ofEnvironment env') = others k (leeway.environment <| ofEnvironment set))
    (ho : ofLayers { leeway with environment := order, environment_perm := hp } tree env' file? = .ok s) :
    ∃ s u, load tree env file? leeway = .ok s ∧ s.get k = .text u ∧ Settles t u := by
  obtain ⟨base, ofMode, ofFile, hbase, hmode, hfile, ho⟩ := ofLayers_eq_ok_iff_apply.mp ho
  have ht : set.find? k.variableName = some t := by
    rw [Environment.find?_withFile? hset, Environment.valueOf?, ht, Option.some_or]
  let below := stack [defaults, base, ofMode, ofFile]
  have hagrees : AgreesBut k (apply below (order <| ofEnvironment env'))
      (apply below (leeway.environment <| ofEnvironment set)) := by
    have h := (he ▸ hs).agreesBut_apply (hp <| ofEnvironment env') below
    have h' := hs.agreesBut_apply (leeway.environment_perm _) below
    exact (hv ▸ h).trans h'.symm
  have hhas := hs.has_apply (Environment.nodup_withFile? hn hset) ht (leeway.environment_perm _) below
  obtain ⟨u, htu, hu⟩ := exists_reads_ofVariable_iff hk t
  have htable (layer : Layer) : ∃ origin? entries, apply below layer = .table origin? entries :=
    exists_apply_eq_table (exists_stack_eq_table _) _
  have hr : ∃ s, k.Reads (ofVariable t) s := by
    obtain ⟨s, hs⟩ := exists_get_eq_text hk u
    exact ⟨s, (hu s).mpr hs⟩
  obtain ⟨s, hl, hr⟩ := exists_ofValue_eq_ok hagrees hhas hr (htable _) (htable _) ho
  refine ⟨s, u, ?_, (hu s).mp hr, htu⟩
  rw [load_of_withFile? hset, ofLayers_eq_ok_iff_apply, runMode_eq_of_erase_eq he]
  exact ⟨base, ofMode, ofFile, hbase, hmode, hfile, hl⟩

-- A number that is read from the text is written down without its sign, and with a digit in front of the point. What
-- the file says of the extension could not be read, and the variables come in another order.
theorem load_settles_half :
    let leeway : Leeway := { environment := List.reverse, environment_perm := List.reverse_perm }
    let tree : FileTree := ⟨[], [
      (["config"], .folder),
      (["config", "default.json"], .file (Text.toUtf8 "\x7b\"views\":\x7b\"extension\":[]\x7d\x7d"))]⟩
    let env : Environment := [("ARA__LOGGING__FORMAT", "json"), ("ARA__VIEWS__EXTENSION", "+.5")]
    (env.map Prod.fst).Nodup ∧ env.find? "ARA__VIEWS__EXTENSION" = some "+.5".toList ∧
      env.withFile? tree = some env ∧ ∃ s, load tree env none leeway = .ok s ∧ s.get .extension = .text "0.5" := by
  intro leeway tree env
  let env' : Environment := [("ARA__LOGGING__FORMAT", "json"), ("ARA__VIEWS__EXTENSION", "html")]
  have hn : (env.map Prod.fst).Nodup := by decide
  have ht : env.find? Key.extension.variableName = some "+.5".toList := by decide +kernel
  have hset : env.withFile? tree = some env := by decide +kernel
  let rest : Environment := [("ARA__LOGGING__FORMAT", "json")]
  have hw : Dictionary.erase Key.extension.variableName env = rest := by decide +kernel
  have hs : Key.Spared .extension <| Dictionary.erase Key.extension.variableName env := by
    rw [hw]
    intro e hm key hk
    obtain rfl := List.mem_singleton.mp hm
    obtain rfl : Key.format.dotted = key := Option.some.inj <| (keyOfVariable?_variableName .format).symm.trans hk
    exact ofKey_dotted .format ▸ fun h => absurd h (by decide)
  have he : Dictionary.erase Key.extension.variableName env' = Dictionary.erase Key.extension.variableName env := by
    decide +kernel
  have hv : others .extension (id <| ofEnvironment env') =
      others .extension (leeway.environment <| ofEnvironment env) := by
    decide +kernel
  have ho : ofLayers { leeway with environment := id, environment_perm := fun _ => .rfl } tree env' none =
      .ok { logging := { format := .json } } := by
    decide +kernel
  obtain ⟨s, u, hl, hg, hu⟩ := load_settles (fun _ => .rfl) rfl hn ht (by decide) (by decide) hset hs he hv ho
  have hu' : Settles "+.5" "0.5" := by
    have hx : double? "+.5" = some (.finite false 4503599627370496 (-53)) := by decide +kernel
    have hr : Layout.plain.render (.finite false 4503599627370496 (-53)) = "0.5".toList := by decide +kernel
    exact hr ▸ .real (by decide) hx
  exact ⟨hn, ht, hset, s, hl, hu.unique hu' ▸ hg⟩

-- A number loses the zeros in front of it, though nothing else sets anything. A text is kept, but not when a
-- variable whose name is spelled in another way comes after it.
theorem not_forall_get_eq_text :
    (¬ ∀ (leeway : Leeway) (tree : FileTree) (env set : Environment) (file? : Option Path) (k : Key) (t : Text),
      k.kind = .text → t ≠ [] → '\x00' ∉ t → (env.map Prod.fst).Nodup → env.find? k.variableName = some t →
      env.withFile? tree = some set → (∀ e ∈ set.erase k.variableName, keyOfVariable? e.fst = none) →
      (∃ s, ofLayers leeway tree (set.erase k.variableName) file? = .ok s) →
      ∃ s, load tree env file? leeway = .ok s ∧ s.get k = .text t) ∧
    ¬ ∀ (leeway : Leeway) (tree : FileTree) (env set : Environment) (file? : Option Path) (k : Key) (t : Text),
      k.kind = .text → t ≠ [] → '\x00' ∉ t → Settles t t → (env.map Prod.fst).Nodup →
      env.find? k.variableName = some t → env.withFile? tree = some set →
      (∃ s, ofLayers leeway tree (set.erase k.variableName) file? = .ok s) →
      ∃ s, load tree env file? leeway = .ok s ∧ s.get k = .text t := by
  let tree : FileTree := ⟨[], []⟩
  constructor
  case left =>
    intro h
    let env : Environment := [("ARA__VIEWS__EXTENSION", "007")]
    have hl : load tree env none = .ok { views := { extension := "7" } } := by decide +kernel
    obtain ⟨s, hs, hg⟩ := h .plain tree env env none .extension "007" rfl (by decide) (by decide) (by decide) (by decide)
      (by decide +kernel) (by decide) ⟨{}, by decide +kernel⟩
    obtain rfl := Except.ok.inj <| hl.symm.trans hs
    exact absurd hg (by decide)
  case right =>
    intro h
    let env : Environment := [("ARA__VIEWS__EXTENSION", "a"), ("Ara__Views__Extension", "b")]
    have hl : load tree env none = .ok { views := { extension := "b" } } := by decide +kernel
    have ht : Settles "a" "a" :=
      .verbatim (fun b => by cases b <;> decide) (by decide) (double?_cons_eq_none (by decide) (by decide))
    obtain ⟨s, hs, hg⟩ := h .plain tree env env none .extension "a" rfl (by decide) (by decide) ht (by decide) (by decide)
      (by decide +kernel) ⟨{ views := { extension := "b" } }, by decide +kernel⟩
    obtain rfl := Except.ok.inj <| hl.symm.trans hs
    exact absurd hg (by decide)

end Stencil.Settings
