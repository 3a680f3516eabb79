import Stencil.Proofs.Directive.Variable
import Stencil.Proofs.View.Failure
import Stencil.Proofs.View.Unfolding
import Stencil.View.Renderer

/-!
What a render counts. It ends in one of three ways (`Renderer.Renders`) and notes down which; what it has
noted down before comes from the expansion and, when that got to its end, from the substitution.
-/
namespace Stencil.View

open Directive Text

theorem isSome_text?_iff {b : Bindings} {name : Text} :
    (b.text? name).isSome ↔ ∃ value, b.find? name = some value ∧ value ≠ .null := by
  unfold Bindings.text?
  cases b.find? name
  case none => simp
  case some value => cases value <;> simp

theorem count_binding_substitutionNotes (b : Bindings) (t : Text) :
    (substitutionNotes b t).count .binding = {raw | ∃ v ∈ Variable.recogniser.items t, v.raw = raw ∧
      ∃ value, b.find? v.name = some value ∧ value ≠ .null}.ncard := by
  have h := Variable.recogniser_reads.countP_distinctBy_raw (fun v => (b.text? v.name).isSome) t
  simp only [isSome_text?_iff] at h
  refine Eq.trans ?_ h
  rw [substitutionNotes, Journal.count, List.countP_map]
  refine List.countP_congr fun v _ => ?_
  cases hb : (b.text? v.name).isSome <;> simp [hb, Note.counter?]

theorem count_substitutionNotes_eq_zero {c : Counter} (hb : c ≠ .binding) (hd : c ≠ .default) (b : Bindings)
    (t : Text) : (substitutionNotes b t).count c = 0 := by
  refine Journal.count_eq_zero fun n hn => ?_
  obtain ⟨v, -, rfl⟩ := List.mem_map.mp hn
  split <;> simp [Note.counter?, hb.symm, hd.symm]

-- Every note is for a bound variable or for one that is not.
theorem count_variables_substitutionNotes (b : Bindings) (t : Text) :
    (substitutionNotes b t).count .binding + (substitutionNotes b t).count .default =
      {raw | ∃ v ∈ Variable.recogniser.items t, v.raw = raw}.ncard := by
  have h := Variable.recogniser_reads.countP_distinctBy_raw (fun _ => true) t
  simp only [and_true, List.countP_true] at h
  refine Eq.trans ?_ h
  let bound (n : Note) : Bool := n.counter? = some .binding
  have hd : (substitutionNotes b t).count .default = (substitutionNotes b t).countP fun n => ¬ bound n := by
    refine List.countP_congr fun n hn => ?_
    obtain ⟨v, -, rfl⟩ := List.mem_map.mp hn
    split <;> simp [bound, Note.counter?]
  rw [hd, Journal.count, ← List.length_eq_countP_add_countP, substitutionNotes, List.length_map]
  rfl

namespace Site

variable {c : Counter}

theorem OfExpansion.counter?_ne {n : Note} (h : OfExpansion n) (hi : c ≠ .included) (hm : c ≠ .missing) :
    n.counter? ≠ some c := by
  cases h <;> simp [Note.counter?, hi.symm, hm.symm]

theorem count_expand_eq_zero (hi : c ≠ .included) (hm : c ≠ .missing) (s : Site) (limit : Nat) (path : Path) :
    (s.expand limit path).journal.count c = 0 :=
  Journal.count_eq_zero fun n hn => ((s.expand_within limit path).note n hn).counter?_ne hi hm

end Site

namespace Renderer

variable {r : Renderer} {tree : FileTree} {name : Text} {b : Bindings} {x : Recorded Error Text}

-- What a render of a view that is there starts with.
def expanded (r : Renderer) (tree : FileTree) (name : Text) : Recorded Error (Option Text) :=
  Site.expand ⟨tree, r.resolver⟩ r.maxDepth (r.resolver.resolve name)

-- The ways for a render to end, with all the notes that it has taken then.
inductive Renders (r : Renderer) (tree : FileTree) (name : Text) (b : Bindings) : Recorded Error Text → Prop
  | missing :
    tree.isFile (r.resolver.resolve name) = false →
    Renders r tree name b ⟨[.viewMissing (r.resolver.resolve name), .renderNotFound], .error (r.notFound name)⟩
  | failed {e : Error} :
    tree.isFile (r.resolver.resolve name) → (r.expanded tree name).result = .error e →
    (∀ name message code, e ≠ .notFound name message code) →
    Renders r tree name b ⟨(r.expanded tree name).journal ++ [.renderFailed], .error e⟩
  | done {t : Text} :
    tree.isFile (r.resolver.resolve name) → (r.expanded tree name).result = .ok (some t) →
    Renders r tree name b ⟨(r.expanded tree name).journal ++ substitutionNotes b t ++
      [.rendered (substitute b t).byteLength], .ok (substitute b t)⟩

theorem outcome_error {e : Error} (h : ∀ name message code, e ≠ .notFound name message code) :
    outcome (.error e) = .renderFailed := by
  cases e
  case notFound => exact absurd rfl (h _ _ _)
  all_goals rfl

theorem compile_of_isFile (hf : tree.isFile (r.resolver.resolve name)) :
    r.compile tree name b = (r.expanded tree name) >>= fun t? =>
      match t? with
      | none => Recorded.fail (r.notFound name)
      | some t => ⟨substitutionNotes b t, .ok (substitute b t)⟩ := by
  simp only [compile, hf, Bool.not_true, Bool.false_eq_true, if_false]
  rfl

-- A view that is there when it is looked for is there when it is read, and an expansion does not fail for a
-- view that is not.
theorem renders (r : Renderer) (tree : FileTree) (name : Text) (b : Bindings) :
    r.Renders tree name b (r.render tree name b) := by
  cases hf : tree.isFile (r.resolver.resolve name)
  case false =>
    have hc : r.compile tree name b = ⟨[.viewMissing (r.resolver.resolve name)], .error (r.notFound name)⟩ := by
      simp only [compile, hf]
      rfl
    rw [render, hc]
    exact .missing hf
  case true =>
    rw [render, compile_of_isFile hf]
    cases hx : (r.expanded tree name).result
    case error e =>
      have hn : ∀ name message code, e ≠ .notFound name message code := by
        rintro _ _ _ rfl
        exact (Site.expand_within ..).error _ hx
      rw [Recorded.bind_of_error hx, outcome_error hn]
      exact .failed hf hx hn
    case ok t? =>
      cases t?
      case none => exact absurd (Site.expandBelow_eq_ok_none_iff.mp hx) (Site.read_ne_none hf)
      case some t =>
        rw [Recorded.bind_of_ok hx]
        exact .done hf hx

namespace Renders

variable {c : Counter}

theorem count_outcome (h : r.Renders tree name b x) (hc : c ∈ [.ok, .notFound, .error]) :
    x.journal.count c = Journal.count c [outcome x.result] := by
  have hs : c ≠ .included ∧ c ≠ .missing ∧ c ≠ .binding ∧ c ≠ .default := by revert c; decide
  have ⟨hi, hm, hb, hd⟩ := hs
  have hz : (r.expanded tree name).journal.count c = 0 := Site.count_expand_eq_zero hi hm ..
  cases h
  case missing => simp [outcome, notFound, Journal.count, Note.counter?]
  case failed hn => rw [Journal.count_append, hz, outcome_error hn, Nat.zero_add]
  case done =>
    rw [Journal.count_append, Journal.count_append, hz, count_substitutionNotes_eq_zero hb hd, Nat.zero_add]
    rfl

theorem notFound_iff (h : r.Renders tree name b x) :
    (∃ name message code, x.result = .error (.notFound name message code)) ↔
      tree.isFile (r.resolver.resolve name) = false := by
  cases h
  case missing hf => simp [hf, notFound]
  case failed hf _ hn => simpa [hf] using hn
  case done hf _ => simp [hf]

theorem count_variables_of_error {e : Error} (h : r.Renders tree name b x) (hx : x.result = .error e)
    (hc : c ∈ [.binding, .default]) : x.journal.count c = 0 := by
  have hs : c ≠ .included ∧ c ≠ .missing ∧ c ≠ .notFound ∧ c ≠ .error := by revert c; decide
  have ⟨hi, hm, hn, he⟩ := hs
  have hz : (r.expanded tree name).journal.count c = 0 := Site.count_expand_eq_zero hi hm ..
  cases h
  case missing => simp [Journal.count, Note.counter?, hn.symm]
  case failed =>
    rw [Journal.count_append, hz]
    simp [Journal.count, Note.counter?, he.symm]
  case done => cases hx

-- The substitution counts the variables, the expansion the inclusions.
theorem count_of_ok {out : Text} (h : r.Renders tree name b x) (hx : x.result = .ok out) :
    ∃ t, (r.expanded tree name).result = .ok (some t) ∧ out = substitute b t ∧
      (∀ c ∈ [.binding, .default], x.journal.count c = (substitutionNotes b t).count c) ∧
      ∀ c ∈ [.included, .missing], x.journal.count c = (r.expanded tree name).journal.count c := by
  cases h
  case missing => cases hx
  case failed => cases hx
  case done t hf he =>
    cases hx
    have hrendered {c : Counter} (hc : c ≠ .ok) : Journal.count c [.rendered (substitute b t).byteLength] = 0 :=
      (Journal.count_singleton ..).trans <| if_neg (hc <| Option.some.inj · |>.symm)
    refine ⟨t, he, rfl, fun c hc => ?_, fun c hc => ?_⟩
    · have hs : c ≠ .included ∧ c ≠ .missing ∧ c ≠ .ok := by revert c; decide
      have ⟨hi, hm, ho⟩ := hs
      have hz : (r.expanded tree name).journal.count c = 0 := Site.count_expand_eq_zero hi hm ..
      rw [Journal.count_append, Journal.count_append, hz, hrendered ho, Nat.zero_add, Nat.add_zero]
    · have hs : c ≠ .binding ∧ c ≠ .default ∧ c ≠ .ok := by revert c; decide
      have ⟨hb, hd, ho⟩ := hs
      rw [Journal.count_append, Journal.count_append, count_substitutionNotes_eq_zero hb hd, hrendered ho,
        Nat.add_zero]

end Renders

theorem count_outcome_cases (result : Except Error Text) :
    Journal.count .ok [outcome result] + Journal.count .notFound [outcome result] +
      Journal.count .error [outcome result] = 1 ∧
    (Journal.count .ok [outcome result] = 1 ↔ ∃ out, result = .ok out) ∧
    (Journal.count .notFound [outcome result] = 1 ↔
      ∃ name message code, result = .error (.notFound name message code)) := by
  cases result
  case ok => simp [outcome, Journal.count, Note.counter?]
  case error e => cases e <;> simp [outcome, Journal.count, Note.counter?]

-- What the counters say about the files that a render visits, of those that it gets to the end of.
theorem count_expand_visits {s : Site} {limit : Nat} {path : Path} {t : Text}
    (h : (s.expand limit path).result = .ok (some t)) : ∃ visits, s.Unfolds path visits ∧
      (s.expand limit path).journal.count .included + 1 = visits.length ∧
      (s.expand limit path).journal.count .missing = (visits.map fun v => (s.absent v.snd).length).sum := by
  obtain ⟨visits, hu, hp⟩ := Site.exists_unfolds_of_expandBelow_eq_ok h
  have hc (c : Counter) : (s.expand limit path).journal.count c + Journal.count c [.partialIncluded] =
      Journal.count c (visits.flatMap s.visitNotes) := by
    rw [← Journal.count_append]
    exact hp.countP_eq _
  exact ⟨visits, hu, (hc .included).trans <| Site.count_included_visits visits,
    (hc .missing).trans <| Site.count_missing_visits visits⟩

-- Every render counts once, by its outcome. If it gets to its end, then of the variables of the expanded text
-- those that read alike count once; of the inclusions it is the same in every text, but a text counts as often
-- as it is visited.
theorem render_counts (r : Renderer) (tree : FileTree) (name : Text) (b : Bindings) :
    let x := r.render tree name b
    let s : Site := ⟨tree, r.resolver⟩
    let root := r.resolver.resolve name
    let n (c : Counter) := x.journal.count c
    n .ok + n .notFound + n .error = 1 ∧
    (n .ok = 1 ↔ ∃ out, x.result = .ok out) ∧
    (n .notFound = 1 ↔ ∃ name message code, x.result = .error (.notFound name message code)) ∧
    ((∃ name message code, x.result = .error (.notFound name message code)) ↔ tree.isFile root = false) ∧
    match x.result with
    | .error _ => n .binding = 0 ∧ n .default = 0
    | .ok out => ∃ t visits, (s.expand r.maxDepth root).result = .ok (some t) ∧ out = substitute b t ∧
      n .binding + n .default = {raw | ∃ v ∈ Variable.recogniser.items t, v.raw = raw}.ncard ∧
      n .binding = {raw | ∃ v ∈ Variable.recogniser.items t, v.raw = raw ∧
        ∃ value, b.find? v.name = some value ∧ value ≠ .null}.ncard ∧
      (∀ visits', s.Unfolds root visits' ↔ visits' = visits) ∧
      n .included + 1 = visits.length ∧
      n .missing = (visits.map fun v => {raw | ∃ d ∈ Inclusion.recogniser.items v.snd, d.raw = raw ∧
        tree.isFile (s.partialPath d) = false}.ncard).sum := by
  intro x s root n
  have hx : r.Renders tree name b x := r.renders tree name b
  have ho : n .ok = _ := hx.count_outcome (by simp)
  have hn : n .notFound = _ := hx.count_outcome (by simp)
  have he : n .error = _ := hx.count_outcome (by simp)
  have ⟨hsum, hok, hmissing⟩ := count_outcome_cases x.result
  refine ⟨ho ▸ hn ▸ he ▸ hsum, ho ▸ hok, hn ▸ hmissing, hx.notFound_iff, ?_⟩
  cases hr : x.result
  case error e => exact ⟨hx.count_variables_of_error hr (by simp), hx.count_variables_of_error hr (by simp)⟩
  case ok out =>
    obtain ⟨t, ht, hout, hvariables, hinclusions⟩ := hx.count_of_ok hr
    obtain ⟨visits, hu, hincluded, habsent⟩ := count_expand_visits ht
    have hbinding : n .binding = _ := hvariables _ (by simp)
    have hdefault : n .default = _ := hvariables _ (by simp)
    have hi : n .included = _ := hinclusions _ (by simp)
    have hm : n .missing = _ := hinclusions _ (by simp)
    refine ⟨t, visits, ht, hout, ?_, ?_, fun _ => ⟨fun h => h.unique hu, (· ▸ hu)⟩, hi ▸ hincluded, ?_⟩
    · rw [hbinding, hdefault, count_variables_substitutionNotes]
    · rw [hbinding, count_binding_substitutionNotes]
    · simp only [Site.length_absent] at habsent
      exact hm.trans habsent

-- The last file is visited on two ways, and what it does not find is only looked for once on each.
example :
    let tree : FileTree := ⟨[], [(["a"], .file (toUtf8 "## include('b') #### include('c') ##")),
      (["b"], .file (toUtf8 "## include('d') ##")), (["c"], .file (toUtf8 "## include('d') ##")),
      (["d"], .file (toUtf8 "## include('m') #### include('m') ##"))]⟩
    let x := Renderer.render ⟨⟨⟨[]⟩, []⟩, 8, {}⟩ tree "a" ⟨[]⟩
    x.journal.count .included = 4 ∧ x.journal.count .missing = 2 := by
  decide +kernel

end Renderer
end Stencil.View
