import Stencil.Proofs.Route.Registry

/-!
The pattern that a registry has for a name. Names may be used again, so it is that of the last route that was
accepted under the name (`Registry.Named`); a request that is refused has no part in it.
-/
namespace Stencil.Registry

variable {g : Registry} {routes : List Route} {r : Route} {name pattern : Text}

-- The last of some routes that bears the name.
def Latest (name : Text) (routes : List Route) (r : Route) : Prop :=
  ∃ before after, routes = before ++ r :: after ∧ r.name? = some name ∧ ∀ s ∈ after, s.name? ≠ some name

-- The registry goes by the last of these routes.
def Named (g : Registry) (routes : List Route) : Prop :=
  ∀ name, g.uriFor? name = (routes.reverse.find? (·.name? = some name)).map Route.pattern

theorem latest_iff : Latest name routes r ↔ routes.reverse.find? (·.name? = some name) = some r := by
  rw [List.find?_eq_some_iff_append]
  constructor
  case mp =>
    rintro ⟨before, after, rfl, hr, ha⟩
    exact ⟨by simpa using hr, after.reverse, before.reverse, by simp, by simpa using ha⟩
  case mpr =>
    rintro ⟨hr, after, before, he, ha⟩
    refine ⟨before.reverse, after.reverse, ?_, by simpa using hr, by simpa using ha⟩
    simpa using congrArg List.reverse he

theorem empty_named (messages : Messages) : (empty messages).Named [] :=
  fun _ => rfl

namespace Named

theorem accept (h : g.Named routes) (r : Route) : (g.accept r).Named (routes ++ [r]) := by
  intro name
  have hg := h name
  unfold uriFor? at hg ⊢
  rw [List.reverse_append, List.reverse_singleton, List.singleton_append, List.find?_cons]
  cases hr : r.name?
  case none => simpa [Registry.accept, hr] using hg
  case some other =>
    by_cases hn : other = name
    case pos => simp [Registry.accept, hr, hn, Dictionary.find?_insert]
    case neg => simpa [Registry.accept, hr, hn, Dictionary.find?_insert, Ne.symm hn] using hg

theorem register (h : g.Named routes) (now : Instant) (q : Request) :
    (g.register now q).fst.Named (routes ++ (g.register now q).snd.result.toOption.toList) :=
  register_of_accept h fun r _ => h.accept r

theorem registerAll (h : g.Named routes) (calls : List (Instant × Request)) :
    (g.registerAll calls).fst.Named (routes ++ (g.registerAll calls).snd.filterMap Except.toOption) :=
  registerAll_of_register (fun h => h.register) h calls

theorem uriFor?_eq_some_iff (h : g.Named routes) :
    g.uriFor? name = some pattern ↔ ∃ r, Latest name routes r ∧ r.pattern = pattern := by
  simp only [h name, Option.map_eq_some_iff, latest_iff]

theorem uriFor?_eq_none_iff (h : g.Named routes) :
    g.uriFor? name = none ↔ ∀ r ∈ routes, r.name? ≠ some name := by
  simp [h name]

end Named

-- A fresh registry after any requests, and the routes that it answered with.
theorem uriFor?_registerAll (messages : Messages) (calls : List (Instant × Request)) (name : Text) :
    let (g, answers) := (empty messages).registerAll calls
    let routes := answers.filterMap Except.toOption
    (∀ pattern, g.uriFor? name = some pattern ↔ ∃ r, Latest name routes r ∧ r.pattern = pattern) ∧
    (g.uriFor? name = none ↔ ∀ r ∈ routes, r.name? ≠ some name) ∧
    ∀ now q e, (g.register now q).snd.result = .error e →
      (g.register now q).fst.uriFor? name = g.uriFor? name := by
  have h := (empty_named messages).registerAll calls
  rw [List.nil_append] at h
  exact ⟨fun _ => h.uriFor?_eq_some_iff, h.uriFor?_eq_none_iff,
    fun now q e he => by rw [register_fst_of_error he]⟩

end Stencil.Registry
