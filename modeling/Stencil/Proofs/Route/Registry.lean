import Mathlib.Data.List.Nodup
import Stencil.Proofs.Dictionary
import Stencil.Proofs.Journal
import Stencil.Route.Registry

/-!
A registry keeps its routes in buckets, but it answers as if they stood in one list in the order in
which they were accepted. `Registry.Holds` relates the two; a request that is accepted adds one route to
the end of the list, and one that is refused changes nothing.
-/
namespace Stencil.Registry

variable {g : Registry} {routes : List Route} {r : Route} {now : Instant} {q : Request} {e : Route.Error}

-- Routes with their numbers in order of acceptance.
def number (routes : List Route) : List (Nat × Route) :=
  routes.mapIdx Prod.mk

@[simp]
theorem number_concat (routes : List Route) (r : Route) :
    number (routes ++ [r]) = number routes ++ [(routes.length, r)] := by
  simp [number]

@[simp]
theorem map_snd_number (routes : List Route) : (number routes).map Prod.snd = routes := by
  simp [number, List.mapIdx_eq_zipIdx_map, Function.comp_def]

@[simp]
theorem length_number (routes : List Route) : (number routes).length = routes.length := by
  simp [number]

theorem number_pairwise_lt (routes : List Route) : (number routes).Pairwise fun a b => a.fst < b.fst := by
  simp +contextual [number, List.pairwise_iff_getElem]

theorem eq_of_mem_number {a b : Nat × Route} (ha : a ∈ number routes) (hb : b ∈ number routes)
    (h : a.fst = b.fst) : a = b := by
  have hn : ((number routes).map Prod.fst).Nodup :=
    List.pairwise_map.mpr <| (number_pairwise_lt routes).imp Nat.ne_of_lt
  exact List.inj_on_of_nodup_map hn ha hb h

-- The registry stands for this list of routes.
structure Holds (g : Registry) (routes : List Route) : Prop where
  ordered : g.buckets.Ordered
  next : g.next = routes.length
  bucket : ∀ uri, g.bucket uri = (number routes).filter fun entry => entry.snd.uri = uri
  numbered : g.numbered.Perm (number routes)
  apart : routes.Pairwise fun r s => r.conflicts s = false

theorem empty_holds (messages : Messages) : (empty messages).Holds [] where
  ordered := .nil
  next := rfl
  bucket _ := rfl
  numbered := .nil
  apart := .nil

namespace Holds

-- The numbers put the routes back into order, in whatever order the buckets are gone through.
theorem routes_eq (h : g.Holds routes) {buckets : Dictionary Bucket} (hb : buckets.Perm g.buckets) :
    { g with buckets }.routes = routes := by
  let le (a b : Nat × Route) : Bool := a.fst ≤ b.fst
  let entries := buckets.flatMap Prod.snd
  have hp : (entries.mergeSort le).Perm (number routes) :=
    calc
      (entries.mergeSort le).Perm entries := List.mergeSort_perm ..
      entries.Perm g.numbered := hb.flatMap_right Prod.snd
      g.numbered.Perm (number routes) := h.numbered
  have hs : (entries.mergeSort le).Pairwise fun a b => le a b :=
    List.pairwise_mergeSort (by simp [le]; omega) (by simp [le]; omega) entries
  have hn : (number routes).Pairwise fun a b => le a b :=
    (number_pairwise_lt routes).imp fun h => by simpa [le] using Nat.le_of_lt h
  have he : entries.mergeSort le = number routes := by
    refine hp.eq_of_pairwise (fun a b ha hb hab hba => ?_) hs hn
    exact eq_of_mem_number (hp.mem_iff.mp ha) hb <| by simp [le] at hab hba; omega
  calc
    _ = (entries.mergeSort le).map Prod.snd := rfl
    _ = routes := by rw [he, map_snd_number]

theorem size_eq (h : g.Holds routes) : g.size = routes.length := by
  rw [size, h.numbered.length_eq, length_number]

-- Routes that conflict share their uri, so no other bucket has to be looked at.
theorem any_bucket (h : g.Holds routes) (r : Route) :
    ((g.bucket r.uri).any fun entry => entry.2.conflicts r) = routes.any (·.conflicts r) := by
  rw [h.bucket, List.any_filter]
  conv_rhs => rw [← map_snd_number routes, List.any_map]
  congr 1
  funext entry
  cases hc : entry.snd.conflicts r
  case false => simp [hc]
  case true => simp [hc, Route.uri_eq_of_conflicts hc]

theorem bucket_accept (h : g.Holds routes) (r : Route) (uri : Text) :
    (g.accept r).bucket uri = (number (routes ++ [r])).filter fun entry => entry.snd.uri = uri := by
  have hb : (g.accept r).buckets = g.buckets.insert r.uri (g.bucket r.uri ++ [(g.next, r)]) := rfl
  rw [number_concat, List.filter_append, ← h.bucket, ← h.next]
  rw [Registry.bucket, hb, Dictionary.find?_insert]
  by_cases hu : uri = r.uri
  case pos => simp [hu]
  case neg => simp [hu, Ne.symm hu, Registry.bucket]

theorem accept (h : g.Holds routes) (hr : ∀ s ∈ routes, s.conflicts r = false) :
    (g.accept r).Holds (routes ++ [r]) where
  ordered := h.ordered.insert ..
  next := by simp [Registry.accept, h.next]
  bucket := h.bucket_accept r
  numbered := by
    have hp := h.ordered.flatMap_insert_perm r.uri [(g.next, r)]
    rw [number_concat, ← h.next]
    exact hp.trans <| h.numbered.append_right _
  apart := List.pairwise_append.mpr ⟨h.apart, List.pairwise_singleton .., by simpa using hr⟩

end Holds

-- The route of a request, or why there is none, without regard to other routes.
def Request.build (now : Instant) (q : Request) : Except Route.Error Route :=
  Route.build now q.method q.pattern q.handler q.name?

theorem register_of_build_error (h : q.build now = .error e) : g.register now q = (g, .fail e) := by
  simp only [Request.build] at h
  simp only [register, h]

theorem register_of_build_ok (h : q.build now = .ok r) : g.register now q =
    if (g.bucket r.uri).any fun entry => entry.2.conflicts r then
      (g, ⟨[.routeTaken r.method.text r.pattern],
        .error (.taken r.method r.pattern g.messages.routeExists g.messages.routeExistsCode)⟩)
    else (g.accept r, ⟨[.routeAdded r.method.text r.pattern r.handler.text], .ok r⟩) := by
  simp only [Request.build] at h
  simp only [register, h]

theorem register_fst_of_error (h : (g.register now q).snd.result = .error e) :
    (g.register now q).fst = g := by
  cases hb : q.build now
  case error => rw [register_of_build_error hb]
  case ok =>
    rw [register_of_build_ok hb] at h ⊢
    split <;> simp_all

theorem register_fst_of_ok (h : (g.register now q).snd.result = .ok r) :
    (g.register now q).fst = g.accept r := by
  cases hb : q.build now
  case error => simp [register_of_build_error hb] at h
  case ok =>
    rw [register_of_build_ok hb] at h ⊢
    split <;> simp_all

-- What an accepted route keeps, of a registry and a list of routes, a request keeps with its answer.
theorem register_of_accept {p : Registry → List Route → Prop} (h : p g routes)
    (accept : ∀ r, (g.register now q).snd.result = .ok r → p (g.accept r) (routes ++ [r])) :
    p (g.register now q).fst (routes ++ (g.register now q).snd.result.toOption.toList) := by
  cases hx : (g.register now q).snd.result
  case error => simpa [Except.toOption, register_fst_of_error hx] using h
  case ok r => simpa [Except.toOption, register_fst_of_ok hx] using accept r hx

-- Registers one request after the other, each at its own instant. Gives also the answers.
def registerAll (g : Registry) : List (Instant × Request) → Registry × List (Except Route.Error Route)
  | [] => (g, [])
  | (now, q) :: rest =>
    let (g, answer) := g.register now q
    let (g, answers) := g.registerAll rest
    (g, answer.result :: answers)

-- What one request keeps, any number of requests keep.
theorem registerAll_of_register {p : Registry → List Route → Prop}
    (step : ∀ {g routes}, p g routes → ∀ now q,
      p (g.register now q).fst (routes ++ (g.register now q).snd.result.toOption.toList))
    (h : p g routes) (calls : List (Instant × Request)) :
    p (g.registerAll calls).fst (routes ++ (g.registerAll calls).snd.filterMap Except.toOption) := by
  induction calls generalizing g routes
  case nil => simpa [registerAll] using h
  case cons call calls hi =>
    have hr := hi <| step h call.fst call.snd
    cases hx : (g.register call.fst call.snd).snd.result <;>
      simpa [registerAll, hx, List.filterMap_cons, Except.toOption] using hr

theorem length_registerAll (g : Registry) (calls : List (Instant × Request)) :
    (g.registerAll calls).snd.length = calls.length := by
  induction calls generalizing g
  case nil => rfl
  case cons hi => simp [registerAll, hi]

namespace Holds

theorem register_eq_ok_iff (h : g.Holds routes) : (g.register now q).snd.result = .ok r ↔
    q.build now = .ok r ∧ ∀ s ∈ routes, s.conflicts r = false := by
  cases hb : q.build now
  case error => simp [register_of_build_error hb]
  case ok r' =>
    rw [register_of_build_ok hb, h.any_bucket]
    cases hc : routes.any (·.conflicts r')
    case false =>
      have hc : ∀ s ∈ routes, s.conflicts r' = false := by simpa using hc
      simp only [Bool.false_eq_true, if_false, Except.ok.injEq]
      exact ⟨fun he => ⟨he, he ▸ hc⟩, And.left⟩
    case true =>
      obtain ⟨s, hs, hc⟩ := List.any_eq_true.mp hc
      simp only [if_true, reduceCtorEq, false_iff, Except.ok.injEq]
      rintro ⟨rfl, hn⟩
      exact absurd hc (by simp [hn s hs])

theorem register (h : g.Holds routes) (now : Instant) (q : Request) :
    (g.register now q).fst.Holds (routes ++ (g.register now q).snd.result.toOption.toList) :=
  register_of_accept h fun _ hr => h.accept (h.register_eq_ok_iff.mp hr).right

theorem registerAll (h : g.Holds routes) (calls : List (Instant × Request)) :
    (g.registerAll calls).fst.Holds (routes ++ (g.registerAll calls).snd.filterMap Except.toOption) :=
  registerAll_of_register (fun h => h.register) h calls

end Holds

-- A fresh registry and its answers to any number of requests, against the list of the routes that it
-- answered with. The numbers do not run ahead of the requests.
theorem registerAll_refines_list (messages : Messages) (calls : List (Instant × Request)) :
    let (g, answers) := (empty messages).registerAll calls
    let routes := answers.filterMap Except.toOption
    g.routes = routes ∧ (∀ buckets, buckets.Perm g.buckets → { g with buckets }.routes = routes) ∧
    (routes.Pairwise fun r s => r.conflicts s = false) ∧
    g.size = routes.length ∧ g.isEmpty = routes.isEmpty ∧
    (∀ now q r, (g.register now q).snd.result = .ok r ↔
      q.build now = .ok r ∧ ∀ s ∈ routes, s.conflicts r = false) ∧
    (∀ now q e, (g.register now q).snd.result = .error e → (g.register now q).fst = g) ∧
    g.next ≤ calls.length := by
  have h := (empty_holds messages).registerAll calls
  rw [List.nil_append] at h
  refine ⟨h.routes_eq (.refl _), fun _ => h.routes_eq, h.apart, h.size_eq, ?isEmpty, fun now q r => h.register_eq_ok_iff,
    fun now q e => register_fst_of_error, ?next⟩
  case isEmpty => rw [isEmpty, h.size_eq, Bool.eq_iff_iff, decide_eq_true_iff, List.isEmpty_iff_length_eq_zero]
  case next =>
    calc
      _ = _ := h.next
      _ ≤ _ := List.length_filterMap_le ..
      _ = calls.length := length_registerAll ..

end Stencil.Registry
