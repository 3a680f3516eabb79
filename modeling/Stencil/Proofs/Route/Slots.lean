import Stencil.Proofs.Route.Registry
import Stencil.Proofs.Text.Distinct

/-!
A route takes a slot, and it conflicts with the routes that take the same one. A registry keeps for every
slot the first route that it was asked for, so the order of the requests decides which route that is, but
not whether there is one.
-/
namespace Stencil

-- What requests are told apart by.
inductive Route.Slot
  | get (uri : Text) (params : Nat)
  | post (uri : Text) (params : List Text)
deriving DecidableEq

namespace Route

variable {r s : Route}

def slot (r : Route) : Slot :=
  match r.method with
  | .get => .get r.uri r.params.length
  | .post => .post r.uri r.params

theorem conflicts_iff_slot_eq : r.conflicts s ↔ r.slot = s.slot := by
  unfold conflicts slot
  cases hr : r.method <;> cases hs : s.method <;> simp

-- The instant is written down and not looked at.
theorem build_eq_map (now now' : Instant) (method : Method) (pattern handler : Text) (name? : Option Text) :
    build now method pattern handler name? =
      (build now' method pattern handler name?).map fun r => { r with registeredAt := now } := by
  unfold build
  cases Handler.parse handler
  case error => rfl
  case ok handler =>
    cases normalize pattern
    case error => rfl
    case ok pattern =>
      cases hs : Segment.parseAll (slices pattern) <;> simp [bind, Except.bind, pure, Except.pure, Except.map, hs]

end Route

namespace Registry

variable {g : Registry} {routes : List Route} {r : Route} {now : Instant} {q : Request}
variable {calls calls' : List (Instant × Request)}

-- The routes of the requests that are good for one.
def asked (calls : List (Instant × Request)) : List Route :=
  calls.filterMap fun call => (call.snd.build call.fst).toOption

theorem asked_cons_of_error {e : Route.Error} (h : q.build now = .error e) :
    asked ((now, q) :: calls) = asked calls := by
  simp [asked, h, Except.toOption]

theorem asked_cons_of_ok (h : q.build now = .ok r) : asked ((now, q) :: calls) = r :: asked calls := by
  simp [asked, h, Except.toOption]

theorem Holds.register_eq_ok_iff_slot (h : g.Holds routes) : (g.register now q).snd.result = .ok r ↔
    q.build now = .ok r ∧ r.slot ∉ routes.map Route.slot := by
  rw [h.register_eq_ok_iff]
  refine and_congr_right fun _ => ?_
  simp only [List.mem_map, not_exists, not_and, ← Route.conflicts_iff_slot_eq, Bool.not_eq_true]

-- What is accepted depends on the slots that are taken, and on nothing else in the registry.
theorem Holds.accepted_eq (h : g.Holds routes) (calls : List (Instant × Request)) :
    (g.registerAll calls).snd.filterMap Except.toOption =
      distinctBy.go Route.slot (routes.map Route.slot) (asked calls) := by
  induction calls generalizing g routes
  case nil => rfl
  case cons call calls hi =>
    obtain ⟨now, q⟩ := call
    have hr := hi (h.register now q)
    simp only [Registry.registerAll, List.filterMap_cons]
    cases hx : (g.register now q).snd.result
    case ok r =>
      obtain ⟨hb, hs⟩ := h.register_eq_ok_iff_slot.mp hx
      have hg : distinctBy.go Route.slot ((routes ++ [r]).map Route.slot) (asked calls) =
          distinctBy.go Route.slot (r.slot :: routes.map Route.slot) (asked calls) :=
        distinctBy_go_congr fun k => by simp [or_comm]
      rw [asked_cons_of_ok hb, distinctBy.go, if_neg hs, ← hg]
      simpa [hx, Except.toOption] using hr
    case error e =>
      have hn : distinctBy.go Route.slot (routes.map Route.slot) (asked ((now, q) :: calls)) =
          distinctBy.go Route.slot (routes.map Route.slot) (asked calls) := by
        cases hb : q.build now
        case error => rw [asked_cons_of_error hb]
        case ok r =>
          have hs : r.slot ∈ routes.map Route.slot := by
            by_contra hs
            simp [h.register_eq_ok_iff_slot.mpr ⟨hb, hs⟩] at hx
          rw [asked_cons_of_ok hb, distinctBy.go, if_pos hs]
      rw [hn]
      simpa [hx, Except.toOption] using hr

theorem routes_registerAll_empty (messages : Messages) (calls : List (Instant × Request)) :
    ((empty messages).registerAll calls).fst.routes = distinctBy Route.slot (asked calls) := by
  have h := (empty_holds messages).registerAll calls
  rw [List.nil_append, (empty_holds messages).accepted_eq calls] at h
  exact h.routes_eq (.refl _)

-- The slot that a request is for.
def Request.slot? (q : Request) : Option Route.Slot :=
  (q.build .epoch).toOption.map Route.slot

theorem map_slot_asked (calls : List (Instant × Request)) :
    (asked calls).map Route.slot = (calls.map Prod.snd).filterMap Request.slot? := by
  have h (call : Instant × Request) :
      (call.snd.build call.fst).toOption.map Route.slot = call.snd.slot? := by
    rw [Request.slot?, Request.build, Request.build, Route.build_eq_map call.fst .epoch]
    cases Route.build .epoch call.snd.method call.snd.pattern call.snd.handler call.snd.name? <;> rfl
  simp only [asked, List.map_filterMap, List.filterMap_map, Function.comp_def, h]

theorem slots_perm (h : (calls.map Prod.snd).Perm (calls'.map Prod.snd)) :
    ((distinctBy Route.slot (asked calls)).map Route.slot).Perm
      ((distinctBy Route.slot (asked calls')).map Route.slot) := by
  refine (List.perm_ext_iff_of_nodup (nodup_map_distinctBy ..) (nodup_map_distinctBy ..)).mpr fun k => ?_
  rw [mem_map_distinctBy, mem_map_distinctBy, map_slot_asked, map_slot_asked]
  exact (h.filterMap Request.slot?).mem_iff

theorem countP_registerAll_empty (messages : Messages) (calls : List (Instant × Request)) :
    ((empty messages).registerAll calls).snd.countP Except.isOk =
      ((distinctBy Route.slot (asked calls)).map Route.slot).length := by
  have hok : (fun answer : Except Route.Error Route => answer.isOk) = fun answer => answer.toOption.isSome := by
    funext answer
    cases answer <;> rfl
  calc
    _ = (((empty messages).registerAll calls).snd.filterMap Except.toOption).length := by
      rw [List.length_filterMap_eq_countP, ← hok]
    _ = (distinctBy Route.slot (asked calls)).length := by rw [(empty_holds messages).accepted_eq calls]; rfl
    _ = _ := (List.length_map ..).symm

-- Requests in two orders, each at instants of its own. For every slot there is at most one route, the first
-- that was asked for.
theorem registerAll_perm (messages : Messages) (h : (calls.map Prod.snd).Perm (calls'.map Prod.snd)) :
    let (g, answers) := (empty messages).registerAll calls
    let (g', answers') := (empty messages).registerAll calls'
    answers.countP Except.isOk = answers'.countP Except.isOk ∧
    (∀ k, k ∈ g.routes.map Route.slot ↔ k ∈ g'.routes.map Route.slot) ∧
    ∀ k, g.routes.filter (·.slot = k) = ((asked calls).find? (·.slot = k)).toList ∧
      g'.routes.filter (·.slot = k) = ((asked calls').find? (·.slot = k)).toList := by
  have hs := slots_perm h
  simp only [routes_registerAll_empty, countP_registerAll_empty]
  exact ⟨hs.length_eq, fun k => hs.mem_iff, fun k => ⟨filter_distinctBy .., filter_distinctBy ..⟩⟩

-- Two requests for one slot come in either order; a third one has a slot of its own and a fourth one none.
theorem registerAll_perm_handlers :
    let shown : Request := ⟨.get, "/users/{id}", "Users@show", none⟩
    let other : Request := ⟨.get, "users/{name}", "Other@show", some "other"⟩
    let saved : Request := ⟨.post, "/users/{id}", "Users@save", none⟩
    let bad : Request := ⟨.get, "/users", "Users", none⟩
    let later : Instant := ⟨2024, 2, 29, 12, 0, 0, 0⟩
    let x := (empty {}).registerAll [(.epoch, shown), (.epoch, other), (later, saved), (later, bad)]
    let y := (empty {}).registerAll [(.epoch, bad), (.epoch, other), (later, saved), (later, shown)]
    x.snd.countP Except.isOk = y.snd.countP Except.isOk ∧
    (∀ k, k ∈ x.fst.routes.map Route.slot ↔ k ∈ y.fst.routes.map Route.slot) ∧
    x.fst.routes.map (·.handler.text) = ["Users@show", "Users@save"] ∧
    y.fst.routes.map (·.handler.text) = ["Other@show", "Users@save"] := by
  intro shown other saved bad later x y
  have hp : ([(Instant.epoch, shown), (.epoch, other), (later, saved), (later, bad)].map Prod.snd).Perm
      ([(Instant.epoch, bad), (.epoch, other), (later, saved), (later, shown)].map Prod.snd) := by decide
  have h := registerAll_perm {} hp
  refine ⟨h.left, h.right.left, ?_, ?_⟩
  · rw [routes_registerAll_empty]
    decide +kernel
  · rw [routes_registerAll_empty]
    decide +kernel

end Registry
end Stencil
