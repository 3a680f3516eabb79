import Stencil.Proofs.Json.Printed
import Stencil.Proofs.Time.Printed
import Stencil.Route.Json

/-!
A route that is written down as JSON is read back with everything that is in it
(`Route.print_round_trip`). A name that it does not have is left out, and read back as none.
-/
namespace Stencil

open Json (Tree)

namespace Handler

-- The tree of a printed handler.
def tree (h : Handler) : Tree :=
  .object [(some "controller", .string (some h.controller)), (some "action", .string (some h.action))]

theorem ofJson?_toJson (h : Handler) : Tree.ofJson? h.toJson = some h.tree := by
  rfl

theorem ofTree?_tree (h : Handler) : ofTree? h.tree = some h := by
  rfl

end Handler

namespace Route

variable {r : Route}

-- The members of a printed route.
def trees (r : Route) : List (Option Text × Tree) :=
  let last : List (Option Text × Tree) := [(some "registered_at", .string (some r.registeredAt.print))]
  let named := match r.name? with
    | none => last
    | some name => (some "name", .string (some name)) :: last
  (some "method", .string (some r.method.text)) ::
  (some "pattern", .string (some r.pattern)) ::
  (some "uri", .string (some r.uri)) ::
  (some "params", .array (r.params.map fun p => .string (some p))) ::
  (some "handler", r.handler.tree) :: named

theorem ofItems?_map_string (texts : List Text) :
    Tree.ofItems? (texts.map Json.string) = some (texts.map fun t => .string (some t)) := by
  induction texts
  case nil => rfl
  case cons t texts hi => simp [Tree.ofItems?, Tree.ofJson?, hi]

theorem ofJson?_toJson (r : Route) : Tree.ofJson? r.toJson = some (.object r.trees) := by
  have hp := ofItems?_map_string r.params
  have hh := r.handler.ofJson?_toJson
  cases hn : r.name? <;>
    simp [toJson, members, trees, hn, Tree.ofJson?, Tree.ofMembers?, hp, hh]

theorem list?_map_string (texts : List Text) :
    Tree.list? Tree.text? (.array (texts.map fun t => .string (some t))) = some texts := by
  induction texts
  case nil => rfl
  case cons t texts hi =>
    rw [Tree.list?] at hi ⊢
    simp [Tree.text?, hi]

theorem ofText?_text (m : Method) : Method.ofText? m.text = some m := by
  cases m <;> decide

theorem ofTree?_trees (h : Instant.parse? r.registeredAt.print = some r.registeredAt) :
    ofTree? (.object r.trees) = some r := by
  have hp := list?_map_string r.params
  have hh := r.handler.ofTree?_tree
  have hm := ofText?_text r.method
  obtain ⟨method, pattern, uri, params, handler, name?, registeredAt⟩ := r
  cases name? <;>
    simp [ofTree?, trees, Tree.fields?, Tree.named?, Tree.field?, Tree.text?, Tree.word?, nameOfTree?, hp, hh, hm, h]

theorem name_mem_trees_iff (r : Route) : some ("name" : Text) ∈ r.trees.map Prod.fst ↔ r.name?.isSome := by
  cases hn : r.name? <;> simp [trees, hn]

-- The name is there exactly when the route has one, and the instant has no decimals, or three, six or nine.
theorem print_round_trip (h : r.registeredAt.isValid) (hl : 0 ≤ r.registeredAt.year)
    (hh : r.registeredAt.year ≤ 9999) :
    parse? r.print = some r ∧
    (∃ members, Tree.parse? r.print = some (.object members) ∧
      (some ("name" : Text) ∈ members.map Prod.fst ↔ r.name?.isSome)) ∧
    ∃ seconds digits, r.registeredAt.print = seconds ++ (if digits = [] then [] else '.' :: digits) ++ ['Z'] ∧
      '.' ∉ seconds ∧ digits.length ∈ [0, 3, 6, 9] ∧ ∀ c ∈ digits, c.isDigit := by
  have ht : Tree.parse? r.print = some (.object r.trees) := Tree.parse?_print r.ofJson?_toJson
  refine ⟨?_, ⟨r.trees, ht, r.name_mem_trees_iff⟩, Instant.exists_decimals hl hh⟩
  rw [parse?, ht, Option.bind_some, ofTree?_trees <| Instant.parse?_print h hl hh]

-- A route without a name, with quotes, a control character and a letter beyond ASCII, that was registered on a
-- leap day with microseconds.
theorem print_round_trip_leap_day :
    let r : Route :=
      ⟨.post, "/a\"\\\x7bé\x7d", "/\x01\n", ["é", ""], ⟨"A", "b@"⟩, none, ⟨2024, 2, 29, 23, 59, 59, 120000⟩⟩
    r.registeredAt.isValid ∧ 0 ≤ r.registeredAt.year ∧ r.registeredAt.year ≤ 9999 ∧ parse? r.print = some r := by
  intro r
  have h : r.registeredAt.isValid := by decide
  exact ⟨h, by decide, by decide, (print_round_trip h (by decide) (by decide)).left⟩

end Route
end Stencil
