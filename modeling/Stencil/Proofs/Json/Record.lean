import Mathlib.Data.List.Nodup
import Stencil.Json.Record

/-!
Records that are written as objects, with every member once. The fields of a record are those of its members
that have their names (`Json.Tree.fields?_record`).
-/
namespace Stencil.Json.Tree

variable {members : List (Text × Tree)} {name : Text} {depth : Nat}

def record (members : List (Text × Tree)) : Tree :=
  .object (members.map fun m => (some m.fst, m.snd))

theorem named?_map_some (members : List (Text × Tree)) :
    named? (members.map fun m => (some m.fst, m.snd)) = some members := by
  induction members
  case nil => rfl
  case cons m members hi =>
    rw [named?] at hi ⊢
    simp [hi]

theorem field?_of_nodup (h : (members.map Prod.fst).Nodup) (name : Text) :
    field? members name = some (members.lookup name) := by
  induction members
  case nil => rfl
  case cons m members hi =>
    obtain ⟨first, t⟩ := m
    obtain ⟨hm, hn⟩ := List.nodup_cons.mp h
    by_cases hk : name = first
    case pos =>
      subst hk
      have hf : members.filter (·.fst = name) = [] := by
        refine List.filter_eq_nil_iff.mpr fun m hl => ?_
        simp only [decide_eq_true_eq]
        rintro rfl
        exact hm <| List.mem_map.mpr ⟨m, hl, rfl⟩
      simp [field?, hf]
    case neg =>
      have hb : (name == first) = false := beq_eq_false_iff_ne.mpr hk
      rw [List.lookup_cons, hb, ← hi hn, field?, field?, List.filter_cons_of_neg (by simpa using Ne.symm hk)]

theorem fields?_record (h : (members.map Prod.fst).Nodup) (names : List Text) :
    (record members).fields? names = some (names.map (members.lookup ·)) := by
  have hf : field? members = fun name => some (members.lookup name) := funext (field?_of_nodup h)
  calc
    (record members).fields? names = names.mapM (field? members) := by
      rw [record, fields?, named?_map_some, Option.bind_eq_bind, Option.bind_some]
    _ = some (names.map (members.lookup ·)) := hf ▸ List.mapM_pure

theorem valueWithin?_record {α : Type} {items : List α} {key : α → Text} {tree : α → Tree}
    {json : α → Json} (h : ∀ a ∈ items, (tree a).valueWithin? depth = some (json a)) :
    (record <| items.map fun a => (key a, tree a)).valueWithin? (depth + 1) =
      some (.object <| Dictionary.ofEntries <| items.map fun a => (key a, json a)) := by
  have hm : membersWithin? depth (items.map fun a => (some (key a), tree a)) =
      some (items.map fun a => (key a, json a)) := by
    induction items
    case nil => rfl
    case cons a items hi =>
      obtain ⟨ha, h⟩ := List.forall_mem_cons.mp h
      simp [membersWithin?, ha, hi h]
  rw [record, List.map_map, valueWithin?]
  exact congrArg (Option.map _) hm

theorem int?_number {n : Numeral} {i low high : Int} (h : n.value? = some (.int i)) (hl : low ≤ i)
    (hh : i ≤ high) : (number n).int? low high = some i := by
  simp [int?, h, hl, hh]

end Stencil.Json.Tree
