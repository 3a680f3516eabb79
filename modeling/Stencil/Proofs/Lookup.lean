import Mathlib.Data.List.Nodup

/-!
Lists in which no two items have the same key. What is found under a key does not hang on the order of the items
(`Stencil.lookup_eq_of_perm`).
-/
namespace Stencil

variable {α β γ : Type} [DecidableEq β] {f : α → β} {l : List α} {a : α} {b : β}

theorem find?_eq_some_iff_of_nodup (hn : (l.map f).Nodup) : l.find? (f · = b) = some a ↔ a ∈ l ∧ f a = b := by
  constructor
  case mp => exact fun h => ⟨List.mem_of_find?_eq_some h, by simpa using List.find?_some h⟩
  case mpr =>
    rintro ⟨ha, rfl⟩
    cases h : l.find? (f · = f a)
    case none => simpa using List.find?_eq_none.mp h a ha
    case some a' =>
      have hf : f a' = f a := by simpa using List.find?_some h
      rw [List.inj_on_of_nodup_map hn (List.mem_of_find?_eq_some h) ha hf]

theorem lookup_map_eq [BEq β] [LawfulBEq β] (f : α → β) (g : α → γ) (l : List α) (b : β) :
    (l.map fun a => (f a, g a)).lookup b = (l.find? (f · = b)).map g := by
  induction l
  case nil => rfl
  case cons a l hi =>
    rw [List.map_cons, List.lookup_cons, List.find?_cons, hi]
    by_cases ha : b = f a
    case pos => simp [ha]
    case neg => simp [beq_eq_false_iff_ne.mpr ha, Ne.symm ha]

theorem lookup_eq_some_iff_of_nodup [BEq β] [LawfulBEq β] {l : List (β × γ)} (hn : (l.map Prod.fst).Nodup)
    {c : γ} : l.lookup b = some c ↔ (b, c) ∈ l := by
  have h : l.lookup b = (l.find? (·.fst = b)).map Prod.snd := by
    simpa using lookup_map_eq Prod.fst Prod.snd l b
  rw [h, Option.map_eq_some_iff]
  constructor
  case mp =>
    rintro ⟨a, ha, rfl⟩
    obtain ⟨hm, rfl⟩ := (find?_eq_some_iff_of_nodup hn).mp ha
    exact hm
  case mpr => exact fun hm => ⟨(b, c), (find?_eq_some_iff_of_nodup hn).mpr ⟨hm, rfl⟩, rfl⟩

theorem lookup_eq_of_perm [BEq β] [LawfulBEq β] {l l' : List (β × γ)} (hp : l.Perm l')
    (hn : (l'.map Prod.fst).Nodup) (b : β) : l.lookup b = l'.lookup b := by
  have hn' : (l.map Prod.fst).Nodup := (hp.map Prod.fst).nodup_iff.mpr hn
  refine Option.ext fun c => ?_
  rw [lookup_eq_some_iff_of_nodup hn, lookup_eq_some_iff_of_nodup hn', hp.mem_iff]

end Stencil
