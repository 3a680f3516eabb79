import Mathlib.Algebra.BigOperators.Group.List.Basic
import Mathlib.Tactic.Ring
import Stencil.Proofs.Text.Pieces

/-!
How often a character stands in a text after replacements. Each place where a text gives way to
another takes the characters of the one and brings in those of the other, so only the number of such
places matters.
-/
namespace Stencil.Text

open Recogniser

variable {old new t : Text} {c : Char}

-- In how many places a text is found by `replaceAll`.
def found (old t : Text) : Nat :=
  ((literal old).items t).length

theorem count_replaceAll (h : old ≠ []) (new t : Text) (c : Char) :
    ((replaceAll old new t).count c : Int) =
      t.count c + found old t * ((new.count c : Int) - old.count c) := by
  have hl := literal_lawful h
  induction t using hl.induction
  case nil => simp [found]
  case plain x t hn hi =>
    have hf : found old (x :: t) = found old t := by simp [found, items_cons hn]
    have ht : replaceAll old new (x :: t) = x :: replaceAll old new t := replaceItems_cons hn
    simp only [hf, ht, List.count_cons, Nat.cast_add, hi]
    ring
  case item a t ha hi =>
    have hf : found old (old ++ t) = found old t + 1 := by
      have := hl.items_append (a := a) (t := t) ha
      exact congrArg List.length this
    have ht : replaceAll old new (old ++ t) = new ++ replaceAll old new t := replaceAll_self_append h
    have ho : (literal old).raw a = old := rfl
    simp only [ho, hf, ht, List.count_append, Nat.cast_add, hi]
    push_cast
    ring

-- A replacement that holds no more of a character than what it replaces brings none in.
theorem count_replaceAll_le (h : old ≠ []) (hc : new.count c ≤ old.count c) (t : Text) :
    (replaceAll old new t).count c ≤ t.count c := by
  have hr := count_replaceAll h new t c
  have hn : (found old t : Int) * ((new.count c : Int) - old.count c) ≤ 0 :=
    Int.mul_nonpos_of_nonneg_of_nonpos (Int.natCast_nonneg _) (by omega)
  omega

variable {α : Type} {raw value : α → Text}

-- The text an item takes up may be rewritten any number of times: each time it only loses.
theorem count_replaceInTurn_le (hraw : ∀ a, raw a ≠ []) {items : List α}
    (hc : ∀ a ∈ items, (value a).count c ≤ (raw a).count c) (t : Text) :
    (replaceInTurn raw (some <| value ·) t items).count c ≤ t.count c := by
  induction items generalizing t
  case nil => exact Nat.le_refl _
  case cons a items hi =>
    have ⟨ha, hs⟩ := List.forall_mem_cons.mp hc
    calc (replaceInTurn raw (some <| value ·) t (a :: items)).count c
      _ = (replaceInTurn raw (some <| value ·) (replaceAll (raw a) (value a) t) items).count c := rfl
      _ ≤ (replaceAll (raw a) (value a) t).count c := hi hs _
      _ ≤ t.count c := count_replaceAll_le (hraw a) ha t

-- Items in the order in which they are replaced, each with the number of places where it is found when
-- its turn comes.
def turns (raw value : α → Text) : Text → List α → List (α × Nat)
  | _, [] => []
  | t, a :: rest => (a, found (raw a) t) :: turns raw value (replaceAll (raw a) (value a) t) rest

theorem mem_of_mem_turns {items : List α} {e : α × Nat} (h : e ∈ turns raw value t items) :
    e.fst ∈ items := by
  induction items generalizing t
  case nil => simp [turns] at h
  case cons a items hi =>
    rw [turns, List.mem_cons] at h
    cases h
    case inl h => simp [h]
    case inr h => exact .tail _ <| hi h

theorem count_replaceInTurn (hraw : ∀ a, raw a ≠ []) (t : Text) (items : List α) (c : Char) :
    ((replaceInTurn raw (some <| value ·) t items).count c : Int) = t.count c +
      ((turns raw value t items).map fun (a, n) => n * ((value a).count c - (raw a).count c : Int)).sum := by
  induction items generalizing t
  case nil => simp [replaceInTurn, turns]
  case cons a items hi =>
    have hs : replaceInTurn raw (some <| value ·) t (a :: items) =
      replaceInTurn raw (some <| value ·) (replaceAll (raw a) (value a) t) items := rfl
    rw [hs, hi, turns, count_replaceAll (hraw a)]
    simp only [List.map_cons, List.sum_cons]
    ring

end Stencil.Text
