import Mathlib.Data.List.Basic
import Stencil.Text.Basic

/-!
Texts cut at a separator. No part holds the separator, and the parts make up the text again when it is put
between them (`Text.intercalate_split`, `Text.split_intercalate`).
-/
namespace Stencil.Text

variable {sep c : Char} {s t u part : Text} {parts : List Text}

theorem split_of_not_mem (h : sep ∉ t) : split sep t = [t] := by
  induction t
  case nil => rfl
  case cons c t hi =>
    have ⟨hc, ht⟩ : c ≠ sep ∧ sep ∉ t := by simpa [eq_comm] using h
    simp [split, hc, hi ht]

theorem split_append_cons (sep : Char) (s t : Text) :
    split sep (s ++ sep :: t) = split sep s ++ split sep t := by
  induction s
  case nil => simp [split]
  case cons c s hi =>
    obtain ⟨part, parts, hs⟩ := List.exists_cons_of_ne_nil <| split_ne_nil sep s
    by_cases hc : c = sep <;> simp [split, hc, hi, hs]

-- The cases are those of the first separator: there is none, or the text goes on after it.
@[elab_as_elim]
theorem splitInduction (sep : Char) {motive : Text → Prop} (last : ∀ t, sep ∉ t → motive t)
    (next : ∀ s t, sep ∉ s → motive t → motive (s ++ sep :: t)) (t : Text) : motive t := by
  induction hl : t.length using Nat.strongRecOn generalizing t
  case ind hi =>
    by_cases h : sep ∈ t
    case neg => exact last t h
    case pos =>
      obtain ⟨s, u, rfl, hs⟩ := List.eq_append_cons_of_mem h
      exact next s u hs <| hi u.length (by simp [← hl]; omega) u rfl

theorem not_mem_of_mem_split (h : part ∈ split sep t) : sep ∉ part := by
  induction t using splitInduction sep
  case last ht => simpa [show part = _ by simpa [split_of_not_mem ht] using h] using ht
  case next s t hs hi =>
    rw [split_append_cons, split_of_not_mem hs, List.mem_append, List.mem_singleton] at h
    cases h
    case inl h => exact h ▸ hs
    case inr h => exact hi h

theorem mem_of_mem_split (h : part ∈ split sep t) (hc : c ∈ part) : c ∈ t := by
  induction t using splitInduction sep
  case last ht => simpa [show part = _ by simpa [split_of_not_mem ht] using h] using hc
  case next s t hs hi =>
    rw [split_append_cons, split_of_not_mem hs, List.mem_append, List.mem_singleton] at h
    cases h
    case inl h => exact List.mem_append_left _ (h ▸ hc)
    case inr h => exact List.mem_append_right _ <| .tail _ (hi h)

-- What is put at the end without a separator makes the last part longer.
theorem mem_split_append (hu : sep ∉ u) (h : part ∈ split sep (s ++ u)) :
    part ∈ split sep s ∨ ∃ last ∈ split sep s, part = last ++ u := by
  induction s using splitInduction sep
  case last s hs =>
    rw [split_of_not_mem (by simp [hs, hu]), List.mem_singleton] at h
    exact .inr ⟨s, by simp [split_of_not_mem hs], h⟩
  case next s t hs hi =>
    rw [List.append_assoc, List.cons_append, split_append_cons, List.mem_append] at h
    rw [split_append_cons]
    cases h
    case inl h => exact .inl <| List.mem_append_left _ h
    case inr h =>
      refine (hi h).imp (List.mem_append_right _) fun ⟨last, hl, hp⟩ => ?_
      exact ⟨last, List.mem_append_right _ hl, hp⟩

theorem exists_mem_split_of_mem (h : c ∈ t) (hc : c ≠ sep) : ∃ part ∈ split sep t, c ∈ part := by
  induction t using splitInduction sep
  case last t ht => exact ⟨t, by simp [split_of_not_mem ht], h⟩
  case next s t hs hi =>
    rw [split_append_cons, split_of_not_mem hs]
    obtain h | h := List.mem_append.mp h
    case inl => exact ⟨s, by simp, h⟩
    case inr =>
      have ⟨part, hp, hm⟩ := hi <| (List.mem_cons.mp h).resolve_left hc
      exact ⟨part, List.mem_append_right _ hp, hm⟩

theorem split_eq_splitOn (sep : Char) (t : Text) : split sep t = t.splitOn sep := by
  induction t
  case nil => rfl
  case cons c t hi =>
    obtain ⟨part, parts, ht⟩ := List.exists_cons_of_ne_nil <| split_ne_nil sep t
    rw [List.splitOn_eq_splitOnP, List.splitOnP_cons_eq_if_modifyHead, ← List.splitOn_eq_splitOnP, ← hi, ht]
    by_cases hc : c = sep <;> simp [split, hc, ht]

theorem intercalate_split (sep : Char) (t : Text) : List.intercalate [sep] (split sep t) = t := by
  rw [split_eq_splitOn, List.intercalate_splitOn]

theorem split_intercalate (h : ∀ part ∈ parts, sep ∉ part) (hn : parts ≠ []) :
    split sep (List.intercalate [sep] parts) = parts := by
  rw [split_eq_splitOn, List.splitOn_intercalate sep h hn]

theorem split_injective (sep : Char) : Function.Injective (split sep) :=
  Function.LeftInverse.injective <| intercalate_split sep

theorem splitFirst_of_not_mem (h : sep ∉ t) : splitFirst sep t = none := by
  induction t
  case nil => rfl
  case cons c t hi =>
    have ⟨hc, ht⟩ : c ≠ sep ∧ sep ∉ t := by simpa [eq_comm] using h
    simp [splitFirst, hc, hi ht]

theorem splitFirst_append_cons (h : sep ∉ s) : splitFirst sep (s ++ sep :: t) = some (s, t) := by
  induction s
  case nil => simp [splitFirst]
  case cons c s hi =>
    have ⟨hc, hs⟩ : c ≠ sep ∧ sep ∉ s := by simpa [eq_comm] using h
    simp [splitFirst, hc, hi hs]

end Stencil.Text
