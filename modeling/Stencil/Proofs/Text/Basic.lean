import Mathlib.Data.List.Basic
import Mathlib.Data.List.TakeWhile
import Stencil.Text.Basic

/-!
Texts as lists: where a run of characters of one class ends, how bytes are counted off, and which
items are left when those with a repeated key are dropped.
-/
namespace Stencil

namespace Text

variable {p : Char → Bool} {a a' r r' s t : Text} {c c' : Char}

theorem takeWhile_append_cons (ha : ∀ x ∈ a, p x) (hc : p c = false) :
    (a ++ c :: r).takeWhile p = a := by
  simp [List.takeWhile_append_of_pos ha, hc]

theorem dropWhile_append_cons (ha : ∀ x ∈ a, p x) (hc : p c = false) :
    (a ++ c :: r).dropWhile p = c :: r := by
  simp [List.dropWhile_append_of_pos ha, hc]

@[simp]
theorem isPrefixOf?_append (s t : Text) : s.isPrefixOf? (s ++ t) = some t :=
  List.isPrefixOf?_eq_some_iff_append_eq.mpr rfl

-- A run that is followed by a character of another class ends in one place only.
theorem run_inj (ha : ∀ x ∈ a, p x) (ha' : ∀ x ∈ a', p x) (hc : p c = false) (hc' : p c' = false)
    (h : a ++ c :: r = a' ++ c' :: r') : a = a' ∧ c = c' ∧ r = r' := by
  have he := takeWhile_append_cons (r := r') ha' hc' ▸ h ▸ takeWhile_append_cons (r := r) ha hc
  subst he
  simpa using h

-- The same of a run that stands at the end of a text and is looked at from there.
theorem run_inj_right (ha : ∀ x ∈ a, p x) (ha' : ∀ x ∈ a', p x) (hc : p c = false)
    (hc' : p c' = false) (h : r ++ c :: a = r' ++ c' :: a') : r = r' ∧ c = c' ∧ a = a' := by
  have hr : a.reverse ++ c :: r.reverse = a'.reverse ++ c' :: r'.reverse := by
    simpa using congrArg List.reverse h
  have ⟨h₁, h₂, h₃⟩ := run_inj (by simpa using ha) (by simpa using ha') hc hc' hr
  exact ⟨List.reverse_injective h₃, h₂, List.reverse_injective h₁⟩

-- What is left of a text when the characters of one class are taken off at both ends.
structure Trims (p : Char → Bool) (t u : Text) : Prop where
  around : ∃ left right, t = left ++ u ++ right ∧ (∀ c ∈ left, p c) ∧ ∀ c ∈ right, p c
  head? : ∀ c ∈ u.head?, p c = false
  getLast? : ∀ c ∈ u.getLast?, p c = false

theorem of_mem_head?_dropWhile (h : c ∈ (t.dropWhile p).head?) : p c = false := by
  have hd := List.head?_dropWhile_not p t
  rw [Option.mem_def.mp h] at hd
  simpa using hd

theorem dropWhile_eq_self (h : ∀ c ∈ t, p c = false) : t.dropWhile p = t :=
  List.dropWhile_eq_self_iff.mpr fun _ => by simp [h]

theorem trim_eq_self (h : ∀ c ∈ t, p c = false) : trim p t = t := by
  rw [trim, dropWhile_eq_self h, dropWhileEnd, dropWhile_eq_self (by simpa using h), List.reverse_reverse]

theorem of_mem_getLast?_dropWhileEnd (h : c ∈ (dropWhileEnd p t).getLast?) : p c = false := by
  rw [dropWhileEnd, List.getLast?_reverse] at h
  exact of_mem_head?_dropWhile h

theorem exists_eq_dropWhileEnd_append (p : Char → Bool) (t : Text) :
    ∃ right, t = dropWhileEnd p t ++ right ∧ ∀ c ∈ right, p c := by
  refine ⟨(t.reverse.takeWhile p).reverse, ?_, ?_⟩
  · rw [dropWhileEnd, ← List.reverse_append, List.takeWhile_append_dropWhile, List.reverse_reverse]
  · exact fun c hc => List.mem_takeWhile_imp <| List.mem_reverse.mp hc

theorem trims_trim (p : Char → Bool) (t : Text) : Trims p t (trim p t) := by
  have ⟨right, hr, hp⟩ := exists_eq_dropWhileEnd_append p (t.dropWhile p)
  refine ⟨⟨t.takeWhile p, right, ?_, fun c => List.mem_takeWhile_imp, hp⟩, fun c hc => ?_, fun c => ?_⟩
  · rw [trim, List.append_assoc, ← hr, List.takeWhile_append_dropWhile]
  -- The first character that is left is the first one of the text before its end was cut off.
  · have hh : (dropWhileEnd p (t.dropWhile p)).head? = some c := hc
    exact of_mem_head?_dropWhile (t := t) <| by rw [hr, List.head?_append, hh]; rfl
  · exact of_mem_getLast?_dropWhileEnd

@[simp]
theorem takeBytes_zero (t : Text) : t.takeBytes 0 = [] := by
  cases t <;> rfl

@[simp]
theorem dropBytes_zero (t : Text) : t.dropBytes 0 = t := by
  cases t <;> rfl

theorem takeBytes_cons {n : Nat} (h : c.utf8Size ≤ n) :
    takeBytes n (c :: t) = c :: takeBytes (n - c.utf8Size) t := by
  have := c.utf8Size_pos
  simp [takeBytes, show n ≠ 0 by omega]

theorem dropBytes_cons {n : Nat} (h : c.utf8Size ≤ n) :
    dropBytes n (c :: t) = dropBytes (n - c.utf8Size) t := by
  have := c.utf8Size_pos
  simp [dropBytes, show n ≠ 0 by omega]

@[simp]
theorem dropBytes_byteLength_append (s t : Text) : (s ++ t).dropBytes s.byteLength = t := by
  induction s
  case nil => simp
  case cons hi => simp [dropBytes_cons, hi]

theorem byteLength_eq_zero_iff : t.byteLength = 0 ↔ t = [] := by
  cases t
  case nil => simp
  case cons c t =>
    have := c.utf8Size_pos
    simp
    omega

-- Of two starts of a text the shorter one is a start of the other.
theorem exists_eq_append_of_byteLength_le {u : Text} (h : s ++ t = a ++ u)
    (hl : s.byteLength ≤ a.byteLength) : ∃ w, a = s ++ w ∧ t = w ++ u := by
  obtain h | ⟨w, rfl, rfl⟩ := List.append_eq_append_iff.mp h
  case inl => exact h
  case inr =>
    obtain rfl : w = [] := byteLength_eq_zero_iff.mp <| by simp at hl; omega
    exact ⟨[], by simp, by simp⟩

theorem eq_of_append_eq_append_of_byteLength_eq {u : Text} (h : s ++ t = a ++ u)
    (hl : s.byteLength = a.byteLength) : s = a := by
  obtain ⟨w, rfl, -⟩ := exists_eq_append_of_byteLength_le h hl.le
  have hw : w = [] := byteLength_eq_zero_iff.mp <| by simp at hl; omega
  simp [hw]

end Text

section Distinct

variable {α κ : Type} [DecidableEq κ] {key : α → κ} {a : α} {items : List α}

theorem mem_of_mem_distinctBy (h : a ∈ distinctBy key items) : a ∈ items := by
  suffices ∀ seen, a ∈ distinctBy.go key seen items → a ∈ items from this [] h
  clear h
  induction items <;> simp [distinctBy.go]
  case cons hd tl hi =>
    intro seen
    split
    · exact fun h => .inr <| hi _ h
    · rw [List.mem_cons]
      exact Or.imp_right <| hi _

theorem exists_mem_distinctBy (key : α → κ) (h : a ∈ items) : ∃ b ∈ distinctBy key items, key b = key a := by
  suffices ∀ seen, key a ∉ seen → ∃ b ∈ distinctBy.go key seen items, key b = key a from this [] (by simp)
  induction items
  case nil => simp at h
  case cons hd tl hi =>
    intro seen hs
    simp only [distinctBy.go]
    split
    case isTrue hm =>
      have ht : a ∈ tl := (List.mem_cons.mp h).resolve_left fun he => hs (he ▸ hm)
      exact hi ht seen hs
    case isFalse =>
      by_cases he : key hd = key a
      · exact ⟨hd, List.mem_cons_self, he⟩
      · have ht : a ∈ tl := (List.mem_cons.mp h).resolve_left fun h => he (h ▸ rfl)
        have ⟨b, hb, hk⟩ := hi ht (key hd :: seen) (by simp [hs, Ne.symm he])
        exact ⟨b, List.mem_cons_of_mem _ hb, hk⟩

theorem mem_distinctBy (inj : ∀ a ∈ items, ∀ b ∈ items, key a = key b → a = b) :
    a ∈ distinctBy key items ↔ a ∈ items where
  mp := mem_of_mem_distinctBy
  mpr h := by
    have ⟨b, hb, hk⟩ := exists_mem_distinctBy key h
    exact inj b (mem_of_mem_distinctBy hb) a h hk ▸ hb

end Distinct
end Stencil
