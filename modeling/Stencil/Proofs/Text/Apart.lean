import Stencil.Proofs.Text.Recogniser

/-!
Texts that can stand close to each other. Neither lies within the other, and where the one reaches into the other
they share no more than so many characters (`Apart`). So when the one is replaced wherever it occurs, what lies
deeper within the other stays as it is (`Apart.replaceAll_framed`).
-/
namespace Stencil.Text

variable {x y old l g r : Text} {n : Nat} {c : Char}

-- An end of a text that starts before a given character in it, or after that.
theorem suffix_append_cons (h : g <:+ x ++ c :: y) : g <:+ y ∨ ∃ w, w <:+ x ∧ g = w ++ c :: y := by
  obtain hg | ⟨w, rfl⟩ := List.suffix_or_suffix_of_suffix h (List.suffix_append x (c :: y))
  case inl =>
    obtain rfl | hg := List.suffix_cons_iff.mp hg
    case inl => exact .inr ⟨[], List.nil_suffix, rfl⟩
    case inr => exact .inl hg
  case inr =>
    have ⟨z, hz⟩ := h
    rw [← List.append_assoc] at hz
    exact .inr ⟨w, ⟨z, List.append_cancel_right hz⟩, rfl⟩

theorem prefix_append_cons (h : g <+: x ++ c :: y) : g <+: x ∨ ∃ w, w <+: y ∧ g = x ++ c :: w := by
  obtain hg | ⟨w, rfl⟩ := List.prefix_or_prefix_of_prefix h (List.prefix_append x (c :: y))
  case inl => exact .inl hg
  case inr =>
    obtain rfl | ⟨w, rfl, hw⟩ := List.prefix_cons_iff.mp <| (List.prefix_append_right_inj x).mp h
    case inl => exact .inl <| by simp
    case inr => exact .inr ⟨w, hw, rfl⟩

theorem infix_of_infix_append (hx : c ∉ x) (h : c :: g <:+: x ++ y) : c :: g <:+: y := by
  induction x
  case nil => exact h
  case cons d x hi =>
    have ⟨hd, hx⟩ : c ≠ d ∧ c ∉ x := by simpa using hx
    obtain hp | h := List.infix_cons_iff.mp h
    case inl => exact absurd (List.cons_prefix_cons.mp hp).left hd
    case inr => exact hi hx h

theorem append_cons_inj (hx : c ∉ x) (hy : c ∉ y) (h : x ++ c :: l = y ++ c :: r) : x = y ∧ l = r := by
  have hne {u : Text} (hu : c ∉ u) : ∀ d ∈ u, decide (d ≠ c) := by
    intro d hd
    simpa using ne_of_mem_of_not_mem hd hu
  have ⟨hl, _, hr⟩ := run_inj (hne hx) (hne hy) (by simp) (by simp) h
  exact ⟨hl, hr⟩

structure Apart (n : Nat) (x y : Text) : Prop where
  not_infix : ¬ x <:+: y ∧ ¬ y <:+: x
  -- The end of the one is the start of the other.
  overlap : ∀ p, p <:+ x → p <+: y → p.length ≤ n
  overlap_symm : ∀ p, p <:+ y → p <+: x → p.length ≤ n

namespace Apart

theorem symm (h : Apart n x y) : Apart n y x where
  not_infix := h.not_infix.symm
  overlap := h.overlap_symm
  overlap_symm := h.overlap

-- Where the one starts within the other, it goes on after the end of it.
theorem length_le_of_starts (h : Apart n x y) {u v w : Text} (he : x = u ++ v) (hw : v ++ w = y ++ r) :
    v.length ≤ n := by
  obtain ⟨z, rfl, rfl⟩ | ⟨z, rfl, rfl⟩ := List.append_eq_append_iff.mp hw
  case inl => exact h.overlap v ⟨u, he.symm⟩ (List.prefix_append ..)
  case inr => exact absurd ⟨u, z, by simp [he]⟩ h.not_infix.right

-- An occurrence of the one ends soon after the other starts, or it starts shortly before the other ends.
theorem places (h : Apart n x y) {pre post u v : Text} (he : pre ++ y ++ post = u ++ x ++ v) :
    (u ++ x).length ≤ pre.length + n ∨ (pre ++ y).length ≤ u.length + n := by
  rw [List.append_assoc, List.append_assoc, List.append_eq_append_iff] at he
  obtain ⟨w, rfl, he⟩ | ⟨w, rfl, he⟩ := he
  case inl =>
    obtain ⟨z, rfl, -⟩ | ⟨z, rfl, hz⟩ := List.append_eq_append_iff.mp he
    case inl => exact .inr <| by simp; omega
    case inr =>
      have := h.symm.length_le_of_starts rfl hz.symm
      exact .inr <| by simp; omega
  case inr =>
    obtain ⟨z, rfl, -⟩ | ⟨z, rfl, hz⟩ := List.append_eq_append_iff.mp he
    case inl => exact .inl <| by simp; omega
    case inr =>
      have := h.length_le_of_starts rfl hz.symm
      exact .inl <| by simp; omega

end Apart

-- No occurrence of `old` reaches into the text that stands between the other two.
def Clear (old l g r : Text) : Prop :=
  ∀ u v, l ++ g ++ r = u ++ old ++ v → (u ++ old).length ≤ l.length ∨ (l ++ g).length ≤ u.length

theorem Clear.of_append (h : Clear old (x ++ l) g r) : Clear old l g r := by
  intro u v hu
  have := h (x ++ u) v (by simp [← hu])
  simp only [List.length_append] at this ⊢
  omega

-- Up to the text in the middle the cases are those of the search.
theorem Clear.replaceAll_eq (h : Clear old l g r) (new : Text) (hold : old ≠ []) :
    replaceAll old new (l ++ g ++ r) = replaceAll old new l ++ g ++ replaceAll old new r := by
  have hlen : 0 < old.length := List.length_pos_iff.mpr hold
  induction ht : l ++ g ++ r using (literal_lawful hold).induction generalizing l
  case nil =>
    obtain ⟨hg, rfl⟩ := List.append_eq_nil_iff.mp ht
    obtain ⟨rfl, rfl⟩ := List.append_eq_nil_iff.mp hg
    simp
  case plain c t hn hi =>
    rw [← ht]
    cases l
    case nil =>
      refine replaceAll_append new fun u v he hv ⟨w, hw⟩ => ?_
      have := List.length_pos_iff.mpr hv
      have hs := h u w (by simp [he, hw])
      simp only [List.length_nil, he, List.length_append] at hs
      omega
    case cons d l =>
      obtain ⟨rfl, he⟩ : d = c ∧ l ++ g ++ r = t := by simpa using ht
      have hd : ¬ old <+: d :: (l ++ g ++ r) := by simpa [he, literal_atStart?] using hn
      have hd' : ¬ old <+: d :: l := mt (·.trans ⟨g ++ r, by simp⟩) hd
      have hs := hi (Clear.of_append (x := [d]) h) he
      calc replaceAll old new (d :: l ++ g ++ r)
        _ = d :: replaceAll old new (l ++ g ++ r) := replaceAll_cons hd
        _ = d :: (replaceAll old new l ++ g ++ replaceAll old new r) := by rw [he, hs]
        _ = replaceAll old new (d :: l) ++ g ++ replaceAll old new r := by rw [replaceAll_cons hd']; rfl
  case item a t ha hi =>
    replace ht : l ++ g ++ r = old ++ t := ht
    change replaceAll old new (old ++ t) = _
    rw [replaceAll_self_append hold]
    obtain hl | hl := h [] t ht
    case inl =>
      obtain ⟨w, rfl⟩ : old <+: l := List.prefix_of_prefix_length_le ⟨t, rfl⟩ ⟨g ++ r, by simp [← ht]⟩ hl
      have he : w ++ g ++ r = t := by simpa using ht
      rw [hi h.of_append he, replaceAll_self_append hold]
      simp
    case inr =>
      obtain ⟨rfl, rfl⟩ : l = [] ∧ g = [] := by simpa using hl
      obtain rfl : r = old ++ t := ht
      simp [replaceAll_self_append hold]

namespace Apart

-- What is replaced next to the other text comes as far as what the two of them may share.
theorem replaceAll_framed {m : Text} (h : Apart m.length old (m ++ g ++ m)) (new pre post : Text) :
    replaceAll old new (pre ++ (m ++ g ++ m) ++ post) =
      replaceAll old new (pre ++ m) ++ g ++ replaceAll old new (m ++ post) := by
  have hold : old ≠ [] := fun he => h.not_infix.left <| he ▸ List.nil_infix
  have hc : Clear old (pre ++ m) g (m ++ post) := by
    intro u v he
    have he : pre ++ (m ++ g ++ m) ++ post = u ++ old ++ v := by simpa using he
    have := h.places he
    simp only [List.length_append] at this ⊢
    omega
  simpa using hc.replaceAll_eq new hold

end Apart
end Stencil.Text
