import Stencil.Text.Basic

/-!
Texts in the order of their code points, which is also the order of their UTF-8 bytes.
-/
namespace Stencil.Text

-- Does the first text come strictly before the second?
def before : Text → Text → Bool
  | _, [] => false
  | [], _ :: _ => true
  | c :: s, d :: t => c.toNat < d.toNat || (c = d && before s t)

theorem before_irrefl (t : Text) : before t t = false := by
  induction t with
  | nil => rfl
  | cons c t ih => simp [before, ih]

theorem before_asymm {s t : Text} (h : before s t) : before t s = false := by
  induction s generalizing t with
  | nil => cases t <;> simp_all [before]
  | cons c s ih =>
    cases t with
    | nil => simp [before] at h
    | cons d t =>
      simp only [before, Bool.or_eq_true, decide_eq_true_eq, Bool.and_eq_true] at h
      rcases h with h | ⟨rfl, h⟩
      · have : c ≠ d := by rintro rfl; omega
        simp [before, Ne.symm this]; omega
      · simp [before, ih h]

theorem before_trans {s t u : Text} (hst : before s t) (htu : before t u) : before s u := by
  induction s generalizing t u with
  | nil => cases t <;> cases u <;> simp_all [before]
  | cons c s ih =>
    obtain _ | ⟨d, t⟩ := t
    · simp [before] at hst
    obtain _ | ⟨e, u⟩ := u
    · simp [before] at htu
    simp only [before, Bool.or_eq_true, decide_eq_true_eq, Bool.and_eq_true] at *
    rcases hst with hcd | ⟨rfl, hst⟩ <;> rcases htu with hde | ⟨rfl, htu⟩
    · left; omega
    · left; exact hcd
    · left; exact hde
    · right; exact ⟨rfl, ih hst htu⟩

-- Of two texts that differ one comes before the other.
theorem before_total (s t : Text) : before s t ∨ s = t ∨ before t s := by
  induction s generalizing t with
  | nil => cases t <;> simp [before]
  | cons c s ih =>
    obtain _ | ⟨d, t⟩ := t
    · simp [before]
    simp only [before, Bool.or_eq_true, decide_eq_true_eq, Bool.and_eq_true, List.cons.injEq]
    rcases Nat.lt_trichotomy c.toNat d.toNat with h | h | h
    · exact .inl (.inl h)
    · have hcd : c = d := Char.toNat_inj.mp h
      subst hcd
      rcases ih t with h | h | h
      · exact .inl (.inr ⟨rfl, h⟩)
      · exact .inr (.inl ⟨rfl, h⟩)
      · exact .inr (.inr (.inr ⟨rfl, h⟩))
    · exact .inr (.inr (.inl h))

def order (s t : Text) : Ordering :=
  if before s t then .lt else if s = t then .eq else .gt

end Stencil.Text
