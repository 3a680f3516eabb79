/-!
Results that may be errors, and lists of items of which the first one that goes wrong decides.
-/
namespace Stencil

variable {ε α β : Type} {x : Except ε α} {a : α} {e e' : ε}

theorem bind_eq_ok_iff {f : α → Except ε β} {b : β} : x >>= f = .ok b ↔ ∃ a, x = .ok a ∧ f a = .ok b := by
  cases x <;> simp [bind, Except.bind]

theorem bind_eq_error_iff {f : α → Except ε β} :
    x >>= f = .error e ↔ x = .error e ∨ ∃ a, x = .ok a ∧ f a = .error e := by
  cases x <;> simp [bind, Except.bind]

theorem pure_eq_ok_iff {b : α} : (pure a : Except ε α) = .ok b ↔ a = b :=
  Except.ok.injEq a b ▸ Iff.rfl

theorem pure_ne_error : (pure a : Except ε α) ≠ .error e :=
  nofun

theorem eq_error_iff_of_unique (h : ∀ e, x = .error e → e = e') :
    x = .error e ↔ (¬∃ a, x = .ok a) ∧ e = e' := by
  cases x
  case error => simp [h _ rfl, eq_comm]
  case ok => simp

-- The first item of which `q` holds stands at the head, or behind a head of which `p` holds.
theorem exists_first_cons_iff {p q : α → Prop} {items : List α} :
    (∃ before x after, a :: items = before ++ x :: after ∧ (∀ y ∈ before, p y) ∧ q x) ↔
      q a ∨ p a ∧ ∃ before x after, items = before ++ x :: after ∧ (∀ y ∈ before, p y) ∧ q x := by
  constructor
  case mp =>
    rintro ⟨_ | ⟨y, before⟩, x, after, h, hp, hq⟩
    · obtain ⟨rfl, -⟩ := List.cons.inj h
      exact .inl hq
    · obtain ⟨rfl, rfl⟩ := List.cons.inj h
      have ⟨ha, hb⟩ := List.forall_mem_cons.mp hp
      exact .inr ⟨ha, before, x, after, rfl, hb, hq⟩
  case mpr =>
    rintro (hq | ⟨ha, before, x, after, rfl, hp, hq⟩)
    case inl => exact ⟨[], a, items, rfl, by simp, hq⟩
    case inr => exact ⟨a :: before, x, after, rfl, List.forall_mem_cons.mpr ⟨ha, hp⟩, hq⟩

end Stencil
