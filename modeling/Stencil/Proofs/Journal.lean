import Stencil.Journal

/-!
When a recorded computation ends in a value, what it has noted down by then, what all of its notes and
errors have in common (`Recorded.Within`), and when another one does the same until the first is stopped
(`Recorded.Upto`).
-/
namespace Stencil

namespace Journal

variable {P : Note → Prop} {j : Journal} {c : Counter}

theorem count_eq_zero (h : ∀ n ∈ j, n.counter? ≠ some c) : Journal.count c j = 0 := by
  rw [count, List.countP_eq_zero]
  simpa using h

theorem count_singleton (c : Counter) (n : Note) :
    Journal.count c [n] = if n.counter? = some c then 1 else 0 := by
  simp [count, List.countP_singleton]

end Journal

namespace Recorded

variable {ε α β : Type} {x : Recorded ε α} {f : α → Recorded ε β} {a : α} {b : β} {e : ε} {n : Note}
variable {P : Note → Prop} {Q : ε → Prop}

@[simp]
theorem result_pure : (pure a : Recorded ε α).result = .ok a :=
  rfl

@[simp]
theorem result_note_bind {n : Note} {f : Unit → Recorded ε β} : (note n >>= f).result = (f ()).result :=
  rfl

@[simp]
theorem result_fail {e : ε} : (fail e : Recorded ε α).result = .error e :=
  rfl

@[simp]
theorem ofExcept_ok_bind : ofExcept (.ok a) >>= f = f a :=
  rfl

-- A computation made of two gets to its end exactly when each of them does.
theorem result_bind_eq_ok_iff :
    (x >>= f).result = .ok b ↔ ∃ a, x.result = .ok a ∧ (f a).result = .ok b := by
  have h : (x >>= f).result = x.result.bind fun a => (f a).result := by
    change (andThen x f).result = _
    unfold andThen
    cases x.result <;> rfl
  cases hx : x.result <;> simp [h, hx, Except.bind]

theorem bind_of_ok (h : x.result = .ok a) : x >>= f = ⟨x.journal ++ (f a).journal, (f a).result⟩ := by
  change andThen x f = _
  simp only [andThen, h]

theorem bind_of_error (h : x.result = .error e) : x >>= f = ⟨x.journal, .error e⟩ := by
  change andThen x f = _
  simp only [andThen, h]

@[simp]
theorem journal_pure : (pure a : Recorded ε α).journal = [] :=
  rfl

@[simp]
theorem journal_note_bind {f : Unit → Recorded ε β} : (note n >>= f).journal = n :: (f ()).journal :=
  rfl

-- Every note is one of these, and so is the error, if there is one.
structure Within (P : Note → Prop) (Q : ε → Prop) (x : Recorded ε α) : Prop where
  note : ∀ n ∈ x.journal, P n
  error : ∀ e, x.result = .error e → Q e

namespace Within

theorem pure (a : α) : (Pure.pure a : Recorded ε α).Within P Q where
  note := by simp
  error := by simp

theorem note_bind {f : Unit → Recorded ε β} (hn : P n) (hf : (f ()).Within P Q) :
    (Recorded.note n >>= f).Within P Q where
  note := by simpa using ⟨hn, hf.note⟩
  error := hf.error

theorem fail (h : Q e) : (Recorded.fail e : Recorded ε α).Within P Q where
  note _ hn := nomatch hn
  error _ he := Except.error.inj he ▸ h

theorem bind (hx : x.Within P Q) (hf : ∀ a, x.result = .ok a → (f a).Within P Q) :
    (x >>= f).Within P Q := by
  cases h : x.result
  case error e =>
    rw [bind_of_error h]
    exact ⟨hx.note, fun _ he => Except.error.inj he ▸ hx.error e h⟩
  case ok a =>
    rw [bind_of_ok h]
    refine ⟨fun n hn => ?_, (hf a h).error⟩
    cases List.mem_append.mp hn
    case inl hn => exact hx.note n hn
    case inr hn => exact (hf a h).note n hn

theorem ofExcept_bind {r : Except ε α} (he : ∀ e, r = .error e → Q e)
    (hf : ∀ a, r = .ok a → (f a).Within P Q) : (ofExcept r >>= f).Within P Q :=
  bind ⟨by simp [ofExcept], he⟩ hf

end Within

-- The second computation does what the first one does, unless the first one is stopped: then the second one
-- begins with all that the first has noted down but the stop itself.
inductive Upto (Stops : Note → ε → Prop) (x y : Recorded ε α) : Prop
  | same : y = x → Upto Stops x y
  | stopped {j : Journal} {n : Note} {e : ε} :
    Stops n e → x = ⟨j ++ [n], .error e⟩ → j <+: y.journal → Upto Stops x y

namespace Upto

variable {Stops : Note → ε → Prop} {y : Recorded ε α} {g : α → Recorded ε β}

theorem refl (x : Recorded ε α) : x.Upto Stops x :=
  .same rfl

theorem journal_prefix_bind (y : Recorded ε α) (g : α → Recorded ε β) : y.journal <+: (y >>= g).journal := by
  cases h : y.result
  case error e => exact bind_of_error (f := g) h ▸ List.prefix_rfl
  case ok a =>
    rw [bind_of_ok h]
    exact List.prefix_append ..

theorem bind (hx : x.Upto Stops y) (hf : ∀ a, x.result = .ok a → (f a).Upto Stops (g a)) :
    (x >>= f).Upto Stops (y >>= g) := by
  cases hx
  case same hy =>
    subst hy
    cases hr : y.result
    case error e => exact .same <| (bind_of_error hr).trans (bind_of_error hr).symm
    case ok a =>
      rw [bind_of_ok hr, bind_of_ok hr]
      cases hf a hr
      case same hg => exact .same <| by rw [hg]
      case stopped j n e hs hfa hj =>
        refine .stopped (j := y.journal ++ j) hs (by simp [hfa]) ?_
        exact (List.prefix_append_right_inj _).mpr hj
  case stopped j n e hs hx hj =>
    subst hx
    exact .stopped hs (bind_of_error rfl) <| hj.trans <| journal_prefix_bind y g

-- A computation that was not stopped is the same as the other one.
theorem eq_of_result_ne (h : x.Upto Stops y) (hr : ∀ n e, Stops n e → x.result ≠ .error e) : y = x := by
  cases h
  case same h => exact h
  case stopped n e hs hx _ => exact absurd (congrArg result hx) <| hr n e hs

end Upto
end Recorded
end Stencil
