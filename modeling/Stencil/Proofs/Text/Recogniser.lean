import Stencil.Proofs.Text.Basic
import Stencil.Text.Segment

/-!
Recognisers whose reports can be relied on. A text is then cut into segments by three equations, and
`Lawful.induction` follows the same three cases, so that no proof has to look at how the cut is made.
-/
namespace Stencil.Text

namespace Recogniser

variable {α : Type} {r : Recogniser α} {a : α} {c : Char} {t : Text}

structure Lawful (r : Recogniser α) : Prop where
  stands : ∀ {t a}, r.atStart? t = some a → r.raw a <+: t
  raw_ne_nil : ∀ {t a}, r.atStart? t = some a → r.raw a ≠ []

theorem segmentsFrom_eq_segments_drop (skip : Nat) (t : Text) :
    r.segmentsFrom skip t = r.segments (t.drop skip) := by
  induction t generalizing skip <;> cases skip <;> simp [segments, segmentsFrom]
  case cons.succ hi skip => simp [hi skip, segments]

@[simp]
theorem segments_nil : r.segments [] = [] :=
  rfl

theorem segments_cons (h : r.atStart? (c :: t) = none) :
    r.segments (c :: t) = .plain c :: r.segments t := by
  simp [segments, segmentsFrom, h]

namespace Lawful

theorem segments_append (hr : r.Lawful) (h : r.atStart? (r.raw a ++ t) = some a) :
    r.segments (r.raw a ++ t) = .item a :: r.segments t := by
  have ⟨c, w, hw⟩ := List.exists_cons_of_ne_nil <| hr.raw_ne_nil h
  simp only [hw, List.cons_append] at h ⊢
  simp [segments, segmentsFrom, h, hw, segmentsFrom_eq_segments_drop w.length]

-- The cases are those of the cut: the text ends, a character belongs to no item, or an item is read
-- off as a whole.
@[elab_as_elim]
theorem induction (hr : r.Lawful) {motive : Text → Prop} (nil : motive [])
    (plain : ∀ c t, r.atStart? (c :: t) = none → motive t → motive (c :: t))
    (item : ∀ a t, r.atStart? (r.raw a ++ t) = some a → motive t → motive (r.raw a ++ t)) :
    ∀ t, motive t
  | [] => nil
  | c :: t =>
    match h : r.atStart? (c :: t) with
    | none => plain c t h <| hr.induction nil plain item t
    | some a => by
      have ⟨rest, he⟩ := hr.stands h
      have hl : rest.length ≤ t.length := by
        have := congrArg List.length he
        have := List.length_pos_iff.mpr <| hr.raw_ne_nil h
        simp at *
        omega
      rw [← he] at h ⊢
      exact item a rest h <| hr.induction nil plain item rest
termination_by t => t.length
decreasing_by
  · simp
  · simp; omega

end Lawful

@[simp]
theorem items_nil : r.items [] = [] :=
  rfl

theorem items_cons (h : r.atStart? (c :: t) = none) : r.items (c :: t) = r.items t := by
  simp [items, segments_cons h, List.filterMap_cons, Segment.item?]

theorem Lawful.items_append (hr : r.Lawful) (h : r.atStart? (r.raw a ++ t) = some a) :
    r.items (r.raw a ++ t) = a :: r.items t := by
  simp [items, hr.segments_append h, Segment.item?]

theorem Lawful.exists_of_mem_items (hr : r.Lawful) {t : Text} (h : a ∈ r.items t) :
    ∃ u, r.atStart? u = some a := by
  induction t using hr.induction
  case nil => simp at h
  case plain hn hi => exact hi <| items_cons hn ▸ h
  case item ha hi =>
    rw [hr.items_append ha, List.mem_cons] at h
    cases h
    case inl he => exact ⟨_, he ▸ ha⟩
    case inr h => exact hi h

theorem replaceItems_cons {write : α → Text} (h : r.atStart? (c :: t) = none) :
    r.replaceItems write (c :: t) = c :: r.replaceItems write t := by
  simp [replaceItems, segments_cons h, Segment.text]

theorem Lawful.replaceItems_append {write : α → Text} (hr : r.Lawful)
    (h : r.atStart? (r.raw a ++ t) = some a) :
    r.replaceItems write (r.raw a ++ t) = write a ++ r.replaceItems write t := by
  simp [replaceItems, hr.segments_append h, Segment.text]

-- The recogniser reads off exactly the written forms of well-formed items.
structure Reads (r : Recogniser α) (WellFormed : α → Prop) : Prop where
  atStart?_iff : ∀ {t a}, r.atStart? t = some a ↔ WellFormed a ∧ r.raw a <+: t
  raw_ne_nil : ∀ a, r.raw a ≠ []

namespace Reads

variable {WellFormed : α → Prop} {b : α}

theorem lawful (hr : r.Reads WellFormed) : r.Lawful where
  stands h := (hr.atStart?_iff.mp h).right
  raw_ne_nil {_ a} _ := hr.raw_ne_nil a

theorem atStart?_append (hr : r.Reads WellFormed) (h : WellFormed a) (rest : Text) :
    r.atStart? (r.raw a ++ rest) = some a :=
  hr.atStart?_iff.mpr ⟨h, List.prefix_append ..⟩

-- What stands at the start of a text does not depend on how far the text goes on.
theorem eq_of_append_eq (hr : r.Reads WellFormed) (ha : WellFormed a) (hb : WellFormed b) {s t : Text}
    (h : r.raw a ++ s = r.raw b ++ t) : a = b := by
  have hs := hr.atStart?_append ha s
  rw [h, hr.atStart?_append hb] at hs
  exact (Option.some.inj hs).symm

theorem wellFormed_of_mem_items (hr : r.Reads WellFormed) (h : a ∈ r.items t) : WellFormed a :=
  have ⟨_, h⟩ := hr.lawful.exists_of_mem_items h
  (hr.atStart?_iff.mp h).left

-- Items that read alike are the same.
theorem eq_of_raw_eq (hr : r.Reads WellFormed) {u : Text} (ha : a ∈ r.items t) (hb : b ∈ r.items u)
    (h : r.raw a = r.raw b) : a = b :=
  hr.eq_of_append_eq (s := []) (t := []) (hr.wellFormed_of_mem_items ha) (hr.wellFormed_of_mem_items hb)
    (by simp [h])

theorem mem_distinctBy_raw (hr : r.Reads WellFormed) :
    a ∈ distinctBy r.raw (r.items t) ↔ a ∈ r.items t :=
  mem_distinctBy fun _ ha _ hb => hr.eq_of_raw_eq ha hb

end Reads
end Recogniser

open Recogniser

variable {old new : Text} {c : Char} {t : Text}

theorem literal_atStart? : (literal old).atStart? t = if old <+: t then some () else none := by
  simp [literal, List.isPrefixOf_iff_prefix]

theorem literal_atStart?_append : (literal old).atStart? (old ++ t) = some () := by
  simp [literal_atStart?]

theorem literal_lawful (h : old ≠ []) : (literal old).Lawful where
  stands := by simp [literal]
  raw_ne_nil := by simp [literal, h]

@[simp]
theorem replaceAll_nil : replaceAll old new [] = [] :=
  rfl

theorem replaceAll_cons (h : ¬ old <+: c :: t) :
    replaceAll old new (c :: t) = c :: replaceAll old new t :=
  replaceItems_cons <| by simp [literal_atStart?, h]

theorem replaceAll_self_append (h : old ≠ []) :
    replaceAll old new (old ++ t) = new ++ replaceAll old new t :=
  (literal_lawful h).replaceItems_append literal_atStart?_append

-- A text within which `old` never starts is passed over, whatever follows it.
theorem replaceAll_append (new : Text) {s : Text} (h : ∀ u v, s = u ++ v → v ≠ [] → ¬ old <+: v ++ t) :
    replaceAll old new (s ++ t) = s ++ replaceAll old new t := by
  induction s
  case nil => rfl
  case cons c s hi =>
    have hn := h [] (c :: s) rfl (by simp)
    have hs := hi fun u v he => h (c :: u) v (by simp [he])
    exact replaceAll_cons hn |>.trans <| congrArg (c :: ·) hs

end Stencil.Text
