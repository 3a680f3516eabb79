import Stencil.Proofs.Text.Leftmost

/-!
What is reported of a text: the part of it that a report takes up (`Occurrence.taken`), and the reports when
another text follows. An item that starts before the end of the first text and reaches into the second one could
change the earlier reports. But with no item inside of another one it has to start behind the last of them, and
with no sign there it cannot (`Reads.occurrences_append`).
-/
namespace Stencil.Text

variable {α : Type} {raw : α → Text} {o : Occurrence α} {a : α} {c : Char} {s t : Text} {m n : Nat}

@[simp]
theorem takeBytes_byteLength_append (s t : Text) : (s ++ t).takeBytes s.byteLength = s := by
  induction s
  case nil => simp
  case cons hi => simp [takeBytes_cons, hi]

theorem dropBytes_add_append (s t : Text) (n : Nat) : (s ++ t).dropBytes (s.byteLength + n) = t.dropBytes n := by
  induction s
  case nil => simp
  case cons c s hi =>
    have hc : c.utf8Size ≤ c.utf8Size + byteLength s + n := by omega
    rw [List.cons_append, byteLength_cons, dropBytes_cons hc, Nat.add_assoc, Nat.add_sub_cancel_left, hi]

namespace Occurrence

-- The text that the item takes up where it is reported.
def taken (raw : α → Text) (t : Text) (o : Occurrence α) : Text :=
  (t.dropBytes o.offset).takeBytes (raw o.item).byteLength

def shift (n : Nat) (o : Occurrence α) : Occurrence α :=
  ⟨n + o.offset, o.item⟩

@[simp]
theorem stop_shift : (o.shift n).stop raw = n + o.stop raw :=
  Nat.add_assoc ..

@[simp]
theorem shift_zero : (shift 0 : Occurrence α → Occurrence α) = id := by
  funext o
  simp [shift]

@[simp]
theorem shift_shift : (o.shift n).shift m = o.shift (m + n) := by
  simp [shift, Nat.add_assoc]

end Occurrence

open Occurrence

theorem Segment.occurrences_add (raw : α → Text) (m n : Nat) (segments : List (Segment α)) :
    Segment.occurrences raw (m + n) segments = (Segment.occurrences raw n segments).map (shift m) := by
  induction segments generalizing n
  case nil => rfl
  case cons s rest hi =>
    cases s
    case plain c =>
      rw [Segment.occurrences, Segment.occurrences, Nat.add_assoc, hi]
    case item a =>
      rw [Segment.occurrences, Segment.occurrences, Nat.add_assoc, hi, List.map_cons]
      rfl

namespace Recogniser

variable {r : Recogniser α} {WellFormed : α → Prop} {o' : Occurrence α} {b : α} {sign : Char}

@[simp]
theorem occurrences_nil : r.occurrences [] = [] :=
  rfl

theorem occurrences_cons (h : r.atStart? (c :: t) = none) :
    r.occurrences (c :: t) = (r.occurrences t).map (shift c.utf8Size) := by
  rw [occurrences, segments_cons h, Segment.occurrences, occurrences, ← Segment.occurrences_add]
  congr 1
  omega

theorem Lawful.occurrences_append (hr : r.Lawful) (h : r.atStart? (r.raw a ++ t) = some a) :
    r.occurrences (r.raw a ++ t) = ⟨0, a⟩ :: (r.occurrences t).map (shift (r.raw a).byteLength) := by
  rw [occurrences, hr.segments_append h, Segment.occurrences, occurrences, ← Segment.occurrences_add]
  congr 2
  omega

theorem Lawful.taken_eq (hr : r.Lawful) (ho : o ∈ r.occurrences t) : o.taken r.raw t = r.raw o.item := by
  have ⟨pre, post, ht, hn⟩ := hr.exists_append_of_mem_occurrences ho
  rw [taken, ht, hn, List.append_assoc, dropBytes_byteLength_append, takeBytes_byteLength_append]

theorem Lawful.infix_of_mem_items (hr : r.Lawful) (h : a ∈ r.items t) : r.raw a <:+: t := by
  obtain ⟨o, ho, rfl⟩ := mem_items_iff.mp h
  have ⟨pre, post, ht, _⟩ := hr.exists_append_of_mem_occurrences ho
  exact ⟨pre, post, ht.symm⟩

-- The written form of an item, read on its own.
theorem Reads.occurrences_raw (hr : r.Reads WellFormed) (ha : WellFormed a) :
    r.occurrences (r.raw a) = [⟨0, a⟩] := by
  have h := hr.lawful.occurrences_append (hr.atStart?_append ha [])
  rwa [List.append_nil, occurrences_nil, List.map_nil] at h

theorem Reads.eq_of_taken_eq (hr : r.Reads WellFormed) (ho : o ∈ r.occurrences s) (ho' : o' ∈ r.occurrences t)
    (h : o.taken r.raw s = o'.taken r.raw t) : o.item = o'.item := by
  rw [hr.lawful.taken_eq ho, hr.lawful.taken_eq ho'] at h
  exact hr.eq_of_raw_eq (mem_items_iff.mpr ⟨o, ho, rfl⟩) (mem_items_iff.mpr ⟨o', ho', rfl⟩) h

theorem Reads.occurrences_taken (hr : r.Reads WellFormed) (ho : o ∈ r.occurrences t) :
    r.occurrences (o.taken r.raw t) = [⟨0, o.item⟩] := by
  rw [hr.lawful.taken_eq ho]
  exact hr.occurrences_raw <| hr.wellFormed_of_mem_items <| mem_items_iff.mpr ⟨o, ho, rfl⟩

-- The text behind the last item, or all of it.
def rest (r : Recogniser α) (t : Text) : Text :=
  t.dropBytes <| (r.occurrences t).getLast?.elim 0 (Occurrence.stop r.raw)

theorem items_eq_nil_iff : r.items t = [] ↔ r.occurrences t = [] := by
  simp [List.eq_nil_iff_forall_not_mem, mem_items_iff]

theorem rest_eq_self (h : r.items t = []) : r.rest t = t := by
  simp [rest, items_eq_nil_iff.mp h]

theorem rest_cons (h : r.atStart? (c :: t) = none) (ht : r.items t ≠ []) : r.rest (c :: t) = r.rest t := by
  have hs : (r.occurrences t).getLast? ≠ none := by simpa [items_eq_nil_iff] using ht
  have ⟨o, ho⟩ := Option.ne_none_iff_exists'.mp hs
  have hd := dropBytes_add_append [c] t (o.stop r.raw)
  simpa [rest, occurrences_cons h, ho] using hd

theorem rest_subset_cons (h : r.atStart? (c :: t) = none) : r.rest t ⊆ r.rest (c :: t) := by
  by_cases ht : r.items t = []
  case pos =>
    rw [rest_eq_self ht, rest_eq_self (items_cons h ▸ ht)]
    exact List.subset_cons_self ..
  case neg => exact rest_cons h ht ▸ List.Subset.refl _

theorem Lawful.rest_append (hr : r.Lawful) (h : r.atStart? (r.raw a ++ t) = some a) :
    r.rest (r.raw a ++ t) = r.rest t := by
  rw [rest, hr.occurrences_append h, List.getLast?_cons, List.getLast?_map, rest]
  cases (r.occurrences t).getLast?
  case none => simp [stop]
  case some o => simp [dropBytes_add_append]

-- An item that starts before the end of a text and reaches beyond it starts behind the last item.
theorem Reads.atStart?_append_eq_none (hr : r.Reads WellFormed) (hsign : ∀ a, (r.raw a).head? = some sign)
    (hnest : ∀ a b, WellFormed a → WellFormed b → r.raw a <:+: r.raw b → a = b)
    (hn : r.atStart? (c :: s) = none) (hs : sign ∉ r.rest (c :: s)) (t : Text) :
    r.atStart? (c :: (s ++ t)) = none := by
  refine Option.eq_none_iff_forall_not_mem.mpr fun a ha => ?_
  have ⟨hw, hp⟩ := hr.atStart?_iff.mp ha
  obtain hp | hp := List.prefix_or_prefix_of_prefix hp (List.prefix_append (c :: s) t)
  case inl => simp [hr.atStart?_iff.mpr ⟨hw, hp⟩] at hn
  case inr =>
    by_cases hi : r.items s = []
    case pos =>
      have hc : c = sign := by
        have ⟨w, hw⟩ := hp
        simpa [hsign] using congrArg List.head? hw
      rw [rest_eq_self (items_cons hn ▸ hi)] at hs
      exact hs <| by simp [hc]
    case neg =>
      have ⟨b, hb⟩ := List.exists_mem_of_ne_nil _ hi
      have hin : r.raw b <:+: s := hr.lawful.infix_of_mem_items hb
      have hout : s <:+: r.raw a := (List.suffix_cons c s).isInfix.trans hp.isInfix
      obtain rfl := hnest b a (hr.wellFormed_of_mem_items hb) hw <| hin.trans hout
      have := hin.length_le
      have := hp.length_le
      simp at this
      omega

theorem Reads.occurrences_append (hr : r.Reads WellFormed) (hsign : ∀ a, (r.raw a).head? = some sign)
    (hnest : ∀ a b, WellFormed a → WellFormed b → r.raw a <:+: r.raw b → a = b)
    (hs : sign ∉ r.rest s) (t : Text) :
    r.occurrences (s ++ t) = r.occurrences s ++ (r.occurrences t).map (shift s.byteLength) := by
  induction s using hr.lawful.induction
  case nil => simp
  case plain c s hn hi =>
    have hs' : sign ∉ r.rest s := mt (rest_subset_cons hn ·) hs
    have hn' := hr.atStart?_append_eq_none hsign hnest hn hs t
    rw [List.cons_append, occurrences_cons hn', hi hs', occurrences_cons hn]
    simp
  case item a s ha hi =>
    have hw := (hr.atStart?_iff.mp ha).left
    rw [hr.lawful.rest_append ha] at hs
    have ha' := hr.atStart?_append hw (s ++ t)
    rw [List.append_assoc, hr.lawful.occurrences_append ha', hi hs, hr.lawful.occurrences_append ha]
    simp

end Recogniser
end Stencil.Text
