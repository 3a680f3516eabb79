import Mathlib.Data.List.Nodup
import Mathlib.Data.List.Pairwise
import Stencil.Proofs.Text.Pieces
import Stencil.Proofs.Text.Utf8

/-!
What a recogniser reports, said without the way it looks for it: of all matches of a grammar in a text
those that no earlier report reaches into, in the order of their offsets (`Leftmost`). There is one such
list for every text, and it is the one that the segments of the text give (`Reads.occurrences_eq_iff`).
-/
namespace Stencil.Text

variable {α : Type}

-- The offset at which an item ends.
def Occurrence.stop (raw : α → Text) (o : Occurrence α) : Nat :=
  o.offset + (raw o.item).byteLength

structure Leftmost (raw : α → Text) (Grammar : Text → α → Prop) (t : Text) (os : List (Occurrence α)) :
    Prop where
  sound : ∀ o ∈ os, Grammar (raw o.item) o.item ∧ StandsAt (raw o.item) t o.offset
  apart : os.Pairwise fun o o' => o.stop raw ≤ o'.offset
  complete : ∀ m a n, Grammar m a → StandsAt m t n →
    (⟨n, a⟩ ∈ os ∧ raw a = m) ∨ ∃ o ∈ os, o.offset < n ∧ n < o.stop raw

namespace Leftmost

variable {raw : α → Text} {Grammar : Text → α → Prop} {t : Text} {os os' : List (Occurrence α)}
variable {o o' : Occurrence α}

-- No report starts inside of another.
theorem not_inside (h : Leftmost raw Grammar t os) (ho : o ∈ os) (ho' : o' ∈ os) :
    ¬ (o'.offset < o.offset ∧ o.offset < o'.stop raw) := by
  rintro ⟨hl, hs⟩
  let Apart (o o' : Occurrence α) : Prop := o.stop raw ≤ o'.offset ∨ o'.stop raw ≤ o.offset
  have : Std.Symm Apart := ⟨fun _ _ => Or.symm⟩
  have hd : os.Pairwise Apart := h.apart.imp .inl
  have hne : o ≠ o' := by rintro rfl; omega
  have : o.offset ≤ o.stop raw := Nat.le_add_right ..
  cases hd.forall ho ho' hne <;> omega

-- A report is missing from the other list only because of an earlier one, which is in both.
theorem mem_of_mem (h : Leftmost raw Grammar t os) (h' : Leftmost raw Grammar t os') (ho : o ∈ os) :
    o ∈ os' := by
  induction hn : o.offset using Nat.strongRecOn generalizing o os os'
  case ind n hi =>
    have ⟨hg, hs⟩ := h.sound o ho
    obtain ⟨hm, -⟩ | ⟨o', ho', hl, hr⟩ := h'.complete _ _ _ hg hs
    case inl => exact hm
    case inr => exact absurd ⟨hl, hr⟩ <| h.not_inside ho <| hi _ (hn ▸ hl) h' h ho' rfl

theorem pairwise_lt (hraw : ∀ a, raw a ≠ []) (h : Leftmost raw Grammar t os) :
    os.Pairwise fun o o' => o.offset < o'.offset := by
  refine h.apart.imp fun {o o'} hs => ?_
  have : (raw o.item).byteLength ≠ 0 := mt byteLength_eq_zero_iff.mp (hraw o.item)
  unfold Occurrence.stop at hs
  omega

theorem unique (hraw : ∀ a, raw a ≠ []) (h : Leftmost raw Grammar t os) (h' : Leftmost raw Grammar t os') :
    os = os' := by
  have hl := h.pairwise_lt hraw
  have hl' := h'.pairwise_lt hraw
  have hne {a b : Occurrence α} (hab : a.offset < b.offset) : a ≠ b := fun he => by simp [he] at hab
  have hp : os.Perm os' := by
    refine (List.perm_ext_iff_of_nodup (hl.imp hne) (hl'.imp hne)).mpr fun o => ?_
    exact ⟨h.mem_of_mem h', h'.mem_of_mem h⟩
  exact hp.eq_of_pairwise (fun _ _ _ _ hab hba => absurd hab (Nat.lt_asymm hba)) hl hl'

end Leftmost

theorem Segment.occurrences_pairwise (raw : α → Text) (n : Nat) (segments : List (Segment α)) :
    (Segment.occurrences raw n segments).Pairwise fun o o' => o.stop raw ≤ o'.offset := by
  induction segments generalizing n
  case nil => exact .nil
  case cons s rest hi =>
    cases s
    case plain => exact hi _
    case item => exact List.pairwise_cons.mpr ⟨fun _ => Segment.le_offset, hi _⟩

theorem Segment.map_item_occurrences (raw : α → Text) (n : Nat) (segments : List (Segment α)) :
    (Segment.occurrences raw n segments).map Occurrence.item = segments.filterMap Segment.item? := by
  induction segments generalizing n
  case nil => rfl
  case cons s rest hi =>
    cases s
    case plain => exact hi _
    case item a => exact congrArg (a :: ·) (hi _)

namespace Recogniser

variable {r : Recogniser α} {WellFormed : α → Prop} {a : α} {m t pre post : Text} {write : α → Text}

theorem mem_items_iff : a ∈ r.items t ↔ ∃ o ∈ r.occurrences t, o.item = a := by
  have h : (r.occurrences t).map Occurrence.item = r.items t := Segment.map_item_occurrences ..
  rw [← h, List.mem_map]

theorem Lawful.exists_append_of_mem_occurrences (hr : r.Lawful) {o : Occurrence α} (ho : o ∈ r.occurrences t) :
    ∃ pre post, t = pre ++ r.raw o.item ++ post ∧ o.offset = pre.byteLength := by
  have ⟨ps, qs, hp, hn⟩ := hr.exists_of_mem_occurrences ho
  have hj : Piece.join r.raw (r.pieces t) = t := hr.join_pieces t
  refine ⟨Piece.join r.raw ps, Piece.join r.raw qs, ?_, hn⟩
  rw [← hj, hp]
  simp [Piece.text]

-- The cases are those of the cut: before the place of the item the text has gone on by a character or by
-- an item, or this item or a longer one is read off where the place is reached.
theorem Reads.exists_occurrence (hr : r.Reads WellFormed) (ha : WellFormed a) (n : Nat)
    (ht : t = pre ++ r.raw a ++ post) :
    ⟨n + pre.byteLength, a⟩ ∈ Segment.occurrences r.raw n (r.segments t) ∨
      ∃ o ∈ Segment.occurrences r.raw n (r.segments t),
        o.offset < n + pre.byteLength ∧ n + pre.byteLength < o.stop r.raw := by
  induction t using hr.lawful.induction generalizing n pre
  case nil => simp [hr.raw_ne_nil] at ht
  case plain c t hn hi =>
    rw [segments_cons hn, Segment.occurrences]
    cases pre
    case nil =>
      have hs := hr.atStart?_append ha post
      rw [← List.nil_append (r.raw a), ← ht, hn] at hs
      simp at hs
    case cons d pre =>
      obtain ⟨rfl, hp⟩ : c = d ∧ t = pre ++ r.raw a ++ post := by simpa using ht
      simpa [Nat.add_assoc] using hi (n + c.utf8Size) hp
  case item b t hb hi =>
    rw [hr.lawful.segments_append hb, Segment.occurrences]
    rw [List.append_assoc] at ht
    have hcases : (∃ w, pre = r.raw b ++ w ∧ t = w ++ (r.raw a ++ post)) ∨
        pre.byteLength < (r.raw b).byteLength :=
      (Nat.lt_or_ge ..).symm.imp_left <| exists_eq_append_of_byteLength_le ht
    obtain ⟨w, rfl, hw⟩ | hl := hcases
    case inl =>
      obtain hm | ⟨o, ho, hs⟩ := hi (n + (r.raw b).byteLength) (by simpa using hw)
      case inl => exact .inl <| List.mem_cons_of_mem _ <| by simpa [Nat.add_assoc] using hm
      case inr => exact .inr ⟨o, List.mem_cons_of_mem _ ho, by simpa [Nat.add_assoc] using hs⟩
    case inr =>
      cases pre
      case nil =>
        have hs := hr.atStart?_append ha post
        obtain rfl : b = a := by simpa [ht, hs, eq_comm] using hb
        exact .inl <| by simp
      case cons c pre =>
        have := c.utf8Size_pos
        refine .inr ⟨⟨n, b⟩, List.mem_cons_self, ?_, Nat.add_lt_add_left hl n⟩
        simp
        omega

-- A text stays as it is up to the first item.
theorem Lawful.prefix_rewrite (hr : r.Lawful) (n : Nat) (ht : t = m ++ post)
    (h : ∀ o ∈ Segment.occurrences r.raw n (r.segments t), n + m.byteLength ≤ o.offset) :
    m <+: r.rewrite write t := by
  induction t using hr.induction generalizing m n
  case nil =>
    obtain ⟨rfl, -⟩ := List.append_eq_nil_iff.mp ht.symm
    exact List.nil_prefix
  case plain c t hn hi =>
    rw [segments_cons hn, Segment.occurrences] at h
    rw [hr.rewrite_cons hn]
    cases m
    case nil => exact List.nil_prefix
    case cons d m =>
      obtain ⟨rfl, hm⟩ : c = d ∧ t = m ++ post := by simpa using ht
      have hp : m <+: r.rewrite write t := hi (n + c.utf8Size) hm fun o ho => by
        simpa [Nat.add_assoc] using h o ho
      exact List.cons_prefix_cons.mpr ⟨rfl, hp⟩
  case item a t ha hi =>
    rw [hr.segments_append ha, Segment.occurrences] at h
    have hm : n + m.byteLength ≤ n := h _ List.mem_cons_self
    obtain rfl : m = [] := byteLength_eq_zero_iff.mp <| by omega
    exact List.nil_prefix

-- A stretch of a text that no item reaches into is still there after the items have been written anew.
theorem Reads.infix_rewrite (hr : r.Reads WellFormed) (n : Nat) (ht : t = pre ++ m ++ post)
    (h : ∀ o ∈ Segment.occurrences r.raw n (r.segments t),
      o.stop r.raw ≤ n + pre.byteLength ∨ n + (pre ++ m).byteLength ≤ o.offset) :
    m <:+: r.rewrite write t := by
  have hl := hr.lawful
  induction t using hl.induction generalizing pre n
  case nil =>
    obtain ⟨hm, -⟩ := List.append_eq_nil_iff.mp ht.symm
    obtain ⟨-, rfl⟩ := List.append_eq_nil_iff.mp hm
    exact List.nil_infix
  case plain c t hn hi =>
    cases pre
    case nil =>
      refine (hl.prefix_rewrite n (by simpa using ht) fun o ho => ?_).isInfix
      have hs : n ≤ o.offset := Segment.le_offset ho
      have hraw : (r.raw o.item).byteLength ≠ 0 := mt byteLength_eq_zero_iff.mp (hr.raw_ne_nil o.item)
      have := h o ho
      simp [Occurrence.stop] at this
      omega
    case cons d pre =>
      rw [segments_cons hn, Segment.occurrences] at h
      rw [hl.rewrite_cons hn]
      obtain ⟨rfl, hm⟩ : c = d ∧ t = pre ++ m ++ post := by simpa using ht
      have hp : m <:+: r.rewrite write t := hi (n + c.utf8Size) hm fun o ho => by
        simpa [Nat.add_assoc] using h o ho
      exact hp.trans (List.suffix_cons ..).isInfix
  case item a t ha hi =>
    rw [hl.segments_append ha, Segment.occurrences] at h
    rw [hl.rewrite_append ha]
    obtain hs | hm := h _ List.mem_cons_self
    case inl =>
      have hb : (r.raw a).byteLength ≤ pre.byteLength := by simpa [Occurrence.stop] using hs
      obtain ⟨w, rfl, hw⟩ := exists_eq_append_of_byteLength_le (by simpa using ht) hb
      have hp : m <:+: r.rewrite write t := hi (n + (r.raw a).byteLength) (by simpa using hw) fun o ho => by
        simpa [Nat.add_assoc] using h o (.tail _ ho)
      exact hp.trans (List.suffix_append ..).isInfix
    case inr =>
      obtain rfl : m = [] := byteLength_eq_zero_iff.mp <| by simp at hm; omega
      exact List.nil_infix

theorem Reads.leftmost (hr : r.Reads WellFormed) {Grammar : Text → α → Prop}
    (hg : ∀ m a, Grammar m a ↔ WellFormed a ∧ r.raw a = m) (t : Text) :
    Leftmost r.raw Grammar t (r.occurrences t) where
  sound o ho := by
    have ⟨pre, post, ht, hn⟩ := hr.lawful.exists_append_of_mem_occurrences ho
    have hi : o.item ∈ r.items t := mem_items_iff.mpr ⟨o, ho, rfl⟩
    refine ⟨(hg _ _).mpr ⟨hr.wellFormed_of_mem_items hi, rfl⟩, ?_⟩
    exact (standsAt_iff <| hr.raw_ne_nil _).mpr ⟨pre, post, ht, hn.symm⟩
  apart := Segment.occurrences_pairwise ..
  complete m a n hm hs := by
    obtain ⟨ha, rfl⟩ := (hg m a).mp hm
    obtain ⟨pre, post, ht, rfl⟩ := (standsAt_iff <| hr.raw_ne_nil a).mp hs
    have h := hr.exists_occurrence ha 0 ht
    rw [Nat.zero_add] at h
    exact h.imp_left fun h => ⟨h, rfl⟩

theorem Reads.occurrences_eq_iff (hr : r.Reads WellFormed) {Grammar : Text → α → Prop}
    (hg : ∀ m a, Grammar m a ↔ WellFormed a ∧ r.raw a = m) {os : List (Occurrence α)} :
    r.occurrences t = os ↔ Leftmost r.raw Grammar t os where
  mp h := h ▸ hr.leftmost hg t
  mpr := (hr.leftmost hg t).unique hr.raw_ne_nil

end Recogniser
end Stencil.Text
