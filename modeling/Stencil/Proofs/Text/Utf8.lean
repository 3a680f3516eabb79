import Stencil.Text.Utf8

/-!
The bytes of a text and its characters tell the same about what stands where. The bytes of one text can
stand among those of another only where its characters do, since no character starts inside of another
(`StandsAt.iff_append`).
-/
namespace Stencil.Text

variable {s t u : Text} {before after : ByteArray} {n : Nat}

-- The bytes of `u` stand at this offset in those of `t`.
def StandsAt (u t : Text) (offset : Nat) : Prop :=
  ∃ before after : ByteArray, toUtf8 t = before ++ toUtf8 u ++ after ∧ before.size = offset

theorem toUtf8_append (s t : Text) : toUtf8 (s ++ t) = toUtf8 s ++ toUtf8 t :=
  List.utf8Encode_append

theorem size_toUtf8 (t : Text) : (toUtf8 t).size = t.byteLength := by
  induction t
  case nil => rfl
  case cons c t hi =>
    have hc : (toUtf8 [c]).size = c.utf8Size := by
      change [c].utf8Encode.size = _
      rw [List.utf8Encode_singleton, List.size_toByteArray, String.length_utf8EncodeChar]
    rw [← List.singleton_append, toUtf8_append, ByteArray.size_append, hc, hi]
    rfl

-- The byte at the offset starts a character of the longer text as it does one of the shorter.
theorem isValid_of_toUtf8_eq (hu : u ≠ []) (h : toUtf8 t = before ++ (toUtf8 u ++ after)) :
    String.Pos.Raw.IsValid (String.ofList t) ⟨before.size⟩ := by
  obtain ⟨c, v, rfl⟩ := List.exists_cons_of_ne_nil hu
  have hb : (toUtf8 (c :: v) ++ after) = (String.utf8EncodeChar c).toByteArray ++ (toUtf8 v ++ after) := by
    rw [← List.singleton_append, toUtf8_append, ByteArray.append_assoc]
    congr 1
    exact List.utf8Encode_singleton
  have hl : before.size < (toUtf8 t).size := by
    have := c.utf8Size_pos
    rw [h, hb]
    simp only [ByteArray.size_append, List.size_toByteArray, String.length_utf8EncodeChar]
    omega
  refine String.Pos.Raw.isValid_iff_isUTF8FirstByte.mpr <| .inr ⟨?lt, ?first⟩
  case lt => exact hl
  case first =>
    change (toUtf8 t)[before.size].IsUTF8FirstByte
    simp only [h, hb, ByteArray.getElem_append_right (Nat.le_refl _), Nat.sub_self]
    exact ByteArray.isUTF8FirstByte_getElem_zero_utf8EncodeChar_append

theorem exists_of_toUtf8_eq (hu : u ≠ []) (h : toUtf8 t = before ++ toUtf8 u ++ after) :
    ∃ pre post, t = pre ++ u ++ post ∧ toUtf8 pre = before := by
  rw [ByteArray.append_assoc] at h
  have ⟨s₁, s₂, hs, hp⟩ := String.Pos.Raw.isValid_iff_exists_append.mp <| isValid_of_toUtf8_eq hu h
  have hb : before ++ (toUtf8 u ++ after) = s₁.toByteArray ++ s₂.toByteArray := by
    rw [← h, ← String.toByteArray_append, ← hs]
    rfl
  have hn : before.size = s₁.toByteArray.size := congrArg String.Pos.Raw.byteIdx hp
  have ⟨h₁, h₂⟩ := (ByteArray.append_eq_append_iff_of_size_eq_left hn).mp hb
  have ⟨post, hu⟩ : u <+: s₂.toList :=
    List.isPrefix_of_utf8Encode_append_eq_utf8Encode after <| h₂.trans String.utf8Encode_toList.symm
  refine ⟨s₁.toList, post, ?text, ?bytes⟩
  case text =>
    rw [List.append_assoc, hu, ← String.toList_append, ← hs, String.toList_ofList]
  case bytes => exact String.utf8Encode_toList.trans h₁.symm

theorem standsAt_iff (hu : u ≠ []) :
    StandsAt u t n ↔ ∃ pre post, t = pre ++ u ++ post ∧ pre.byteLength = n := by
  constructor
  case mp =>
    rintro ⟨before, after, h, rfl⟩
    obtain ⟨pre, post, ht, rfl⟩ := exists_of_toUtf8_eq hu h
    exact ⟨pre, post, ht, (size_toUtf8 pre).symm⟩
  case mpr =>
    rintro ⟨pre, post, rfl, rfl⟩
    exact ⟨toUtf8 pre, toUtf8 post, by simp only [toUtf8_append], size_toUtf8 pre⟩

end Stencil.Text
