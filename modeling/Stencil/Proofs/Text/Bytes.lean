import Stencil.Proofs.Text.Basic
import Stencil.Proofs.Text.Utf8
import Stencil.Text.Blank

/-!
The bytes of a text as a list, and offsets into it. An offset at which the text goes on with a given rest
(`Rest`) is a boundary between characters, and what stands there can be told from the bytes of the rest.
-/
namespace Stencil.Text

def bytes (t : Text) : List UInt8 :=
  t.flatMap String.utf8EncodeChar

-- A byte within a character, other than its first one.
def isContinuation (b : UInt8) : Bool :=
  0x80 ≤ b && b ≤ 0xbf

-- The offsets at which a text can be cut.
def isBoundary (bs : List UInt8) (i : Nat) : Bool :=
  i = 0 || match bs[i]? with
    | none => i = bs.length
    | some b => !isContinuation b

structure Span where
  start : Nat
  stop : Nat
deriving DecidableEq

-- The bounds are in order, within the text, and both of them boundaries.
def Span.Sound (bs : List UInt8) (s : Span) : Prop :=
  s.start ≤ s.stop ∧ s.stop ≤ bs.length ∧ isBoundary bs s.start ∧ isBoundary bs s.stop

instance (bs : List UInt8) (s : Span) : Decidable (s.Sound bs) :=
  inferInstanceAs <| Decidable (_ ∧ _)

-- The text from a byte offset on.
def Rest (t : Text) (i : Nat) (u : Text) : Prop :=
  ∃ pre, t = pre ++ u ∧ pre.byteLength = i

variable {s t u v lit : Text} {i : Nat} {a c : Char} {p p' : Char → Bool} {q q' : UInt8 → Bool}

@[simp]
theorem bytes_nil : bytes [] = [] :=
  rfl

@[simp]
theorem bytes_cons (c : Char) (t : Text) : bytes (c :: t) = String.utf8EncodeChar c ++ bytes t :=
  rfl

@[simp]
theorem bytes_append (s t : Text) : bytes (s ++ t) = bytes s ++ bytes t :=
  List.flatMap_append

@[simp]
theorem length_bytes (t : Text) : t.bytes.length = t.byteLength := by
  induction t <;> simp_all

theorem utf8EncodeChar_of_lt (h : c.toNat < 0x80) : String.utf8EncodeChar c = [UInt8.ofNat c.toNat] :=
  if_pos <| Nat.le_of_lt_succ h

-- All bytes of a character beyond ASCII are beyond ASCII.
theorem le_of_mem_utf8EncodeChar (h : 0x80 ≤ c.toNat) {b : UInt8} (hb : b ∈ String.utf8EncodeChar c) :
    0x80 ≤ b := by
  have hc : ¬ c.val.toNat ≤ 127 := Nat.not_le_of_lt h
  simp only [String.utf8EncodeChar, if_neg hc] at hb
  have hn : ∃ n, 0x80 ≤ n ∧ n < 0x100 ∧ b = UInt8.ofNat n := by
    split at hb
    case isTrue =>
      simp only [List.mem_cons, List.not_mem_nil, or_false] at hb
      obtain rfl | rfl := hb <;> exact ⟨_, by omega, by omega, rfl⟩
    case isFalse =>
      split at hb
      all_goals
        simp only [List.mem_cons, List.not_mem_nil, or_false] at hb
      case isTrue => obtain rfl | rfl | rfl := hb <;> exact ⟨_, by omega, by omega, rfl⟩
      case isFalse => obtain rfl | rfl | rfl | rfl := hb <;> exact ⟨_, by omega, by omega, rfl⟩
  obtain ⟨n, hl, hu, rfl⟩ := hn
  simpa [UInt8.le_iff_toNat_le, Nat.mod_eq_of_lt hu] using hl

-- A character does not start with a byte that only continues one.
theorem exists_utf8EncodeChar_eq_cons (c : Char) :
    ∃ b bs, String.utf8EncodeChar c = b :: bs ∧ isContinuation b = false := by
  have hn : ∃ n bs, String.utf8EncodeChar c = UInt8.ofNat n :: bs ∧ n < 0x100 ∧ (n < 0x80 ∨ 0xbf < n) := by
    dsimp only [String.utf8EncodeChar]
    split
    case isTrue h => exact ⟨_, _, rfl, by omega, by omega⟩
    case isFalse =>
      split
      case isTrue => exact ⟨_, _, rfl, by omega, by omega⟩
      case isFalse => split <;> exact ⟨_, _, rfl, by omega, by omega⟩
  obtain ⟨n, bs, hc, hu, hn⟩ := hn
  refine ⟨_, bs, hc, ?_⟩
  simp [isContinuation, UInt8.le_iff_toNat_le, Nat.mod_eq_of_lt hu]
  omega

-- The bytes of a text start with those of another one only if its characters do.
theorem bytes_prefix_iff : s.bytes <+: t.bytes ↔ s <+: t where
  mp := by
    rintro ⟨rest, hr⟩
    refine List.isPrefix_of_utf8Encode_append_eq_utf8Encode rest.toByteArray ?_
    rw [List.utf8Encode, List.utf8Encode, ← List.toByteArray_append]
    exact congrArg List.toByteArray hr
  mpr := by
    rintro ⟨rest, rfl⟩
    exact ⟨bytes rest, (bytes_append s rest).symm⟩

namespace Rest

theorem zero (t : Text) : Rest t 0 t :=
  ⟨[], rfl, rfl⟩

theorem append (h : Rest t i (s ++ u)) : Rest t (i + s.byteLength) u := by
  obtain ⟨pre, rfl, rfl⟩ := h
  exact ⟨pre ++ s, by simp, by simp⟩

theorem tail (h : Rest t i (c :: u)) : Rest t (i + c.utf8Size) u :=
  append (s := [c]) h

theorem dropWhile (h : Rest t i u) (p : Char → Bool) :
    Rest t (i + byteLength (u.takeWhile p)) (u.dropWhile p) :=
  append <| by rwa [List.takeWhile_append_dropWhile]

theorem le (h : Rest t i u) : i ≤ t.bytes.length := by
  obtain ⟨pre, rfl, rfl⟩ := h
  simp

theorem drop (h : Rest t i u) : t.bytes.drop i = u.bytes := by
  obtain ⟨pre, rfl, rfl⟩ := h
  simp [← length_bytes]

theorem getElem? (h : Rest t i u) : t.bytes[i]? = u.bytes.head? := by
  rw [← h.drop, List.head?_drop]

theorem isBoundary (h : Rest t i u) : isBoundary t.bytes i := by
  rw [Text.isBoundary, h.getElem?]
  cases u
  case nil =>
    obtain ⟨pre, rfl, rfl⟩ := h
    simp
  case cons c u =>
    obtain ⟨b, bs, hc, hb⟩ := exists_utf8EncodeChar_eq_cons c
    simp [hc, hb]

theorem sound (h : Rest t i (s ++ u)) : Span.Sound t.bytes ⟨i, i + s.byteLength⟩ :=
  ⟨Nat.le_add_right .., h.append.le, h.isBoundary, h.append.isBoundary⟩

theorem take_drop (h : Rest t i (s ++ u)) : (t.bytes.take (i + s.byteLength)).drop i = s.bytes := by
  rw [List.drop_take, h.drop, Nat.add_sub_cancel_left, bytes_append, ← length_bytes s, List.take_left]

end Rest

-- A class of bytes that has all bytes of the characters of a class, and none of those of other characters.
def Agrees (p : Char → Bool) (q : UInt8 → Bool) : Prop :=
  ∀ c, ∀ b ∈ String.utf8EncodeChar c, q b = p c

namespace Agrees

-- Only the characters of ASCII have to be told apart one by one.
theorem of_ascii (value : Bool) (ascii : ∀ n < 0x80, q (UInt8.ofNat n) = p (Char.ofNat n))
    (byte : ∀ b, 0x80 ≤ b → q b = value) (char : ∀ c, 0x80 ≤ c.toNat → p c = value) : Agrees p q := by
  intro c b hb
  by_cases hc : c.toNat < 0x80
  case pos =>
    rw [utf8EncodeChar_of_lt hc, List.mem_singleton] at hb
    rw [hb, ascii _ hc, Char.ofNat_toNat]
  case neg =>
    have hc := Nat.le_of_not_lt hc
    rw [byte b <| le_of_mem_utf8EncodeChar hc hb, char c hc]

theorem eq (ha : a.toNat < 0x80) : Agrees (· = a) (· = UInt8.ofNat a.toNat) := by
  intro c b hb
  by_cases hc : c = a
  case pos =>
    subst hc
    rw [utf8EncodeChar_of_lt ha, List.mem_singleton] at hb
    simp [hb]
  case neg =>
    suffices b ≠ UInt8.ofNat a.toNat by simp [this, hc]
    intro he
    by_cases hl : c.toNat < 0x80
    case pos =>
      rw [utf8EncodeChar_of_lt hl, List.mem_singleton, he] at hb
      have hn := congrArg UInt8.toNat hb
      simp only [UInt8.toNat_ofNat'] at hn
      exact hc <| Char.toNat_inj.mp <| by omega
    case neg =>
      have hb := le_of_mem_utf8EncodeChar (Nat.le_of_not_lt hl) hb
      rw [he, UInt8.le_iff_toNat_le, UInt8.toNat_ofNat'] at hb
      have : (0x80 : UInt8).toNat = 0x80 := rfl
      omega

theorem not (h : Agrees p q) : Agrees (! p ·) (! q ·) :=
  fun c b hb => congrArg _ <| h c b hb

theorem ne (ha : a.toNat < 0x80) : Agrees (· ≠ a) (· ≠ UInt8.ofNat a.toNat) := by
  intro c b hb
  simpa using congrArg (! ·) <| eq ha c b hb

theorem and (h : Agrees p q) (h' : Agrees p' q') : Agrees (fun c => p c && p' c) (fun b => q b && q' b) :=
  fun c b hb => congrArg₂ _ (h c b hb) (h' c b hb)

theorem or (h : Agrees p q) (h' : Agrees p' q') : Agrees (fun c => p c || p' c) (fun b => q b || q' b) :=
  fun c b hb => congrArg₂ _ (h c b hb) (h' c b hb)

theorem takeWhile (h : Agrees p q) (u : Text) :
    u.bytes.takeWhile q = bytes (u.takeWhile p) := by
  induction u
  case nil => rfl
  case cons c u hi =>
    obtain ⟨b, bs, hc, -⟩ := exists_utf8EncodeChar_eq_cons c
    cases hp : p c
    case true =>
      have hq : ∀ b ∈ String.utf8EncodeChar c, q b := fun b hb => (h c b hb).trans hp
      rw [bytes_cons, List.takeWhile_append_of_pos hq, hi, List.takeWhile_cons_of_pos hp, bytes_cons]
    case false =>
      have hq : q b = false := (h c b <| by simp [hc]).trans hp
      simp [hc, hq, hp]

theorem any_getElem? (h : Agrees p q) (hu : Rest t i u) : t.bytes[i]?.any q = u.head?.any p := by
  rw [hu.getElem?]
  cases u
  case nil => rfl
  case cons c u =>
    obtain ⟨b, bs, hc, -⟩ := exists_utf8EncodeChar_eq_cons c
    simpa [hc] using h c b <| by simp [hc]

theorem dropWhile_flatMap {f : Char → List UInt8} (hf : ∀ c, f c ≠ []) (h : ∀ c, ∀ b ∈ f c, q b = p c)
    (u : Text) : (u.flatMap f).dropWhile q = (u.dropWhile p).flatMap f := by
  induction u
  case nil => rfl
  case cons c u hi =>
    cases hp : p c
    case true =>
      have hq : ∀ b ∈ f c, q b := fun b hb => (h c b hb).trans hp
      rw [List.flatMap_cons, List.dropWhile_append_of_pos hq, hi, List.dropWhile_cons_of_pos hp]
    case false =>
      obtain ⟨b, bs, hc⟩ := List.exists_cons_of_ne_nil <| hf c
      have hq : q b = false := (h c b <| by simp [hc]).trans hp
      simp [hc, hq, hp]

-- Bytes at either end of a text are those of characters at its ends.
theorem trim (h : Agrees p q) (u : Text) :
    bytes (trim p u) = ((u.bytes.dropWhile q).reverse.dropWhile q).reverse := by
  have hne (c : Char) : String.utf8EncodeChar c ≠ [] := by
    obtain ⟨b, bs, hc, -⟩ := exists_utf8EncodeChar_eq_cons c
    simp [hc]
  have hr : ∀ c, ∀ b ∈ (String.utf8EncodeChar c).reverse, q b = p c :=
    fun c b hb => h c b <| List.mem_reverse.mp hb
  unfold Text.trim dropWhileEnd
  rw [bytes, bytes, dropWhile_flatMap hne h, List.reverse_flatMap]
  rw [← List.reverse_inj, List.reverse_flatMap, List.reverse_reverse, List.reverse_reverse]
  exact (dropWhile_flatMap (fun c => by simp [hne]) hr _).symm

end Agrees

-- A byte of ASCII tells which character stands at a boundary.
theorem Rest.getElem?_eq_some_iff (h : Rest t i u) (ha : a.toNat < 0x80) :
    t.bytes[i]? = some (UInt8.ofNat a.toNat) ↔ u.head? = some a := by
  have hu := (Agrees.eq ha).any_getElem? h
  rw [Bool.eq_iff_iff, Option.any_eq_true, Option.any_eq_true] at hu
  simpa only [decide_eq_true_eq, exists_eq_right] using hu

end Stencil.Text
