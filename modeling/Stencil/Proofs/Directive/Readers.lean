import Stencil.Proofs.Directive.Variable
import Stencil.Proofs.Text.Bytes

/-!
What is read of the bytes of a text from an offset on, one byte after another: runs of a class of bytes, fixed
texts, and what goes on to a marker. At a boundary this comes to what is read of the characters, also where
they have several bytes.
-/
namespace Stencil.Directive

open Text

def isSpaceByte (b : UInt8) : Bool :=
  b = 0x20 || b = 0x09 || b = 0x0a || b = 0x0b || b = 0x0c || b = 0x0d

def isWordByte (b : UInt8) : Bool :=
  (0x30 ≤ b && b ≤ 0x39) || (0x41 ≤ b && b ≤ 0x5a) || (0x61 ≤ b && b ≤ 0x7a) || b = 0x5f

-- The first offset from here on at which no byte of this class stands.
def advance (q : UInt8 → Bool) (bs : List UInt8) (i : Nat) : Nat :=
  if h : i < bs.length then if q bs[i] then advance q bs (i + 1) else i else i
termination_by bs.length - i

-- The offset after a text that stands here.
def expect? (lit : Text) (bs : List UInt8) (i : Nat) : Option Nat :=
  if i ≤ bs.length && (bytes lit).isPrefixOf (bs.drop i) then some (i + (bytes lit).length) else none

-- The offset of the first marker from here on, which no bar comes before.
def markerBeforeBar? (bs : List UInt8) (i : Nat) : Option Nat :=
  if h : i < bs.length then
    if bs[i] = 0x7c then none
    else if bs[i] = 0x23 ∧ bs[i + 1]? = some 0x23 then some i
    else markerBeforeBar? bs (i + 1)
  else none
termination_by bs.length - i

theorem agrees_isSpace : Agrees isSpace isSpaceByte :=
  .or (.or (.or (.or (.or (.eq (by decide)) (.eq (by decide))) (.eq (by decide))) (.eq (by decide)))
    (.eq (by decide))) (.eq (by decide))

theorem agrees_isWord : Agrees isWord isWordByte := by
  refine .of_ascii false (by decide) (fun b hb => ?byte) fun c hc => ?char
  case byte =>
    simp only [isWordByte, UInt8.le_iff_toNat_le, ← UInt8.toNat_inj] at *
    simp at *
    omega
  case char =>
    have hn : c ≠ '_' := by
      rintro rfl
      contradiction
    have hw : isWord c = (decide (65 ≤ c.val ∧ c.val ≤ 90) || (97 ≤ c.val && c.val ≤ 122) ||
        (48 ≤ c.val && c.val ≤ 57) || c = '_') := rfl
    simp only [hw, UInt32.le_iff_toNat_le]
    simp [hn]
    omega

variable {t u v lit : Text} {i : Nat} {p : Char → Bool} {q : UInt8 → Bool}

theorem advance_eq (q : UInt8 → Bool) (bs : List UInt8) (i : Nat) :
    advance q bs i = i + ((bs.drop i).takeWhile q).length := by
  fun_induction advance q bs i
  case case1 i h hq hi =>
    rw [hi, List.drop_eq_getElem_cons h, List.takeWhile_cons_of_pos hq, List.length_cons]
    omega
  case case2 i h hq =>
    rw [List.drop_eq_getElem_cons h, List.takeWhile_cons_of_neg hq, List.length_nil, Nat.add_zero]
  case case3 i h => simp [List.drop_eq_nil_of_le <| Nat.le_of_not_lt h]

theorem advance_eq_of_rest (ha : Agrees p q) (hu : Rest t i u) :
    advance q t.bytes i = i + byteLength (u.takeWhile p) := by
  rw [advance_eq, hu.drop, ha.takeWhile, length_bytes]

theorem expect?_eq (lit : Text) (hu : Rest t i u) :
    expect? lit t.bytes i = (lit.isPrefixOf? u).map fun _ => i + lit.byteLength := by
  have hb : (bytes lit).isPrefixOf u.bytes ↔ lit <+: u := List.isPrefixOf_iff_prefix.trans bytes_prefix_iff
  rw [expect?, hu.drop, length_bytes lit]
  cases hl : lit.isPrefixOf? u
  case none =>
    have hn : ¬ lit <+: u := by
      rintro ⟨rest, rfl⟩
      simp [isPrefixOf?_append] at hl
    rw [if_neg <| by simp [hb, hn]]
    rfl
  case some rest =>
    have hp : lit <+: u := ⟨rest, List.isPrefixOf?_eq_some_iff_append_eq.mp hl⟩
    rw [if_pos <| by simpa [hb, hp] using hu.le]
    rfl

theorem utf8Size_of_isSpace {c : Char} (h : isSpace c) : c.utf8Size = 1 := by
  simp only [isSpace, Bool.or_eq_true, decide_eq_true_eq] at h
  rcases h with ((((h | h) | h) | h) | h) | h <;> subst h <;> rfl

theorem markerBeforeBar?_of_drop {bs rest : List UInt8} {b : UInt8} (h : bs.drop i = b :: rest) :
    markerBeforeBar? bs i = if b = 0x7c then none
      else if b = 0x23 ∧ rest.head? = some 0x23 then some i
      else markerBeforeBar? bs (i + 1) := by
  have hi : i < bs.length := by
    have := congrArg List.length h
    simp at this
    omega
  rw [List.drop_eq_getElem_cons hi] at h
  obtain ⟨rfl, rfl⟩ := List.cons.inj h
  rw [markerBeforeBar?, dif_pos hi, List.head?_drop]

-- Characters other than bars and number signs are passed over with all of their bytes.
theorem markerBeforeBar?_append {bs s rest : List UInt8} (h : bs.drop i = s ++ rest)
    (hs : ∀ b ∈ s, b ≠ 0x7c ∧ b ≠ 0x23) : markerBeforeBar? bs i = markerBeforeBar? bs (i + s.length) := by
  induction s generalizing i
  case nil => rfl
  case cons b s hi =>
    obtain ⟨⟨hb, hb'⟩, hs⟩ := List.forall_mem_cons.mp hs
    have hd : bs.drop (i + 1) = s ++ rest := by
      rw [← List.drop_drop, h]
      rfl
    rw [markerBeforeBar?_of_drop h, if_neg hb, if_neg fun h => hb' h.left, hi hd hs, List.length_cons]
    congr 1
    omega

theorem markerBeforeBar?_eq (hu : Rest t i u) :
    markerBeforeBar? t.bytes i = (Variable.alternativeAt? u).map fun (f, _) => i + f.byteLength := by
  fun_induction Variable.alternativeAt? u generalizing i
  case case1 u =>
    rw [markerBeforeBar?_of_drop hu.drop]
    rfl
  case case2 =>
    have hl : ¬ i < t.bytes.length := by
      have := congrArg List.length hu.drop
      simp at this ⊢
      omega
    rw [markerBeforeBar?, dif_neg hl]
    rfl
  case case3 =>
    rw [markerBeforeBar?_of_drop hu.drop]
    rfl
  case case4 c u hs hc hi =>
    rw [Option.map_map]
    have hn : markerBeforeBar? t.bytes i = markerBeforeBar? t.bytes (i + c.utf8Size) := by
      by_cases hm : c = '#'
      case pos =>
        subst hm
        rw [markerBeforeBar?_of_drop hu.drop, if_neg (by decide), if_neg]
        · rfl
        · rintro ⟨-, hh⟩
          have hh := (Rest.getElem?_eq_some_iff (a := '#') hu.tail (by decide)).mp <| hu.tail.getElem?.trans hh
          obtain ⟨v, rfl⟩ := List.head?_eq_some_iff.mp hh
          exact hs v rfl rfl
      case neg =>
        rw [markerBeforeBar?_append hu.drop, String.length_utf8EncodeChar]
        intro b hb
        have hbar := Agrees.eq (a := '|') (by decide) c b hb
        have hsign := Agrees.eq (a := '#') (by decide) c b hb
        simpa [hc, hm] using And.intro hbar hsign
    rw [hn, hi hu.tail]
    simp [Function.comp_def, Nat.add_assoc]

end Stencil.Directive
