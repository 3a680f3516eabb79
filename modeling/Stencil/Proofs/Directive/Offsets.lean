import Stencil.Proofs.Directive.Readers
import Stencil.Proofs.Directive.Search

/-!
Directives read off the bytes of a text. The bounds of their parts are offsets, and they are those of the parts
that the recognisers read (`offsets?_eq`), so that the search cuts soundly in every text (`searches_sound`).
-/
namespace Stencil.Directive

open Text

variable {t u : Text} {i : Nat}

namespace Inclusion

def isTargetByte (b : UInt8) : Bool :=
  b ≠ 0x27 && !isSpaceByte b

-- The offset at which the directive ends that starts here, and the bounds of its target.
def offsets? (bs : List UInt8) (start : Nat) : Option (Nat × Span) := do
  let i ← expect? opening bs (advance isSpaceByte bs (start + marker.byteLength))
  let stop := advance isTargetByte bs i
  guard (stop ≠ i)
  let j ← expect? closing bs stop
  let j ← expect? marker bs (advance isSpaceByte bs j)
  return (j, ⟨i, stop⟩)

structure Slices where
  raw : List UInt8
  target : List UInt8
deriving DecidableEq

def cut : Cutter Slices := fun bs start => do
  let some (stop, target) := offsets? bs start | return none
  let raw ← slice bs ⟨start, stop⟩
  let target ← slice bs target
  return some (⟨raw, target⟩, stop)

theorem agrees_isTarget : Agrees isTarget isTargetByte :=
  .and (.ne (by decide)) (.not agrees_isSpace)

theorem offsets?_eq (hu : Rest t i u) (hm : marker <+: u) : offsets? t.bytes i =
    (atStart? u).map fun d => (i + d.raw.byteLength,
      ⟨i + (d.lead ++ opening).byteLength, i + (d.lead ++ opening ++ d.target).byteLength⟩) := by
  obtain ⟨u, rfl⟩ := hm
  replace hu : Rest t (i + marker.byteLength) u := hu.append
  have h₁ := hu.dropWhile isSpace
  rw [offsets?, atStart?, isPrefixOf?_append, advance_eq_of_rest agrees_isSpace hu, expect?_eq _ h₁]
  dsimp only [Option.bind_eq_bind, Option.bind_some]
  cases ho : opening.isPrefixOf? (u.dropWhile isSpace)
  case none => rfl
  case some u₂ =>
    rw [← List.isPrefixOf?_eq_some_iff_append_eq.mp ho] at h₁
    have h₂ := h₁.append.dropWhile isTarget
    dsimp only [Option.map_some, Option.bind_some]
    rw [advance_eq_of_rest agrees_isTarget h₁.append, expect?_eq _ h₂]
    by_cases ht : u₂.takeWhile isTarget = []
    case pos => simp [ht]
    case neg =>
      have hne := mt byteLength_eq_zero_iff.mp ht
      rw [guard, if_pos <| by omega, guard, if_pos ht]
      cases hc : closing.isPrefixOf? (u₂.dropWhile isTarget)
      case none => rfl
      case some u₃ =>
        rw [← List.isPrefixOf?_eq_some_iff_append_eq.mp hc] at h₂
        have h₃ := h₂.append.dropWhile isSpace
        simp only [Option.map_some, Option.bind_some, Option.pure_def]
        rw [advance_eq_of_rest agrees_isSpace h₂.append, expect?_eq _ h₃]
        cases marker.isPrefixOf? (u₃.dropWhile isSpace)
        case none => rfl
        case some => simp [lead, raw, Nat.add_assoc]

theorem marker_prefix_raw (d : Inclusion) : marker <+: d.raw := by
  simp [raw]

theorem follows_cut : Follows cut recogniser fun d => ⟨d.raw.bytes, d.target.bytes⟩ where
  lawful := recogniser_reads.lawful
  marker h := (marker_prefix_raw _).trans (of_atStart? h).right
  cut {t u i} hu hm := by
    change Yields _ (cut _ _) ((atStart? u).map _)
    rw [cut, offsets?_eq hu hm]
    cases hd : atStart? u
    case none => exact Yields.pure _ none
    case some d =>
      obtain ⟨-, rest, rfl⟩ := of_atStart? hd
      have ht : Rest t i ((d.lead ++ opening) ++ (d.target ++ (closing ++ (d.after ++ (marker ++ rest))))) := by
        simpa [raw, lead] using hu
      exact (Yields.slice hu).bind <| (Yields.slice_append ht).bind <| Yields.pure _ _

end Inclusion

namespace Variable

def isLabelByte (b : UInt8) : Bool :=
  isWordByte b || isSpaceByte b

def trimSpaceBytes (bs : List UInt8) : List UInt8 :=
  ((bs.dropWhile isSpaceByte).reverse.dropWhile isSpaceByte).reverse

-- Where a directive ends, and the bounds of its parts.
structure Offsets where
  stop : Nat
  name : Span
  default? : Option Span
  escaped : Bool

-- The end and the bounds of the parts, from the at sign on.
def parts? (bs : List UInt8) (i : Nat) : Option (Nat × Span × Option Span) := do
  let j := advance isLabelByte bs i
  guard (j ≠ i)
  if bs[j]? = some 0x7c then
    let k ← markerBeforeBar? bs (j + 1)
    let stop ← expect? marker bs k
    return (stop, ⟨i, j⟩, some ⟨j + 1, k⟩)
  else
    let stop ← expect? marker bs j
    return (stop, ⟨i, j⟩, none)

def offsets? (bs : List UInt8) (start : Nat) : Option Offsets := do
  let i := start + marker.byteLength
  guard (bs[i]?.any isSpaceByte)
  let escaped := bs[i + 1]? = some 0x65
  let i ← expect? ['@'] bs (if escaped then i + 2 else i + 1)
  let (stop, name, default?) ← parts? bs i
  return { stop, name, default?, escaped }

structure Slices where
  raw : List UInt8
  name : List UInt8
  default : List UInt8
  escaped : Bool
deriving DecidableEq

def sliceOrEmpty (bs : List UInt8) : Option Span → Slicing (List UInt8)
  | none => pure []
  | some s => slice bs s

def cut : Cutter Slices := fun bs start => do
  let some o := offsets? bs start | return none
  let raw ← slice bs ⟨start, o.stop⟩
  let name ← slice bs o.name
  let default ← sliceOrEmpty bs o.default?
  return some (⟨raw, trimSpaceBytes name, trimSpaceBytes default, o.escaped⟩, o.stop)

theorem agrees_isLabel : Agrees isLabel isLabelByte :=
  .or agrees_isWord agrees_isSpace

-- What comes before the name.
def lead (v : Variable) : Text :=
  v.head ++ ['@']

theorem raw_eq_lead_append (v : Variable) : v.raw = v.lead ++ (v.label ++ bar v.alternative? ++ marker) := by
  simp [raw_eq, lead, tail]

-- The parts of a variable of which the text begins behind the at sign.
def partsOf? (t : Text) : Option (Text × Option Text) := do
  let label := t.takeWhile isLabel
  guard (label ≠ [])
  match t.dropWhile isLabel with
  | '|' :: t =>
    let (alternative, _) ← alternativeAt? t
    return (label, some alternative)
  | t =>
    let _ ← marker.isPrefixOf? t
    return (label, none)

theorem atStart?_eq (gap : Char) (u : Text) : atStart? (marker ++ gap :: u) =
    if isSpace gap then
      match (if u.head? = some 'e' then u.tail else u) with
      | '@' :: t => (partsOf? t).map fun (label, alternative?) =>
        { gap, escaped := u.head? = some 'e', label, alternative? }
      | _ => none
    else none := by
  rw [atStart?, isPrefixOf?_append]
  dsimp only [Option.bind_eq_bind, Option.bind_some, Option.pure_def]
  cases hg : isSpace gap
  case false => rfl
  case true =>
    generalize (if u.head? = some 'e' then u.tail else u) = w
    cases w
    case nil => rfl
    case cons c w =>
      by_cases hc : c = '@'
      case neg => simp [hc]
      case pos =>
        subst hc
        change Option.bind (guard <| w.takeWhile isLabel ≠ []) _ = Option.map _ (partsOf? w)
        unfold partsOf?
        dsimp only [Option.bind_eq_bind, Option.pure_def]
        rw [Option.map_bind]
        congr 1
        funext _
        dsimp only [Function.comp_apply]
        generalize w.dropWhile isLabel = r
        cases r
        case nil => rfl
        case cons d r =>
          by_cases hd : d = '|'
          case pos =>
            subst hd
            change _ = Option.map _ (Option.bind (alternativeAt? r) _)
            rw [Option.map_bind]
            rfl
          case neg => simp [hd]

theorem parts?_eq (hu : Rest t i u) : parts? t.bytes i =
    (partsOf? u).map fun (label, alternative?) =>
      (i + byteLength (label ++ bar alternative? ++ marker), ⟨i, i + label.byteLength⟩,
        alternative?.map fun f => ⟨i + (label ++ ['|']).byteLength, i + (label ++ '|' :: f).byteLength⟩) := by
  have h := hu.dropWhile isLabel
  have hb : t.bytes[i + byteLength (u.takeWhile isLabel)]? = some 0x7c ↔
      (u.dropWhile isLabel).head? = some '|' := h.getElem?_eq_some_iff (a := '|') (by decide)
  rw [parts?, partsOf?, advance_eq_of_rest agrees_isLabel hu]
  dsimp only [Option.bind_eq_bind, Option.pure_def]
  by_cases hl : u.takeWhile isLabel = []
  case pos => simp [hl]
  case neg =>
    have hne := mt byteLength_eq_zero_iff.mp hl
    rw [guard, if_pos <| by omega, guard, if_pos hl]
    dsimp only [Option.pure_def, Option.bind_some]
    simp only [hb]
    split
    case isTrue hv =>
      obtain ⟨v, hv⟩ := List.head?_eq_some_iff.mp hv
      rw [hv] at h
      have hv' : Rest t (i + byteLength (u.takeWhile isLabel) + 1) v := h.tail
      rw [hv, markerBeforeBar?_eq hv']
      dsimp only
      cases ha : alternativeAt? v
      case none => simp [ha]
      case some fr =>
        obtain ⟨f, rest⟩ := fr
        obtain ⟨rfl, ⟨rest, rfl⟩, -⟩ := of_alternativeAt? ha
        dsimp only [Option.map_some, Option.bind_some]
        rw [expect?_eq marker hv'.append, isPrefixOf?_append]
        simp [ha, bar, Nat.add_assoc, show '|'.utf8Size = 1 from rfl]
    case isFalse hn =>
      rw [expect?_eq marker h]
      split
      case h_1 v hv => exact absurd (by simp [hv]) hn
      case h_2 => cases marker.isPrefixOf? (u.dropWhile isLabel) <;> simp [bar, Nat.add_assoc]

-- The at sign stands behind an `e` or at once.
theorem rest_sign (hu : Rest t (i + 1) u) :
    Rest t (if u.head? = some 'e' then i + 2 else i + 1) (if u.head? = some 'e' then u.tail else u) := by
  split
  case isFalse => exact hu
  case isTrue h =>
    obtain ⟨v, rfl⟩ := List.head?_eq_some_iff.mp h
    exact hu.tail

theorem byteLength_lead {v : Variable} (h : isSpace v.gap) (i : Nat) :
    i + v.lead.byteLength = (if v.escaped then i + marker.byteLength + 2 else i + marker.byteLength + 1) + 1 := by
  have hsizes : 'e'.utf8Size = 1 ∧ '@'.utf8Size = 1 := ⟨rfl, rfl⟩
  have hgap := utf8Size_of_isSpace h
  split <;> simp [lead, head, *] <;> omega

theorem offsets?_eq (hu : Rest t i u) (hm : marker <+: u) : offsets? t.bytes i =
    (atStart? u).map fun v => {
      stop := i + v.raw.byteLength
      name := ⟨i + v.lead.byteLength, i + (v.lead ++ v.label).byteLength⟩
      default? := v.alternative?.map fun f =>
        ⟨i + (v.lead ++ v.label ++ ['|']).byteLength, i + (v.lead ++ v.label ++ '|' :: f).byteLength⟩
      escaped := v.escaped } := by
  obtain ⟨u, rfl⟩ := hm
  replace hu : Rest t (i + marker.byteLength) u := hu.append
  rw [offsets?, agrees_isSpace.any_getElem? hu]
  cases u
  case nil => rfl
  case cons gap u =>
    rw [List.head?_cons, Option.any_some, atStart?_eq]
    cases hg : isSpace gap
    case false => rfl
    case true =>
      replace hu := hu.tail
      rw [utf8Size_of_isSpace hg] at hu
      have he : t.bytes[i + marker.byteLength + 1]? = some 0x65 ↔ u.head? = some 'e' :=
        hu.getElem?_eq_some_iff (a := 'e') (by decide)
      have hw := rest_sign hu
      have hl label alternative? := byteLength_lead (v := ⟨gap, u.head? = some 'e', label, alternative?⟩) hg i
      simp only [decide_eq_true_eq] at hl
      simp only [he, expect?_eq ['@'] hw]
      generalize (if u.head? = some 'e' then i + marker.byteLength + 2 else i + marker.byteLength + 1) = o at *
      generalize (if u.head? = some 'e' then u.tail else u) = w at *
      cases w
      case nil => rfl
      case cons c w =>
        by_cases hc : c = '@'
        case neg =>
          have hn : (['@'] : Text).isPrefixOf? (c :: w) = none := by simp [List.isPrefixOf?, Ne.symm hc]
          simp [hn, hc]
        case pos =>
          subst hc
          have hp : Rest t (o + 1) w := hw.tail
          change Option.bind (parts? t.bytes (o + 1)) _ = Option.map _ (Option.map _ (partsOf? w))
          rw [parts?_eq hp]
          cases partsOf? w
          case none => rfl
          case some parts =>
            obtain ⟨label, alternative?⟩ := parts
            simp only [Option.map_some, Option.bind_some, Option.pure_def, raw_eq_lead_append,
              byteLength_append, ← Nat.add_assoc, hl label alternative?]

theorem marker_prefix_raw (v : Variable) : marker <+: v.raw := by
  simp [raw]

theorem bytes_trimSpace (u : Text) : bytes (trimSpace u) = trimSpaceBytes u.bytes :=
  agrees_isSpace.trim u

theorem follows_cut :
    Follows cut recogniser fun v => ⟨v.raw.bytes, v.name.bytes, v.fallback.bytes, v.escaped⟩ where
  lawful := recogniser_reads.lawful
  marker h := (marker_prefix_raw _).trans (of_atStart? h).right
  cut {t u i} hu hm := by
    change Yields _ (cut _ _) ((atStart? u).map _)
    rw [cut, offsets?_eq hu hm]
    cases hv : atStart? u
    case none => exact Yields.pure _ none
    case some v =>
      obtain ⟨-, rest, rfl⟩ := of_atStart? hv
      have hl : Rest t i (v.lead ++ (v.label ++ (bar v.alternative? ++ (marker ++ rest)))) := by
        simpa [raw_eq_lead_append] using hu
      refine (Yields.slice hu).bind <| (Yields.slice_append hl).bind ?_
      have hname : trimSpaceBytes v.label.bytes = v.name.bytes := (bytes_trimSpace v.label).symm
      have hfallback : trimSpaceBytes (bytes (v.alternative?.getD [])) = v.fallback.bytes :=
        (bytes_trimSpace _).symm
      rw [Option.map_some, ← hname, ← hfallback]
      refine Yields.bind (a := bytes (v.alternative?.getD [])) ?_ <| Yields.pure _ _
      dsimp only
      cases ha : v.alternative?
      case none => exact Yields.pure _ []
      case some f =>
        have hf : Rest t i ((v.lead ++ v.label ++ ['|']) ++ (f ++ (marker ++ rest))) := by
          simpa [raw_eq_lead_append, ha, bar] using hu
        simpa [sliceOrEmpty] using Yields.slice_append hf

end Variable

theorem searches_sound (t : Text) :
    ((∃ rounds, Run Inclusion.cut t.bytes 0 rounds) ∧
      ∀ rounds, Run Inclusion.cut t.bytes 0 rounds → Rounds.Sound t.bytes
        ((Inclusion.recogniser.items t).map fun d => ⟨d.raw.bytes, d.target.bytes⟩) rounds) ∧
    (∃ rounds, Run Variable.cut t.bytes 0 rounds) ∧
      ∀ rounds, Run Variable.cut t.bytes 0 rounds → Rounds.Sound t.bytes
        ((Variable.recogniser.items t).map fun v =>
          ⟨v.raw.bytes, v.name.bytes, v.fallback.bytes, v.escaped⟩) rounds :=
  ⟨Inclusion.follows_cut.run t, Variable.follows_cut.run t⟩

end Stencil.Directive
