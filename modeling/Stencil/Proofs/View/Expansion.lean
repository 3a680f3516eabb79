import Stencil.Proofs.Directive.Inclusion
import Stencil.Proofs.Journal
import Stencil.View.Expansion

/-!
When an expansion ends with a text, and with which one: the inclusions of a file settle one by one, and
the file is filled with what they settle to.
-/
namespace Stencil.View

open Directive Text

variable {partialText : Inclusion → Recorded Error (Option Text)} {body? : Inclusion → Option Text}
variable {ds : List Inclusion} {t out : Text}

theorem fill_cons (d : Inclusion) :
    fill partialText t (d :: ds) = partialText d >>= fun body? =>
      fill partialText (body?.elim t (replaceAll d.raw · t)) ds := by
  rw [fill]
  congr 1
  funext body?
  cases body? <;> rfl

theorem fill_eq_ok (h : ∀ d ∈ ds, (partialText d).result = .ok (body? d)) :
    (fill partialText t ds).result = .ok (replaceInTurn Inclusion.raw body? t ds) := by
  induction ds generalizing t
  case nil => rfl
  case cons d ds hi =>
    rw [fill_cons, Recorded.result_bind_eq_ok_iff]
    exact ⟨body? d, h d List.mem_cons_self, hi fun e he => h e <| .tail _ he⟩

theorem exists_of_fill_eq_ok (h : (fill partialText t ds).result = .ok out) {d : Inclusion} (hd : d ∈ ds) :
    ∃ body?, (partialText d).result = .ok body? := by
  induction ds generalizing t
  case nil => simp at hd
  case cons e ds hi =>
    rw [fill_cons, Recorded.result_bind_eq_ok_iff] at h
    have ⟨body?, he, hs⟩ := h
    cases hd
    case head => exact ⟨body?, he⟩
    case tail hd => exact hi hs hd

theorem fill_eq_ok_iff : (fill partialText t ds).result = .ok out ↔ ∃ body? : Inclusion → Option Text,
    (∀ d ∈ ds, (partialText d).result = .ok (body? d)) ∧ replaceInTurn Inclusion.raw body? t ds = out where
  mp h := by
    choose! body? hb using fun d => exists_of_fill_eq_ok h (d := d)
    exact ⟨body?, hb, Except.ok.inj <| (fill_eq_ok hb).symm.trans h⟩
  mpr := fun ⟨_, hb, ho⟩ => ho ▸ fill_eq_ok hb

namespace Site

variable {s : Site} {limit left : Nat} {chain above : List Path} {path : Path} {d : Inclusion}

theorem read_ne_none (h : s.tree.isFile path) : s.read path ≠ .ok none := by
  unfold FileTree.isFile at h
  split at h
  case h_2 => simp at h
  case h_1 bytes hb =>
    rw [read, FileTree.readText, hb]
    cases ht : ofUtf8? bytes <;> simp [ht, bind, Except.bind]

-- What is done with the partials of a file when so many inclusions are allowed below it.
def descent (s : Site) (limit : Nat) : Nat → Descent
  | 0 => refuse limit
  | left + 1 => fun chain _ path => do
    let body ← s.expandBelow limit left chain path
    if body.isSome then Recorded.note .partialIncluded
    return body

theorem expandBelow_eq (limit left : Nat) :
    s.expandBelow limit left = s.expandFile (s.descent limit left) := by
  cases left <;> rfl

theorem expandBelow_eq_ok_none_iff :
    (s.expandBelow limit left above path).result = .ok none ↔ s.read path = .ok none := by
  rw [expandBelow_eq, expandFile, Recorded.result_bind_eq_ok_iff]
  constructor
  case mp =>
    rintro ⟨_ | t, hr, h⟩
    · exact hr
    · obtain ⟨_, -, h⟩ := Recorded.result_bind_eq_ok_iff.mp h
      simp at h
  case mpr => exact fun h => ⟨none, h, rfl⟩

theorem descent_succ_eq_ok_iff {body? : Option Text} :
    (s.descent limit (left + 1) chain d path).result = .ok body? ↔
      (s.expandBelow limit left chain path).result = .ok body? := by
  rw [descent, Recorded.result_bind_eq_ok_iff]
  constructor
  case mp =>
    rintro ⟨body, hb, h⟩
    cases body <;> simp_all
  case mpr =>
    refine fun h => ⟨body?, h, ?_⟩
    cases body? <;> simp

-- An inclusion in the last file of a chain either stays where it is or gives way to the text of a file
-- that is not on the chain.
inductive Settles (s : Site) (limit : Nat) : Nat → List Path → Inclusion → Option Text → Prop
  | missing {left : Nat} {chain : List Path} {d : Inclusion} :
    s.tree.isFile (s.partialPath d) = false → Settles s limit left chain d none
  | included {left : Nat} {chain : List Path} {d : Inclusion} {body : Text} :
    s.tree.isFile (s.partialPath d) → chain.any (·.same <| s.partialPath d) = false →
    (s.expandBelow limit left chain (s.partialPath d)).result = .ok (some body) →
    Settles s limit (left + 1) chain d (some body)

theorem settles_iff_of_not_isFile {body? : Option Text} (hf : s.tree.isFile (s.partialPath d) = false) :
    s.Settles limit left chain d body? ↔ body? = none where
  mp h := by cases h <;> simp_all
  mpr h := h ▸ .missing hf

theorem settles_iff_of_isFile {body? : Option Text} (hf : s.tree.isFile (s.partialPath d)) :
    s.Settles limit left chain d body? ↔ ∃ left' body, left = left' + 1 ∧ body? = some body ∧
      chain.any (·.same <| s.partialPath d) = false ∧
      (s.expandBelow limit left' chain (s.partialPath d)).result = .ok (some body) where
  mp h := by
    cases h
    case missing => simp_all
    case included left' body _ hc hb => exact ⟨left', body, rfl, rfl, hc, hb⟩
  mpr := by
    rintro ⟨left', body, rfl, rfl, hc, hb⟩
    exact .included hf hc hb

theorem partialText_eq_ok_iff {body? : Option Text} :
    (s.partialText (s.descent limit left) chain d).result = .ok body? ↔
      s.Settles limit left chain d body? := by
  unfold Site.partialText
  cases hf : s.tree.isFile (s.partialPath d)
  case false =>
    rw [settles_iff_of_not_isFile hf]
    simp [hf, eq_comm]
  case true =>
    rw [settles_iff_of_isFile hf]
    cases hc : chain.any (·.same <| s.partialPath d)
    case true => simp [hf, hc]
    case false =>
      simp only [hf, hc, Bool.not_true, Bool.false_eq_true, if_false]
      cases left
      case zero => simp [descent, refuse]
      case succ left =>
        rw [descent_succ_eq_ok_iff]
        constructor
        case mp =>
          intro h
          cases body?
          -- A file that is there when it is looked for is there when it is read.
          case none => exact absurd (expandBelow_eq_ok_none_iff.mp h) (read_ne_none hf)
          case some body => exact ⟨left, body, rfl, rfl, trivial, h⟩
        case mpr =>
          rintro ⟨_, body, hl, rfl, -, h⟩
          exact Nat.succ.inj hl ▸ h

theorem expandBelow_eq_ok_some_iff :
    (s.expandBelow limit left above path).result = .ok (some out) ↔ ∃ t body?,
      s.read path = .ok (some t) ∧
      (∀ d ∈ Inclusion.recogniser.items t, s.Settles limit left (above ++ [path]) d (body? d)) ∧
      replaceInTurn Inclusion.raw body? t (Inclusion.distinct t) = out := by
  rw [expandBelow_eq, expandFile, Recorded.result_bind_eq_ok_iff]
  constructor
  case mp =>
    rintro ⟨_ | t, hr, h⟩
    case none => simp at h
    case some =>
      have ⟨filled, hf, ho⟩ := Recorded.result_bind_eq_ok_iff.mp h
      obtain rfl : filled = out := by simpa using ho
      have ⟨body?, hb, hv⟩ := fill_eq_ok_iff.mp hf
      exact ⟨t, body?, hr, fun d hd => partialText_eq_ok_iff.mp <| hb d <| Inclusion.mem_distinct.mpr hd, hv⟩
  case mpr =>
    rintro ⟨t, body?, hr, hb, rfl⟩
    have hf := fill_eq_ok (t := t) fun d hd =>
      partialText_eq_ok_iff.mpr <| hb d <| Inclusion.mem_distinct.mp hd
    exact ⟨some t, hr, Recorded.result_bind_eq_ok_iff.mpr ⟨_, hf, rfl⟩⟩

end Site
end Stencil.View
