import Stencil.Proofs.View.Graph

/-!
Why an expansion fails. The files on the chain are a way down from the view (`Site.Way`), so what an error
names is there to be found: a way down that comes back to one of its files, one that is as long as the
limit allows and would go on, or one to a file that cannot be read (`Site.Evidence`).
-/
namespace Stencil.View

open Directive Text

variable {P : Note → Prop} {Q : Error → Prop}

theorem fill_within {partialText : Inclusion → Recorded Error (Option Text)} {ds : List Inclusion} {t : Text}
    (h : ∀ d ∈ ds, (partialText d).Within P Q) : (fill partialText t ds).Within P Q := by
  induction ds generalizing t
  case nil => exact .pure t
  case cons d ds hi =>
    have ⟨hd, hs⟩ := List.forall_mem_cons.mp h
    rw [fill_cons]
    exact hd.bind fun _ _ => hi hs

namespace Site

variable {s : Site} {limit left : Nat} {root path target : Path} {above chain : List Path} {d : Inclusion}

theorem partialText_within {descend : Descent}
    (hmissing : s.tree.isFile (s.partialPath d) = false → P (.partialMissing d.target (s.partialPath d)))
    (hcycle : s.tree.isFile (s.partialPath d) → chain.any (·.same <| s.partialPath d) →
      P (.cycleFound d.target) ∧ Q (.cycle (chain ++ [s.partialPath d])))
    (hdescend : s.tree.isFile (s.partialPath d) → chain.any (·.same <| s.partialPath d) = false →
      (descend chain d (s.partialPath d)).Within P Q) :
    (s.partialText descend chain d).Within P Q := by
  unfold Site.partialText
  cases hf : s.tree.isFile (s.partialPath d)
  case false => simpa [hf] using .note_bind (hmissing hf) (.pure none)
  case true =>
    cases hc : chain.any (·.same <| s.partialPath d)
    case true => simpa [hf, hc] using .note_bind (hcycle hf hc).left (.fail (hcycle hf hc).right)
    case false => simpa [hf, hc] using hdescend hf hc

theorem expandFile_within {descend : Descent} (he : ∀ e, s.read path = .error e → Q e)
    (h : ∀ t, s.read path = .ok (some t) → ∀ d ∈ Inclusion.recogniser.items t,
      (s.partialText descend (above ++ [path]) d).Within P Q) :
    (s.expandFile descend above path).Within P Q := by
  refine .ofExcept_bind he fun t? hr => ?_
  cases t?
  case none => exact .pure none
  case some t =>
    refine .bind (fill_within fun d hd => ?_) fun filled _ => .pure (some filled)
    exact h t hr d <| Inclusion.mem_distinct.mp hd

theorem Includes.isFile_left (h : s.Includes path target) : s.tree.isFile path :=
  have ⟨_, hr, _⟩ := h
  isFile_of_read hr

theorem Includes.isFile_right (h : s.Includes path target) : s.tree.isFile target :=
  have ⟨_, _, _, _, _, hf⟩ := h
  hf

-- A way down from a view: each file includes the next one, and no two of them are the same.
structure Way (s : Site) (root : Path) (chain : List Path) : Prop where
  head : chain.head? = some root
  includes : chain.IsChain s.Includes
  apart : chain.Pairwise fun p q => p.components ≠ q.components

namespace Way

theorem single (s : Site) (root : Path) : s.Way root [root] where
  head := rfl
  includes := .singleton root
  apart := List.pairwise_singleton ..

theorem components_ne_of_any_eq_false (h : chain.any (·.same target) = false) :
    ∀ p ∈ chain, p.components ≠ target.components := by
  simpa [Path.same] using h

theorem isChain_concat (h : s.Way root (above ++ [path])) (hi : s.Includes path target) :
    (above ++ [path, target]).IsChain s.Includes := by
  rw [List.isChain_append_cons_cons]
  exact ⟨h.includes, hi, .singleton target⟩

theorem head?_concat (h : s.Way root (above ++ [path])) (target : Path) :
    (above ++ [path] ++ [target]).head? = some root := by
  have hh := h.head
  cases above <;> simpa using hh

-- Every file but the last can be read, and every file but the first is included.
theorem isFile (h : s.Way root (above ++ [path])) (hi : s.Includes path target) :
    ∀ p ∈ above ++ [path, target], s.tree.isFile p := by
  have hc := h.isChain_concat hi
  clear h
  induction above
  case nil => simpa using ⟨hi.isFile_left, hi.isFile_right⟩
  case cons p above hn =>
    refine List.forall_mem_cons.mpr ⟨?_, hn hc.tail⟩
    cases above <;> exact (List.isChain_cons_cons.mp hc).left.isFile_left

theorem snoc (h : s.Way root (above ++ [path])) (hi : s.Includes path target)
    (hc : (above ++ [path]).any (·.same target) = false) : s.Way root (above ++ [path] ++ [target]) where
  head := h.head?_concat target
  includes := by simpa using h.isChain_concat hi
  apart := by
    rw [List.pairwise_append]
    refine ⟨h.apart, List.pairwise_singleton .., fun p hp q hq => ?_⟩
    exact List.mem_singleton.mp hq ▸ components_ne_of_any_eq_false hc p hp

end Way

-- The way down comes back, under whatever path, to a file that it has been at.
structure Returns (s : Site) (root : Path) (chain : List Path) : Prop where
  head : chain.head? = some root
  two_le : 2 ≤ chain.length
  isFile : ∀ p ∈ chain, s.tree.isFile p
  includes : chain.IsChain s.Includes
  apart : chain.dropLast.Pairwise fun p q => p.components ≠ q.components
  closes : ∃ p ∈ chain.dropLast, ∃ q ∈ chain.getLast?, p.components = q.components

-- The way down has as many edges as the limit allows and would go on to a partial that is not on it.
structure Exceeds (s : Site) (limit : Nat) (root : Path) (target : Text) (chain : List Path) : Prop where
  way : s.Way root chain
  isFile : ∀ p ∈ chain, s.tree.isFile p
  length : chain.length = limit + 1
  goesOn : ∃ p ∈ chain.getLast?, ∃ t, s.read p = .ok (some t) ∧
    ∃ d ∈ Inclusion.recogniser.items t, d.target = target ∧ s.tree.isFile (s.partialPath d) ∧
      ∀ q ∈ chain, q.components ≠ (s.partialPath d).components

-- What an error of an expansion tells about the files.
def Evidence (s : Site) (limit : Nat) (root : Path) : Error → Prop
  | .cycle chain => s.Returns root chain
  | .tooDeep target bound => bound = limit ∧ ∃ chain, s.Exceeds limit root target chain
  | .unreadable path failure =>
    s.tree.readText path = .error failure ∧ ∃ above, s.Way root (above ++ [path])
  | .notFound .. | .badBindings _ => False

namespace Way

theorem evidence_of_read_eq_error (h : s.Way root (above ++ [path])) {e : Error}
    (he : s.read path = .error e) : s.Evidence limit root e := by
  unfold read at he
  split at he
  case h_1 => simp at he
  case h_2 => simp at he
  case h_3 failure _ hr =>
    obtain rfl := Except.error.inj he
    exact ⟨hr, above, h⟩

theorem returns (h : s.Way root (above ++ [path])) (hi : s.Includes path target)
    (hc : (above ++ [path]).any (·.same target)) : s.Returns root (above ++ [path] ++ [target]) where
  head := h.head?_concat target
  two_le := by simp
  isFile := by simpa using h.isFile hi
  includes := by simpa using h.isChain_concat hi
  apart := by simpa using h.apart
  closes := by
    have ⟨p, hp, hs⟩ := List.any_eq_true.mp hc
    rw [List.dropLast_concat, List.getLast?_concat]
    exact ⟨p, hp, target, rfl, by simpa [Path.same] using hs⟩

theorem exceeds (h : s.Way root (above ++ [path])) (hl : above.length = limit) {t : Text}
    (hr : s.read path = .ok (some t)) (hd : d ∈ Inclusion.recogniser.items t)
    (hf : s.tree.isFile (s.partialPath d)) (hc : (above ++ [path]).any (·.same <| s.partialPath d) = false) :
    s.Exceeds limit root d.target (above ++ [path]) where
  way := h
  isFile p hp := h.isFile ⟨t, hr, d, hd, rfl, hf⟩ p <| by simp at hp ⊢; tauto
  length := by simp [hl]
  goesOn := ⟨path, by simp, t, hr, d, hd, rfl, hf, components_ne_of_any_eq_false hc⟩

end Way

-- The notes that an expansion may take.
inductive OfExpansion : Note → Prop
  | partialMissing {target : Text} {path : Path} : OfExpansion (.partialMissing target path)
  | partialIncluded : OfExpansion .partialIncluded
  | cycleFound {target : Text} : OfExpansion (.cycleFound target)
  | tooDeep {target : Text} {limit : Nat} : OfExpansion (.tooDeep target limit)

-- The induction is on the number of inclusions that are still allowed, which is what the chain leaves of
-- the limit.
theorem expandBelow_within (h : s.Way root (above ++ [path])) (hl : above.length + left = limit) :
    (s.expandBelow limit left above path).Within OfExpansion (s.Evidence limit root) := by
  induction left using Nat.strongRecOn generalizing above path
  case ind left hi =>
    rw [expandBelow_eq]
    refine expandFile_within (fun e he => h.evidence_of_read_eq_error he) fun t hr d hd => ?_
    have hd' (hf : s.tree.isFile (s.partialPath d)) : s.Includes path (s.partialPath d) :=
      ⟨t, hr, d, hd, rfl, hf⟩
    refine partialText_within ?missing ?cycle ?descend
    case missing => exact fun _ => .partialMissing
    case cycle => exact fun hf hc => ⟨.cycleFound, h.returns (hd' hf) hc⟩
    case descend =>
      intro hf hc
      cases left
      case zero =>
        have he : s.Exceeds limit root d.target (above ++ [path]) := h.exceeds hl hr hd hf hc
        exact .note_bind .tooDeep <| .fail ⟨rfl, _, he⟩
      case succ left =>
        have hb := hi left (Nat.lt_succ_self left) (h.snoc (hd' hf) hc) (by simp; omega)
        refine .bind hb fun body? _ => ?_
        cases body?
        case none => exact .pure none
        case some body => exact .note_bind .partialIncluded <| .pure _

theorem expand_within (s : Site) (limit : Nat) (root : Path) :
    (s.expand limit root).Within OfExpansion (s.Evidence limit root) :=
  expandBelow_within (.single s root) (Nat.zero_add limit)

theorem evidence_of_expand_eq_error {e : Error} (h : (s.expand limit root).result = .error e) :
    s.Evidence limit root e :=
  (s.expand_within limit root).error e h

-- A file includes itself under another spelling of its path, and a limit is met one file too early.
theorem evidence_of_expand_eq_error_spelled :
    let b : Text := "## include('x//b') ##"
    let tree : FileTree := ⟨[], [(["v"], .folder), (["v", "a"], .file (toUtf8 "## include('x/b') ##")),
      (["v", "x"], .folder), (["v", "x", "b"], .file (toUtf8 b))]⟩
    let spelled : Site := ⟨tree, ⟨⟨"v"⟩, []⟩⟩
    let short := ofFiles [("a", "## include('b') ##"), ("b", "## include('m') #### include('c') ##"), ("c", [])]
    (spelled.expand 8 ⟨"v/a"⟩).result = .error (.cycle [⟨"v/a"⟩, ⟨"v/x/b"⟩, ⟨"v/x//b"⟩]) ∧
      spelled.Returns ⟨"v/a"⟩ [⟨"v/a"⟩, ⟨"v/x/b"⟩, ⟨"v/x//b"⟩] ∧
      (short.expand 1 ⟨"a"⟩).result = .error (.tooDeep "c" 1) ∧
      ∃ chain, short.Exceeds 1 ⟨"a"⟩ "c" chain := by
  intro b tree spelled short
  have hc : (spelled.expand 8 ⟨"v/a"⟩).result = .error (.cycle [⟨"v/a"⟩, ⟨"v/x/b"⟩, ⟨"v/x//b"⟩]) := by
    decide +kernel
  have hd : (short.expand 1 ⟨"a"⟩).result = .error (.tooDeep "c" 1) := by decide +kernel
  exact ⟨hc, evidence_of_expand_eq_error hc, hd, (evidence_of_expand_eq_error hd).right⟩

end Site
end Stencil.View
