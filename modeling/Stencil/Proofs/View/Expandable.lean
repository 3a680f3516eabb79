import Stencil.Proofs.View.Graph

/-!
Which views can be expanded within a limit: those below which every file can be read, no file leads
back to itself, and no way down is longer than the limit.
-/
namespace Stencil.View.Site

open Directive Relation Text

variable {s : Site} {limit left : Nat} {above : List Path} {root path : Path} {t out : Text}
variable {P Q : List Path.Component}

structure Expandable (s : Site) (limit : Nat) (root : Path) : Prop where
  readable : ∀ p : Path, ReflTransGen s.Links root.components p.components → s.tree.isFile p →
    ∃ t, s.read p = .ok (some t)
  acyclic : ∀ P, ReflTransGen s.Links root.components P → ¬ TransGen s.Links P P
  shallow : ∀ nodes, List.IsChain s.Links (root.components :: nodes) → nodes.length ≤ limit

-- The expansion gets to an end at this path, with so many inclusions allowed below it.
def Completes (s : Site) (limit left : Nat) (path : Path) : Prop :=
  ∃ above out, (s.expandBelow limit left above path).result = .ok (some out)

namespace Completes

theorem exists_read (h : s.Completes limit left path) : ∃ t, s.read path = .ok (some t) :=
  have ⟨_, _, h⟩ := h
  have ⟨t, _, hr, _⟩ := expandBelow_eq_ok_some_iff.mp h
  ⟨t, hr⟩

-- Every edge costs one of the inclusions that are allowed.
theorem step (h : s.Completes limit left path) (hl : s.Links path.components Q) :
    ∃ left' p, left = left' + 1 ∧ p.components = Q ∧ s.Completes limit left' p := by
  obtain ⟨above, out, h⟩ := h
  have ⟨t, body?, hr, hs, _⟩ := expandBelow_eq_ok_some_iff.mp h
  obtain ⟨d, hd, rfl, hf⟩ := exists_of_links hr hl
  have ⟨left', body, he, _, _, hb⟩ := (settles_iff_of_isFile hf).mp (hs d hd)
  exact ⟨left', s.partialPath d, he, rfl, _, body, hb⟩

theorem of_reaches (h : s.Completes limit left path) (hp : ReflTransGen s.Links path.components P) :
    ∃ left' p, p.components = P ∧ s.Completes limit left' p := by
  induction hp
  case refl => exact ⟨left, path, rfl, h⟩
  case tail hl hi =>
    obtain ⟨_, p, rfl, h⟩ := hi
    obtain ⟨left', q, -, hq, h⟩ := h.step hl
    exact ⟨left', q, hq, h⟩

theorem length_le (h : s.Completes limit left path) {nodes : List (List Path.Component)}
    (hc : List.IsChain s.Links (path.components :: nodes)) : nodes.length ≤ left := by
  induction nodes generalizing left path
  case nil => simp
  case cons node nodes hi =>
    have ⟨hl, hc⟩ := List.isChain_cons_cons.mp hc
    obtain ⟨left', p, rfl, rfl, h⟩ := h.step hl
    simpa using hi h hc

-- A cycle could be entered one edge further on with one inclusion less, and so forever.
theorem not_cycle (h : s.Completes limit left path) :
    ¬ TransGen s.Links path.components path.components := by
  induction left using Nat.strongRecOn generalizing path
  case ind left hi =>
    intro hc
    have ⟨Q, hl, hr⟩ := TransGen.head'_iff.mp hc
    obtain ⟨left', p, rfl, rfl, h⟩ := h.step hl
    exact hi left' (Nat.lt_succ_self left') h <| .tail' hr hl

theorem expandable (h : s.Completes limit limit root) : s.Expandable limit root where
  readable p hp hf := by
    have ⟨_, q, hq, h⟩ := h.of_reaches hp
    have ⟨t, ht⟩ := h.exists_read
    exact ⟨t, read_of_isFile hq ht hf⟩
  acyclic P hp := by
    obtain ⟨_, p, rfl, h⟩ := h.of_reaches hp
    exact h.not_cycle
  shallow _ := h.length_le

end Completes

-- The chain of an expansion is a way down from the root, one inclusion after the other.
inductive Trail (s : Site) (root : Path) : List Path → Path → Prop
  | root : Trail s root [] root
  | snoc {above : List Path} {path target : Path} :
    Trail s root above path → s.Includes path target → Trail s root (above ++ [path]) target

namespace Trail

theorem reaches (h : s.Trail root above path) :
    ReflTransGen s.Links root.components path.components := by
  induction h
  case root => exact .refl
  case snoc hi hr => exact hr.tail hi.links

theorem transGen_of_mem (h : s.Trail root above path) {p : Path} (hp : p ∈ above) :
    TransGen s.Links p.components path.components := by
  induction h
  case root => simp at hp
  case snoc hi ht =>
    rw [List.mem_append, List.mem_singleton] at hp
    cases hp
    case inl hp => exact (ht hp).tail hi.links
    case inr hp => exact hp ▸ .single hi.links

theorem exists_nodes (h : s.Trail root above path) : ∃ nodes,
    List.IsChain s.Links (root.components :: nodes) ∧ nodes.length = above.length ∧
      (root.components :: nodes).getLast? = some path.components := by
  induction h
  case root => exact ⟨[], .singleton _, rfl, rfl⟩
  case snoc target _ hi ht =>
    have ⟨nodes, hc, hl, hg⟩ := ht
    refine ⟨nodes ++ [target.components], ?chain, by simp [hl], ?last⟩
    case chain =>
      rw [← List.cons_append]
      exact hc.append (.singleton _) <| by simpa [hg] using hi.links
    case last => rw [← List.cons_append, List.getLast?_concat]

theorem length_le (h : s.Trail root above path) (he : s.Expandable limit root) : above.length ≤ limit :=
  have ⟨nodes, hc, hl, _⟩ := h.exists_nodes
  hl ▸ he.shallow nodes hc

-- A partial that is on the chain already would close a cycle.
theorem any_same_eq_false (h : s.Trail root above path) (he : s.Expandable limit root) {target : Path}
    (hi : s.Includes path target) : (above ++ [path]).any (·.same target) = false := by
  have ht := h.snoc hi
  rw [List.any_eq_false]
  intro p hp hs
  have hs : p.components = target.components := by simpa [Path.same] using hs
  exact he.acyclic _ ht.reaches <| hs ▸ ht.transGen_of_mem hp

end Trail

theorem Expandable.exists_expandBelow_eq_ok (he : s.Expandable limit root)
    (h : s.Trail root above path) (hl : above.length + left = limit) (hr : s.read path = .ok (some t)) :
    ∃ out, (s.expandBelow limit left above path).result = .ok (some out) := by
  induction left using Nat.strongRecOn generalizing above path t
  case ind left hi =>
    -- Each inclusion of the file settles on its own.
    have hs : ∀ d ∈ Inclusion.recogniser.items t,
        ∃ body?, s.Settles limit left (above ++ [path]) d body? := by
      intro d hd
      cases hf : s.tree.isFile (s.partialPath d)
      case false => exact ⟨none, .missing hf⟩
      case true =>
        have hp : s.Includes path (s.partialPath d) := ⟨t, hr, d, hd, rfl, hf⟩
        have ht := h.snoc hp
        have ⟨u, hu⟩ := he.readable _ ht.reaches hf
        -- The chain with the partial on it is within the limit, so one more inclusion was allowed.
        have hn := ht.length_le he
        have hl' : left ≠ 0 := by
          simp at hn
          omega
        obtain ⟨left, rfl⟩ := Nat.exists_eq_succ_of_ne_zero hl'
        have ⟨body, hb⟩ := hi left (Nat.lt_succ_self left) ht (by simp; omega) hu
        exact ⟨some body, .included hf (h.any_same_eq_false he hp) hb⟩
    choose! body? hb using hs
    exact ⟨_, expandBelow_eq_ok_some_iff.mpr ⟨t, body?, hr, hb, rfl⟩⟩

theorem expand_eq_ok_iff_expandable (h : s.read root = .ok (some t)) :
    (∃ out, (s.expand limit root).result = .ok (some out)) ↔ s.Expandable limit root where
  mp := fun ⟨out, h⟩ => Completes.expandable ⟨[], out, h⟩
  mpr he := he.exists_expandBelow_eq_ok .root (by simp) h

-- Two ways lead to one file, and a partial is missing.
theorem expand_eq_ok_iff_expandable_diamond :
    (ofFiles [("a", "## include('b') #### include('c') ##"), ("b", "## include('c') ##"),
      ("c", "## include('d') ##")]).Expandable 2 ⟨"a"⟩ ∧
    ¬ (ofFiles [("a", "## include('b') #### include('c') ##"), ("b", "## include('c') ##"),
      ("c", "## include('d') ##")]).Expandable 1 ⟨"a"⟩ := by
  constructor
  case left =>
    refine (expand_eq_ok_iff_expandable rfl).mp ⟨"## include('d') #### include('d') ##", ?_⟩
    decide +kernel
  case right =>
    rw [← expand_eq_ok_iff_expandable rfl]
    rintro ⟨out, h⟩
    have hd : ((ofFiles [("a", "## include('b') #### include('c') ##"), ("b", "## include('c') ##"),
      ("c", "## include('d') ##")]).expand 1 ⟨"a"⟩).result = .error (.tooDeep "c" 1) := by decide +kernel
    exact nomatch hd.symm.trans h

end Stencil.View.Site
