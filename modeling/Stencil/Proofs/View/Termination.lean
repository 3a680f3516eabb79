import Mathlib.Data.List.Perm.Subperm
import Mathlib.Logic.Function.Iterate
import Stencil.Proofs.Text.Distinct
import Stencil.Proofs.View.Consulted
import Stencil.Proofs.View.Failure

/-!
How deep an expansion goes. The number of inclusions that are allowed is no help when it is huge, but the files
on the chain differ from one another and all but the first of them are partials, of which the tree has so many
and no more (`Way.length_le`). So after that many rounds of the recursion it makes no difference what further
calls would give (`Site.expand_terminates`).
-/
namespace Stencil

namespace FileTree

variable {tree : FileTree} {p : Path} {t : Text}

-- The texts of the files.
def texts (tree : FileTree) : List Text :=
  tree.entries.filterMap fun e =>
    match tree.entry? e.fst with
    | some (.file bytes) => Text.ofUtf8? bytes
    | _ => none

theorem mem_texts {l : Location} {bytes : ByteArray} (h : tree.entry? l = some (.file bytes))
    (ht : Text.ofUtf8? bytes = some t) : t ∈ tree.texts := by
  have hl : l ≠ [] := by
    rintro rfl
    simp [ entry?] at h
  obtain ⟨e, he, -⟩ := Option.map_eq_some_iff.mp <| (if_neg hl).symm.trans h
  obtain rfl : e.fst = l := by simpa using List.find?_some he
  refine List.mem_filterMap.mpr ⟨e, List.mem_of_find?_eq_some he, ?_⟩
  rw [h]
  exact ht

end FileTree

namespace View

open Directive Relation Text

namespace Site

variable {s : Site} {limit : Nat} {root path target p q : Path} {above chain : List Path}

-- The partials that are there and that inclusions of the files ask for, each of them once.
def partials (s : Site) : List Path :=
  distinctBy Path.components <|
    ((s.tree.texts.flatMap Inclusion.recogniser.items).map s.partialPath).filter s.tree.isFile

theorem Includes.mem_partials (h : s.Includes p q) : q.components ∈ s.partials.map Path.components := by
  obtain ⟨t, hr, d, hd, rfl, hf⟩ := h
  obtain ⟨bytes, hb, ht⟩ := read_eq_ok_some_iff.mp hr
  obtain ⟨l, -, hl⟩ := FileTree.read_eq_ok_iff.mp hb
  refine mem_map_distinctBy.mpr <| List.mem_map_of_mem <| List.mem_filter.mpr ⟨?_, hf⟩
  exact List.mem_map_of_mem <| List.mem_flatMap.mpr ⟨t, FileTree.mem_texts hl ht, hd⟩

theorem Way.includes_tail (h : (p :: chain).IsChain s.Includes) : ∀ q ∈ chain, ∃ p, s.Includes p q := by
  induction chain generalizing p
  case nil => simp
  case cons q chain hi =>
    have ⟨hq, hc⟩ := List.isChain_cons_cons.mp h
    exact List.forall_mem_cons.mpr ⟨⟨p, hq⟩, hi hc⟩

-- All files on a way but the first are partials, and no two of them are the same.
theorem Way.length_le (h : s.Way root chain) : chain.length ≤ s.partials.length + 1 := by
  obtain ⟨rest, rfl⟩ := List.head?_eq_some_iff.mp h.head
  have hn : (rest.map Path.components).Nodup := List.pairwise_map.mpr h.apart.of_cons
  have hs : rest.map Path.components ⊆ s.partials.map Path.components := by
    intro P hP
    obtain ⟨q, hq, rfl⟩ := List.mem_map.mp hP
    have ⟨_, hi⟩ := Way.includes_tail h.includes q hq
    exact hi.mem_partials
  simpa using (hn.subperm hs).length_le

-- What a call of the recursion gives when `again` answers the calls that it makes itself.
def round (s : Site) (limit : Nat) (again : List Path → Path → Recorded Error (Option Text)) :
    List Path → Path → Recorded Error (Option Text) :=
  s.expandFile fun chain d target =>
    if limit < chain.length then refuse limit chain d target
    else do
      let body ← again chain target
      if body.isSome then Recorded.note .partialIncluded
      return body

-- A call is made for a path with the chain of files that lead to it. It makes another one when what it gives
-- depends on the answer to that one.
def Makes (s : Site) (limit : Nat) (call call' : List Path × Path) : Prop :=
  ∃ again again' : List Path → Path → Recorded Error (Option Text),
    (∀ above path, (above, path) ≠ call' → again above path = again' above path) ∧
      s.round limit again call.fst call.snd ≠ s.round limit again' call.fst call.snd

theorem round_congr {again again' : List Path → Path → Recorded Error (Option Text)}
    (h : ∀ target, s.Includes path target → (above ++ [path]).any (·.same target) = false →
      (above ++ [path]).length ≤ limit → again (above ++ [path]) target = again' (above ++ [path]) target) :
    s.round limit again above path = s.round limit again' above path := by
  refine expandFile_congr rfl fun t hr d hd => partialText_congr (fun _ => Iff.rfl) fun hf hc => ?_
  refine ite_congr rfl (fun _ => rfl) fun hl => ?_
  rw [h _ ⟨t, hr, d, hd, rfl, hf⟩ hc (Nat.le_of_not_lt hl)]

theorem Makes.includes {call call' : List Path × Path} (h : s.Makes limit call call') :
    call'.fst = call.fst ++ [call.snd] ∧ s.Includes call.snd call'.snd ∧
      call'.fst.any (·.same call'.snd) = false ∧ call'.fst.length ≤ limit := by
  obtain ⟨above, path⟩ := call
  obtain ⟨chain, target⟩ := call'
  obtain ⟨again, again', ha, hne⟩ := h
  by_contra hn
  refine hne <| round_congr fun target' hi hc hl => ha _ _ ?_
  rintro ⟨rfl, rfl⟩
  exact hn ⟨rfl, hi, hc, hl⟩

-- The chain of a call leads down from the view to the path that the call is made for.
theorem way_of_reflTransGen {call : List Path × Path} (h : ReflTransGen (s.Makes limit) ([], root) call) :
    s.Way root (call.fst ++ [call.snd]) := by
  induction h
  case refl => exact .single s root
  case tail hm hw =>
    have ⟨hf, hi, hc, _⟩ := hm.includes
    rw [hf] at hc ⊢
    exact hw.snoc hi hc

-- The induction is on the number of rounds. Where none is left the chain would be longer than it can be.
theorem iterate_round (again : List Path → Path → Recorded Error (Option Text)) {n : Nat}
    (h : s.Way root (above ++ [path])) (hl : above.length ≤ limit)
    (hn : min limit s.partials.length < above.length + n) :
    (s.round limit)^[n] again above path = s.expandBelow limit (limit - above.length) above path := by
  induction n generalizing above path
  case zero =>
    have hp := h.length_le
    rw [List.length_append, List.length_singleton] at hp
    omega
  case succ n hi =>
    rw [Function.iterate_succ_apply', expandBelow_eq]
    refine expandFile_congr rfl fun t hr d hd => partialText_congr (fun _ => Iff.rfl) fun hf hc => ?_
    have hw := h.snoc ⟨t, hr, d, hd, rfl, hf⟩ hc
    have hlen : (above ++ [path]).length = above.length + 1 := by simp
    cases Nat.lt_or_ge limit (above ++ [path]).length
    case inl hlt =>
      rw [if_pos hlt, show limit - above.length = 0 by omega]
      rfl
    case inr hge =>
      rw [if_neg (Nat.not_lt.mpr hge), hi hw hge (by omega)]
      rw [show limit - above.length = limit - (above ++ [path]).length + 1 by omega]
      rfl

-- The chain of a call, with the path that the call is made for as the last one.
structure Bounded (s : Site) (limit : Nat) (chain : List Path) : Prop where
  apart : chain.Pairwise fun p q => p.components ≠ q.components
  isFile : ∀ p ∈ chain, s.tree.isFile p
  length_le_limit : chain.length ≤ limit + 1
  length_le_partials : chain.length ≤ s.partials.length + 1

theorem expand_terminates (s : Site) (limit : Nat) (root : Path) :
    (∀ again n, min limit s.partials.length < n →
      (s.round limit)^[n] again [] root = s.expand limit root) ∧
    ∀ chain path, TransGen (s.Makes limit) ([], root) (chain, path) → s.Bounded limit (chain ++ [path]) := by
  constructor
  case left =>
    intro again n hn
    exact iterate_round again (.single s root) (Nat.zero_le limit) (by simpa using hn)
  case right =>
    intro chain path h
    obtain ⟨call, hr, hm⟩ := TransGen.tail'_iff.mp h
    have hw := way_of_reflTransGen hr
    obtain ⟨rfl, hi, hc, hl⟩ := hm.includes
    have hs := hw.snoc hi hc
    exact {
      apart := hs.apart
      isFile := by simpa using hw.isFile hi
      length_le_limit := by simpa using hl
      length_le_partials := hs.length_le }

-- Two of the files include each other, and the limit is as high as can be.
theorem expand_terminates_cycle :
    let s := ofFiles [("a", "## include('m') #### include('b') ##"), ("b", "## include('c') ##"),
      ("c", "## include('b') ##")]
    let limit := Nat.pow 2 64 - 1
    min limit s.partials.length < 3 ∧
      (∀ again, (s.round limit)^[3] again [] ⟨"a"⟩ = s.expand limit ⟨"a"⟩) ∧
      TransGen (s.Makes limit) ([], ⟨"a"⟩) ([⟨"a"⟩, ⟨"b"⟩], ⟨"c"⟩) ∧
      s.Bounded limit [⟨"a"⟩, ⟨"b"⟩, ⟨"c"⟩] := by
  intro s limit
  let silent : List Path → Path → Recorded Error (Option Text) := fun _ _ => pure none
  let failing (call : List Path × Path) : List Path → Path → Recorded Error (Option Text) :=
    fun chain path => if (chain, path) = call then Recorded.fail (.tooDeep [] 0) else pure none
  have hmakes {call call' : List Path × Path} (h : (s.round limit silent call.fst call.snd).result ≠
      (s.round limit (failing call') call.fst call.snd).result) : s.Makes limit call call' :=
    ⟨silent, failing call', fun _ _ hne => (if_neg hne).symm, fun he => h (congrArg _ he)⟩
  have hn : min limit s.partials.length < 3 := by decide +kernel
  have ha : s.Makes limit ([], ⟨"a"⟩) ([⟨"a"⟩], ⟨"b"⟩) := hmakes (by decide +kernel)
  have hb : s.Makes limit ([⟨"a"⟩], ⟨"b"⟩) ([⟨"a"⟩, ⟨"b"⟩], ⟨"c"⟩) := hmakes (by decide +kernel)
  have h := expand_terminates s limit ⟨"a"⟩
  exact ⟨hn, fun again => h.left again 3 hn, .tail (.single ha) hb, h.right _ _ (.tail (.single ha) hb)⟩

end Site
end View
end Stencil
