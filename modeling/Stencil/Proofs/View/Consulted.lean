import Stencil.Proofs.View.Graph
import Stencil.View.Renderer

/-!
The paths that a render asks the file tree about: that of the view itself, and those of the partials
that are named in the files it gets to. Trees that give the same answers on these paths cannot be told
apart by the render (`Renderer.render_congr`), which asks both of them about the same paths
(`Site.consults_congr`).
-/
namespace Stencil

namespace FileTree

variable {tree tree' : FileTree} {p : Path}

-- The same file is at this path of both trees, or there is a file in neither.
def SameFile (tree tree' : FileTree) (p : Path) : Prop :=
  ∀ bytes, tree.read p = .ok bytes ↔ tree'.read p = .ok bytes

theorem SameFile.isFile_eq (h : tree.SameFile tree' p) : tree.isFile p = tree'.isFile p := by
  rw [Bool.eq_iff_iff, isFile_iff, isFile_iff]
  exact exists_congr h

theorem sameFile_iff : tree.SameFile tree' p ↔ (tree.read p).toOption = (tree'.read p).toOption := by
  unfold SameFile
  cases tree.read p <;> cases tree'.read p <;> simp [Except.toOption, eq_comm]

end FileTree

namespace View

open Directive Text

theorem fill_congr {f g : Inclusion → Recorded Error (Option Text)} {ds : List Inclusion} {t : Text}
    (h : ∀ d ∈ ds, f d = g d) : fill f t ds = fill g t ds := by
  induction ds generalizing t
  case nil => rfl
  case cons d ds hi =>
    have ⟨hd, hs⟩ := List.forall_mem_cons.mp h
    rw [fill_cons, fill_cons, hd]
    congr 1
    funext body?
    exact hi hs

namespace Site

variable {s : Site} {tree' : FileTree} {path root p : Path} {limit left : Nat} {above : List Path}

-- The partial of an inclusion is asked for whether or not it is there.
inductive Consults (s : Site) (root : Path) : Path → Prop
  | root : Consults s root root
  | inclusion {path : Path} {t : Text} {d : Inclusion} :
    s.Reaches root path → s.read path = .ok (some t) → d ∈ Inclusion.recogniser.items t →
    Consults s root (s.partialPath d)

theorem Consults.head (h : s.Includes root path) (hc : s.Consults path p) : s.Consults root p := by
  cases hc
  case root =>
    obtain ⟨t, hr, d, hd, rfl, -⟩ := h
    exact .inclusion .refl hr hd
  case inclusion hp hr hd => exact .inclusion (.head h hp) hr hd

theorem Reaches.consults (hp : s.Reaches root p) : s.Consults root p := by
  cases hp
  case refl => exact .root
  case tail hp hi =>
    obtain ⟨t, hr, d, hd, rfl, -⟩ := hi
    exact .inclusion hp hr hd

-- What is there is read alike. What is not there may be missing for different reasons.
theorem read_congr (h : s.tree.SameFile tree' p) (hf : s.tree.isFile p) :
    s.read p = Site.read ⟨tree', s.resolver⟩ p := by
  have ⟨bytes, hb⟩ := FileTree.isFile_iff.mp hf
  simp [read, FileTree.readText, hb, (h bytes).mp hb]

theorem read_eq_ok_some_congr {t : Text} (h : s.tree.SameFile tree' p) :
    s.read p = .ok (some t) ↔ Site.read ⟨tree', s.resolver⟩ p = .ok (some t) := by
  rw [read_eq_ok_some_iff, read_eq_ok_some_iff]
  exact exists_congr fun bytes => and_congr_left' (h bytes)

theorem partialText_congr {descend descend' : Descent} {chain : List Path} {d : Inclusion}
    (h : s.tree.SameFile tree' (s.partialPath d))
    (hd : s.tree.isFile (s.partialPath d) → chain.any (·.same <| s.partialPath d) = false →
      descend chain d (s.partialPath d) = descend' chain d (s.partialPath d)) :
    s.partialText descend chain d = Site.partialText ⟨tree', s.resolver⟩ descend' chain d := by
  unfold Site.partialText
  change (if !s.tree.isFile (s.partialPath d) then _ else if chain.any (·.same <| s.partialPath d) then _ else _) =
    if !tree'.isFile (s.partialPath d) then _ else if chain.any (·.same <| s.partialPath d) then _ else _
  rw [← h.isFile_eq]
  refine ite_congr rfl (fun _ => rfl) fun hf => ite_congr rfl (fun _ => rfl) fun hc => hd ?isFile ?apart
  case isFile => simpa using hf
  case apart => simpa using hc

theorem expandFile_congr {descend descend' : Descent} (hr : s.read path = Site.read ⟨tree', s.resolver⟩ path)
    (h : ∀ t, s.read path = .ok (some t) → ∀ d ∈ Inclusion.recogniser.items t,
      s.partialText descend (above ++ [path]) d =
        Site.partialText ⟨tree', s.resolver⟩ descend' (above ++ [path]) d) :
    s.expandFile descend above path = Site.expandFile ⟨tree', s.resolver⟩ descend' above path := by
  unfold expandFile
  rw [← hr]
  cases hx : s.read path
  case error => rfl
  case ok t? =>
    cases t?
    case none => rfl
    case some t =>
      have hf := fill_congr (t := t) fun d hd => h t hx d <| Inclusion.mem_distinct.mp hd
      simp only [Recorded.ofExcept_ok_bind, hf]

-- The induction is on the number of inclusions that are still allowed.
theorem expandBelow_congr (h : ∀ p, s.Consults path p → s.tree.SameFile tree' p)
    (hf : s.tree.isFile path) :
    s.expandBelow limit left above path =
      Site.expandBelow ⟨tree', s.resolver⟩ limit left above path := by
  induction left generalizing above path
  case zero =>
    refine expandFile_congr (read_congr (h path .root) hf) fun t hr d hd => ?_
    exact partialText_congr (h _ <| .inclusion .refl hr hd) fun _ _ => rfl
  case succ left hi =>
    refine expandFile_congr (read_congr (h path .root) hf) fun t hr d hd => ?_
    refine partialText_congr (h _ <| .inclusion .refl hr hd) fun hf _ => ?_
    have hp : s.Includes path (s.partialPath d) := ⟨t, hr, d, hd, rfl, hf⟩
    rw [hi (fun q hq => h q <| hq.head hp) hf]

-- It does not matter which of the trees says what is asked for.
section Congr

variable {target : Path} (h : ∀ p, s.Consults root p → s.tree.SameFile tree' p)

include h

theorem includes_congr (hp : s.Reaches root path) :
    s.Includes path target ↔ Site.Includes ⟨tree', s.resolver⟩ path target := by
  refine exists_congr fun t => ?_
  rw [← read_eq_ok_some_congr <| h path hp.consults]
  refine and_congr_right fun hr => exists_congr fun d => and_congr_right fun hd => and_congr_right ?_
  rintro rfl
  rw [(h _ <| .inclusion hp hr hd).isFile_eq]

theorem reaches_congr : s.Reaches root p ↔ Site.Reaches ⟨tree', s.resolver⟩ root p := by
  constructor <;> intro hp <;> induction hp
  case mp.refl => exact .refl
  case mpr.refl => exact .refl
  case mp.tail hp hi ht => exact ht.tail <| (includes_congr h hp).mp hi
  case mpr.tail hi ht => exact ht.tail <| (includes_congr h ht).mpr hi

theorem consults_congr : s.Consults root p ↔ Site.Consults ⟨tree', s.resolver⟩ root p := by
  constructor <;> intro hp <;> cases hp
  case mp.root => exact .root
  case mpr.root => exact .root
  case mp.inclusion hp hr hd =>
    exact .inclusion ((reaches_congr h).mp hp) ((read_eq_ok_some_congr <| h _ hp.consults).mp hr) hd
  case mpr.inclusion hp hr hd =>
    have hp := (reaches_congr h).mpr hp
    exact .inclusion hp ((read_eq_ok_some_congr <| h _ hp.consults).mpr hr) hd

end Congr

end Site

namespace Renderer

variable {tree tree' : FileTree}

theorem render_congr (r : Renderer) (name : Text) (b : Bindings)
    (h : ∀ p, Site.Consults ⟨tree, r.resolver⟩ (r.resolver.resolve name) p → tree.SameFile tree' p) :
    r.render tree name b = r.render tree' name b := by
  suffices hc : r.compile tree name b = r.compile tree' name b by rw [render, hc]; rfl
  have hp := h _ .root
  unfold compile
  simp only [← hp.isFile_eq]
  cases hf : tree.isFile (r.resolver.resolve name)
  case false => rfl
  case true =>
    have he : Site.expand ⟨tree, r.resolver⟩ r.maxDepth _ = Site.expand ⟨tree', r.resolver⟩ r.maxDepth _ :=
      Site.expandBelow_congr h hf
    simp only [he]

-- The trees have to hold the same files, or none, where the view is and where the inclusions of files that it
-- reaches in the first of them point to. Then the outcome is the same, with all notes on the way and so with
-- what every counter rises by, and the second tree leads to the same places.
theorem render_eq_of_sameFile (r : Renderer) (name : Text) (b : Bindings)
    (hroot : tree.SameFile tree' (r.resolver.resolve name))
    (hpartials : ∀ p t, Site.Reaches ⟨tree, r.resolver⟩ (r.resolver.resolve name) p →
      Site.read ⟨tree, r.resolver⟩ p = .ok (some t) →
      ∀ d ∈ Inclusion.recogniser.items t, tree.SameFile tree' (r.resolver.resolve d.target)) :
    r.render tree name b = r.render tree' name b ∧
    (∀ p, Site.Reaches ⟨tree, r.resolver⟩ (r.resolver.resolve name) p ↔
      Site.Reaches ⟨tree', r.resolver⟩ (r.resolver.resolve name) p) ∧
    ∀ p, Site.Consults ⟨tree, r.resolver⟩ (r.resolver.resolve name) p ↔
      Site.Consults ⟨tree', r.resolver⟩ (r.resolver.resolve name) p := by
  have h : ∀ p, Site.Consults ⟨tree, r.resolver⟩ (r.resolver.resolve name) p → tree.SameFile tree' p := by
    intro p hp
    cases hp
    case root => exact hroot
    case inclusion hp hr hd => exact hpartials _ _ hp hr _ hd
  exact ⟨render_congr r name b h, fun p => Site.reaches_congr h, fun p => Site.consults_congr h⟩

-- What is not there is missing from one tree and a folder in the other, and other files differ.
theorem render_eq_of_sameFile_folder :
    let page : Text := "## include('a') #### include('m') ##"
    let tree : FileTree := ⟨[], [(["page"], .file (toUtf8 page)), (["a"], .file (toUtf8 "<p>## @x ##")),
      (["b"], .file (toUtf8 "b"))]⟩
    let tree' : FileTree := ⟨[], [(["m"], .folder), (["m", "a"], .file (toUtf8 "b")),
      (["a"], .file (toUtf8 "<p>## @x ##")), (["page"], .file (toUtf8 page))]⟩
    let r : Renderer := ⟨⟨⟨[]⟩, []⟩, 1, {}⟩
    let b : Bindings := ⟨[("x", .string "v")]⟩
    r.render tree "page" b = r.render tree' "page" b ∧
      (r.render tree' "page" b).result = .ok "<p>v## include('m') ##".toList ∧
      (r.render tree' "page" b).journal.count .missing = 1 := by
  intro page tree tree' r b
  let table : List (Path × Text) := [(⟨"page"⟩, page), (⟨"a"⟩, "<p>## @x ##")]
  have htable : Site.Table ⟨tree, r.resolver⟩ table := ⟨by decide +kernel, by decide +kernel⟩
  have hroot : (tree.read ⟨"page"⟩).toOption = (tree'.read ⟨"page"⟩).toOption := by decide +kernel
  have htexts : ∀ e ∈ table, ∀ d ∈ Inclusion.recogniser.items e.snd,
      (tree.read (r.resolver.resolve d.target)).toOption = (tree'.read (r.resolver.resolve d.target)).toOption := by
    decide +kernel
  have h := render_eq_of_sameFile r "page" b (FileTree.sameFile_iff.mpr hroot) <|
    htable.forall_of_reaches (e := (⟨"page"⟩, page)) (by simp [table]) fun e he d hd =>
      FileTree.sameFile_iff.mpr <| htexts e he d hd
  exact ⟨h.left, by decide +kernel, by decide +kernel⟩

end Renderer
end View
end Stencil
