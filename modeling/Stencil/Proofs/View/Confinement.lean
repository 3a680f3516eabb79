import Stencil.Proofs.Path
import Stencil.Proofs.View.Consulted

/-!
A view is found below the root of the views whatever its name spells, so a render asks about nothing
else and depends on nothing else.
-/
namespace Stencil

open Text

namespace Path.Below

variable {tree : FileTree} {p root : Path} {l : Location}

-- Where the path leads to, if it leads anywhere, is where the root leads to or further down.
theorem locate_eq_ok (h : p.Below root) (hl : tree.locate p = .ok l) :
    root.components.foldl Component.move tree.home <+: l := by
  obtain ⟨names, -, hc⟩ := h
  rw [FileTree.locate_eq_ok hl, hc, List.foldl_append]
  clear hc
  generalize root.components.foldl Component.move tree.home = start
  induction names generalizing start
  case nil => simp
  case cons n names hi => exact (List.prefix_append start [n]).trans <| hi (start ++ [n])

end Path.Below

namespace View

variable {root p : Path} {extension name part s : Text} {r : Resolver}

namespace Resolver

-- An extension that can only make a name longer.
structure Plain (r : Resolver) : Prop where
  dot : r.extension.head? ≠ some '.'
  slash : '/' ∉ r.extension

theorem ofSettings_plain (root : Path) (h : '/' ∉ extension) : (ofSettings root extension).Plain where
  dot he := by simpa using of_mem_head?_dropWhile (t := extension) he
  slash hm := h <| (List.dropWhile_sublist _).subset hm

theorem head?_segment (part : Text) : (segment part).head? ≠ some '/' :=
  fun he => by simpa using of_mem_head?_dropWhile (t := part) he

theorem dot_not_mem_segment (h : part ∈ split '.' name) : '.' ∉ segment part :=
  fun hm => not_mem_of_mem_split h <| (List.dropWhile_sublist _).subset hm

theorem ne_dots_of_dot_not_mem (h : '.' ∉ s) (hp : part ∈ split '/' s) : part ≠ ['.'] ∧ part ≠ ['.', '.'] := by
  have hd : '.' ∉ part := fun hm => h <| mem_of_mem_split hp hm
  constructor <;> rintro rfl <;> simp at hd

theorem head?_fileName (h : s.head? ≠ some '/') : (r.fileName s).head? ≠ some '/' := by
  unfold fileName
  split
  case isTrue => exact h
  case isFalse => cases s <;> simp_all

-- The extension only makes the last part of a segment longer.
theorem ne_dots_of_mem_fileName (hr : r.Plain) (h : '.' ∉ s) (hp : part ∈ split '/' (r.fileName s)) :
    part ≠ ['.'] ∧ part ≠ ['.', '.'] := by
  unfold fileName at hp
  split at hp
  case isTrue => exact ne_dots_of_dot_not_mem h hp
  case isFalse he =>
    have hs : '/' ∉ '.' :: r.extension := by simpa using hr.slash
    obtain hp | ⟨last, hl, rfl⟩ := mem_split_append hs hp
    case inl => exact ne_dots_of_dot_not_mem h hp
    case inr =>
      have hd : '.' ∉ last := fun hm => h <| mem_of_mem_split hl hm
      have hx := hr.dot
      obtain _ | ⟨c, last⟩ := last
      · constructor <;> intro ht <;> simp_all
      · constructor <;> intro ht <;> simp_all

theorem of_mem_withFileName {segments : List Text} (h : s ∈ r.withFileName segments) :
    ∃ t ∈ segments, s = t ∨ s = r.fileName t := by
  fun_induction r.withFileName segments
  case case1 => simp at h
  case case2 last => exact ⟨last, by simp, .inr (by simpa using h)⟩
  case case3 t rest _ hi =>
    cases h
    case head => exact ⟨_, List.mem_cons_self, .inl rfl⟩
    case tail h =>
      have ⟨t, ht, hs⟩ := hi h
      exact ⟨t, .tail _ ht, hs⟩

theorem resolve_below (h : r.Plain) (name : Text) : (r.resolve name).Below r.root := by
  refine Path.Below.foldl_push (.refl _) fun s hs => ?_
  obtain ⟨_, ht, hs⟩ := of_mem_withFileName hs
  obtain ⟨part, hp, rfl⟩ := List.mem_map.mp ht
  have hd := dot_not_mem_segment hp
  obtain rfl | rfl := hs
  case inl => exact ⟨head?_segment part, fun _ => ne_dots_of_dot_not_mem hd⟩
  case inr => exact ⟨head?_fileName <| head?_segment part, fun _ => ne_dots_of_mem_fileName h hd⟩

end Resolver

-- Only names are ever resolved: that of the view and the targets of inclusions.
theorem Site.Consults.below {site : Site} (h : site.resolver.Plain)
    (hc : site.Consults (site.resolver.resolve name) p) : p.Below site.resolver.root := by
  cases hc
  case root => exact Resolver.resolve_below h name
  case inclusion d _ _ _ => exact Resolver.resolve_below h d.target

namespace Renderer

-- The view itself is below the root, so is all that a render asks about, and what stands elsewhere in the
-- tree has no part in its outcome.
theorem render_confined (settings : Settings) (h : '/' ∉ settings.views.extension) (name : Text) (b : Bindings) :
    let r := ofSettings settings
    (r.resolver.resolve name).Below settings.views.path ∧
    (∀ tree p, Site.Consults ⟨tree, r.resolver⟩ (r.resolver.resolve name) p →
      p.Below settings.views.path ∧ ∀ l, tree.locate p = .ok l →
        settings.views.path.components.foldl Path.Component.move tree.home <+: l) ∧
    Function.FactorsThrough (fun tree => r.render tree name b)
      fun tree (p : { p : Path // p.Below settings.views.path }) => (tree.read p.val).toOption := by
  have hr : (ofSettings settings).resolver.Plain := Resolver.ofSettings_plain settings.views.path h
  refine ⟨Resolver.resolve_below hr name, fun tree p hc => ?consults, fun tree tree' he => ?factors⟩
  case consults =>
    have hb : p.Below settings.views.path := hc.below hr
    exact ⟨hb, fun _ => hb.locate_eq_ok⟩
  case factors =>
    exact render_congr _ name b fun p hc => FileTree.sameFile_iff.mpr <| congrFun he ⟨p, hc.below hr⟩

-- A target that spells the way to a file outside of the views is looked for inside of them.
theorem render_confined_key :
    let text : Text := "## include('/..//etc/../\\/key') ##"
    let tree : FileTree := ⟨[], [(["views"], .folder), (["views", "a.html"], .file (toUtf8 text)),
      (["etc"], .folder), (["etc", "key.html"], .file (toUtf8 "k"))]⟩
    let r := ofSettings {}
    let p := r.resolver.resolve "/..//etc/../\\/key"
    Site.Consults ⟨tree, r.resolver⟩ (r.resolver.resolve "a") p ∧ p.Below ⟨"views"⟩ ∧
      p.components = [.name "views", .name "etc", .name "key.html"] := by
  intro text tree r p
  have hr : Site.read ⟨tree, r.resolver⟩ (r.resolver.resolve "a") = .ok (some text) := by decide +kernel
  have hd : ⟨" ", "/..//etc/../\\/key", " "⟩ ∈ Directive.Inclusion.recogniser.items text := by decide +kernel
  have hc : Site.Consults ⟨tree, r.resolver⟩ (r.resolver.resolve "a") p := .inclusion .refl hr hd
  have h := render_confined {} (by decide) "a" ⟨[]⟩
  exact ⟨hc, (h.right.left tree p hc).left, by decide +kernel⟩

end Renderer
end View
end Stencil
