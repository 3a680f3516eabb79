import Stencil.Proofs.View.Confinement

/-!
A name that spells the names of folders and of a file, one part after the other, stands for the path that leads
through them and for no other (`Resolver.Spells.components_resolve`,
`Resolver.Spells.eq_of_components_resolve_eq`).
-/
namespace Stencil.View.Resolver

open Text

variable {r : Resolver} {extension name name' part last s : Text} {before parts : List Text}

-- Every part of the name is a name in the file tree, and none has a slash or a backslash that is dropped.
def Spells (name : Text) : Prop :=
  ∀ part ∈ split '.' name, part ≠ [] ∧ '/' ∉ part ∧ part.head? ≠ some '\\'

-- What the name of a file has behind the last part: one dot and the extension without dots before it, or nothing.
def suffix (extension : Text) : Text :=
  match extension.dropWhile (· = '.') with
  | [] => []
  | c :: rest => '.' :: c :: rest

theorem fileName_ofSettings (root : Path) (extension s : Text) :
    (ofSettings root extension).fileName s = s ++ suffix extension := by
  unfold fileName ofSettings suffix
  cases extension.dropWhile (· = '.') <;> simp

theorem fileName_injective (r : Resolver) : Function.Injective r.fileName := by
  intro s t h
  unfold fileName at h
  split at h
  case isTrue => exact h
  case isFalse => exact List.append_cancel_right h

theorem withFileName_concat (r : Resolver) (before : List Text) (last : Text) :
    r.withFileName (before ++ [last]) = before ++ [r.fileName last] := by
  induction before
  case nil => rfl
  case cons s rest hi => cases rest <;> simp_all [withFileName]

theorem segment_eq_self (hs : '/' ∉ part) (hb : part.head? ≠ some '\\') : segment part = part := by
  cases part
  case nil => rfl
  case cons c part =>
    have ⟨hc, _⟩ : c ≠ '/' ∧ '/' ∉ part := by simpa [eq_comm] using hs
    have hb : c ≠ '\\' := by simpa using hb
    simp [segment, hc, hb]

theorem isName_of_dot_not_mem (hn : s ≠ []) (hs : '/' ∉ s) (hd : '.' ∉ s) : Path.IsName s := by
  have ⟨hh, hp⟩ := ne_dots_of_dot_not_mem hd <| split_of_not_mem hs ▸ List.mem_singleton_self _
  exact ⟨hn, hh, hp, hs⟩

theorem isName_fileName (hr : r.Plain) (hn : s ≠ []) (hs : '/' ∉ s) (hd : '.' ∉ s) :
    Path.IsName (r.fileName s) := by
  have hf : '/' ∉ r.fileName s := by
    unfold fileName
    split
    case isTrue => exact hs
    case isFalse => simp [hs, hr.slash]
  have ⟨hh, hp⟩ := ne_dots_of_mem_fileName hr hd <| split_of_not_mem hf ▸ List.mem_singleton_self _
  refine ⟨?_, hh, hp, hf⟩
  unfold fileName
  split <;> simp [hn]

theorem exists_split_eq_concat (name : Text) : ∃ before last, split '.' name = before ++ [last] :=
  (List.eq_nil_or_concat' <| split '.' name).resolve_left <| split_ne_nil '.' name

namespace Spells

theorem map_segment (h : Spells name) : (split '.' name).map segment = split '.' name := by
  have hs (part : Text) (hp : part ∈ split '.' name) : segment part = part :=
    segment_eq_self (h part hp).right.left (h part hp).right.right
  exact (List.map_congr_left hs).trans <| List.map_id _

theorem segments_eq (h : Spells name) (hs : split '.' name = before ++ [last]) :
    r.segments name = before ++ [r.fileName last] := by
  rw [segments, h.map_segment, hs, withFileName_concat]

theorem components_resolve (h : Spells name) (hr : r.Plain) (hs : split '.' name = before ++ [last]) :
    (r.resolve name).components = r.root.components ++ (before ++ [r.fileName last]).map .name := by
  rw [resolve, h.segments_eq hs]
  refine Path.components_foldl_push r.root fun n hn => ?_
  obtain hn | hn := List.mem_append.mp hn
  case inl =>
    have hm : n ∈ split '.' name := hs ▸ List.mem_append_left _ hn
    exact isName_of_dot_not_mem (h n hm).left (h n hm).right.left <| not_mem_of_mem_split hm
  case inr =>
    obtain rfl := List.mem_singleton.mp hn
    have hl : last ∈ split '.' name := by simp [hs]
    exact isName_fileName hr (h last hl).left (h last hl).right.left <| not_mem_of_mem_split hl

theorem eq_of_components_resolve_eq (h : Spells name) (h' : Spells name') (hr : r.Plain)
    (he : (r.resolve name).components = (r.resolve name').components) : name = name' := by
  have ⟨before, last, hs⟩ := exists_split_eq_concat name
  have ⟨before', last', hs'⟩ := exists_split_eq_concat name'
  rw [h.components_resolve hr hs, h'.components_resolve hr hs'] at he
  have hc : before ++ [r.fileName last] = before' ++ [r.fileName last'] :=
    List.map_injective_iff.mpr (fun _ _ => Path.Component.name.inj) <| List.append_cancel_left he
  obtain ⟨rfl, hl⟩ := List.append_inj' hc rfl
  obtain rfl := fileName_injective r <| List.singleton_inj.mp hl
  exact split_injective '.' <| hs.trans hs'.symm

end Spells

-- Two names for one file are the same name.
theorem resolve_exact (root : Path) (h : '/' ∉ extension) :
    let r := ofSettings root extension
    (∀ name, Spells name → ∃ before last, split '.' name = before ++ [last] ∧
      (r.resolve name).components = root.components ++ (before ++ [last ++ suffix extension]).map .name) ∧
    ∀ name name', Spells name → Spells name' → (r.resolve name).same (r.resolve name') → name = name' := by
  intro r
  have hr : r.Plain := ofSettings_plain root h
  refine ⟨fun name hn => ?components, fun name name' hn hn' he => ?injective⟩
  case components =>
    have ⟨before, last, hs⟩ := exists_split_eq_concat name
    exact ⟨before, last, hs, fileName_ofSettings root extension last ▸ hn.components_resolve hr hs⟩
  case injective => exact hn.eq_of_components_resolve_eq hn' hr (of_decide_eq_true he)

-- A backslash inside of a part is kept, so the second name is for another file.
theorem resolve_exact_layout :
    let r := ofSettings ⟨"srv//views/"⟩ "..tpl"
    '/' ∉ ("..tpl" : Text) ∧ Spells "layout.header" ∧ Spells "layout.head\\er" ∧
    (r.resolve "layout.header").components = [.name "srv", .name "views", .name "layout", .name "header.tpl"] ∧
    ¬(r.resolve "layout.header").same (r.resolve "layout.head\\er") := by
  intro r
  have hx : '/' ∉ ("..tpl" : Text) := by decide
  have hn : Spells "layout.header" := by unfold Spells; decide
  have hn' : Spells "layout.head\\er" := by unfold Spells; decide
  have ⟨hc, hi⟩ := resolve_exact ⟨"srv//views/"⟩ hx
  refine ⟨hx, hn, hn', ?components, fun he => ?injective⟩
  case components =>
    obtain ⟨before, last, hs, hc⟩ := hc _ hn
    have hp : split '.' "layout.header" = ["layout"] ++ ["header"] := by decide
    obtain ⟨rfl, hl⟩ := List.append_inj' (hs.symm.trans hp) rfl
    obtain rfl := List.singleton_inj.mp hl
    exact hc
  case injective => exact absurd (hi _ _ hn hn' he) (by decide)

end Stencil.View.Resolver
