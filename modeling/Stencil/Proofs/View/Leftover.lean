import Stencil.Proofs.View.Inlining
import Stencil.Proofs.View.Substitution

/-!
Which directives are left when all of them have been replaced. A text that is put between two others can
complete a directive with them, and an inclusion or a variable that is replaced wherever its text occurs can
take a marker away from its neighbour, which is not found again then. Where no piece of a text can be taken
for a part of a directive neither of the two happens: an expansion leaves the inclusions of missing partials
and a substitution leaves no variable.
-/
namespace Stencil.View

open Directive Text

namespace Site

variable {s : Site} {limit : Nat} {path : Path} {out : Text}

theorem missing_of_mem_items_expand
    (ht : ∀ p t, s.Reaches path p → s.read p = .ok (some t) → Inclusion.anchor.Sealed t)
    (h : (s.expand limit path).result = .ok (some out)) :
    ∀ d ∈ Inclusion.recogniser.items out, s.tree.isFile (s.partialPath d) = false := by
  obtain ⟨ps, hp, rfl⟩ := exists_inlining_of_sealed ht h
  intro d hd
  exact hp.missing d <| (Inclusion.anchor.mem_items_join_iff hp.closed).mp hd

-- There are number signs around a partial that is empty, and a word that an opening starts with.
theorem missing_of_mem_items_expand_empty :
    let s := ofFiles [("a", "### include('e') ##### include('m') ##include(e)"), ("e", [])]
    let out : Text := "#### include('m') ##include(e)"
    (s.expand 1 ⟨"a"⟩).result = .ok (some out) ∧ Inclusion.recogniser.items out = [⟨" ", "m", " "⟩] ∧
      ∀ d ∈ Inclusion.recogniser.items out, s.tree.isFile (s.partialPath d) = false := by
  intro s out
  let a : Path × Text := (⟨"a"⟩, "### include('e') ##### include('m') ##include(e)")
  let e : Path × Text := (⟨"e"⟩, [])
  have hx : (s.expand 1 ⟨"a"⟩).result = .ok (some out) := by decide +kernel
  have htable : s.Table [a, e] := ⟨by decide +kernel, by decide +kernel⟩
  have htidy : ∀ f ∈ [a, e], Inclusion.Tidy f.snd := by decide +kernel
  have hsealed : ∀ f ∈ [a, e], Inclusion.anchor.Sealed f.snd := fun f hf => (htidy f hf).sealed
  have hreaches := htable.forall_of_reaches (e := a) (by simp) hsealed
  exact ⟨hx, by decide +kernel, missing_of_mem_items_expand hreaches hx⟩

-- The first partial goes in at two places, and at the second of them it takes a marker from the inclusion of
-- the other partial.
theorem not_forall_missing_of_mem_items_expand :
    ¬ ∀ (s : Site) (limit : Nat) (path : Path) (out : Text), (s.expand limit path).result = .ok (some out) →
      ∀ d ∈ Inclusion.recogniser.items out, s.tree.isFile (s.partialPath d) = false := by
  intro h
  let s := ofFiles [("page", "##include('a')##;##include('b')##include('a')##"), ("a", " ##"), ("b", "B")]
  have hx : (s.expand 32 ⟨"page"⟩).result = .ok (some " ##;##include('b') ##".toList) := by decide +kernel
  have hm : ⟨[], "b", " "⟩ ∈ Inclusion.recogniser.items " ##;##include('b') ##" := by decide +kernel
  have hf : s.tree.isFile (s.partialPath ⟨[], "b", " "⟩) = true := by decide +kernel
  have hn := h s 32 ⟨"page"⟩ _ hx _ hm
  exact Bool.false_ne_true (hn.symm.trans hf)

end Site

open Variable

variable {b : Bindings} {t : Text}

theorem items_substitute_eq_nil (hgaps : ∀ g ∈ recogniser.gaps t, anchor.Closed (.gap g))
    (hvalues : ∀ name value, b.text? name = some value → '@' ∉ value)
    (hdefaults : ∀ v ∈ recogniser.items t, b.text? v.name = none → anchor.Closed (.gap v.fallback)) :
    recogniser.items (substitute b t) = [] := by
  have ht : anchor.Sealed t := sealed_of_gaps hgaps
  have hclosed : ∀ v ∈ recogniser.items t, anchor.Closed (.gap <| valueText b v) :=
    fun v hv => closed_valueText hvalues (hdefaults v hv)
  rw [substitute_of_sealed ht hclosed]
  exact anchor.items_rewrite_eq_nil ht hclosed

-- Number signs come together around an empty value, and at signs stand outside of variables.
theorem items_substitute_eq_nil_empty :
    let b : Bindings := ⟨[("x", .string "")]⟩
    let t : Text := "### a@b ### @x ##|## e@z|c@d ##"
    substitute b t = "### a@b #|c@d".toList ∧ recogniser.items (substitute b t) = [] := by
  intro b t
  have hgaps : ∀ g ∈ recogniser.gaps t, Guarded g := by decide +kernel
  have hdefaults : ∀ v ∈ recogniser.items t, b.text? v.name = none → Guarded v.fallback := by decide +kernel
  have hvalues : ∀ e ∈ b.entries, ∀ value ∈ Bindings.text? ⟨[e]⟩ e.fst, '@' ∉ value := by decide +kernel
  refine ⟨by decide +kernel, items_substitute_eq_nil ?gaps (fun _ _ => forall_text? hvalues) ?defaults⟩
  case gaps => exact fun g hg => (hgaps g hg).closed
  case defaults => exact fun v hv hn => (hdefaults v hv hn).closed

-- The first variable is replaced at two places, and at the second of them it takes a marker from the other
-- variable.
theorem not_forall_unbound_of_mem_items_substitute :
    ¬ ∀ (t : Text) (b : Bindings),
      (∀ name value, b.text? name = some value → '#' ∉ value ∧ '@' ∉ value) →
      ∀ v ∈ recogniser.items (substitute b t), b.text? v.name = none := by
  intro h
  let t : Text := "## @x ##;## @y ## @x ## ##"
  let b : Bindings := ⟨[("x", .string ""), ("y", .string "v")]⟩
  have hm : ⟨' ', false, "y  ", none⟩ ∈ recogniser.items (substitute b t) := by decide +kernel
  have hb : b.text? (Variable.name ⟨' ', false, "y  ", none⟩) = some "v".toList := by decide +kernel
  have hvalues : ∀ e ∈ b.entries, ∀ value ∈ Bindings.text? ⟨[e]⟩ e.fst, '#' ∉ value ∧ '@' ∉ value := by
    decide +kernel
  exact nomatch (h t b (fun _ _ => forall_text? hvalues) _ hm).symm.trans hb

end Stencil.View
