import Stencil.Proofs.Text.Leftmost
import Stencil.Proofs.View.Inlining
import Stencil.Proofs.View.Substitution
import Stencil.View.Renderer

/-!
An inclusion of a missing partial stays in the page. Whatever else is replaced may take one of its markers
away: another inclusion in the expansion, or a variable in the substitution. In sealed texts this happens
only to an inclusion that a variable of the expanded text overlaps.
-/
namespace Stencil.View

open Directive Text

namespace Site.Inlining

variable {s : Site} {path : Path} {t : Text} {ps : List (Piece Inclusion)} {d : Inclusion}

-- The text of the inclusion is written where it was, and among closed pieces it is found nowhere but as a
-- piece of its own.
theorem item_mem (h : s.Inlining path ps) (hr : s.read path = .ok (some t))
    (hd : d ∈ Inclusion.recogniser.items t) (hf : s.tree.isFile (s.partialPath d) = false) : .item d ∈ ps := by
  have hi := h.inlines
  generalize hj : Piece.join Inclusion.raw ps = out at hi
  obtain @⟨_, t', body, hr', -, hm⟩ := hi
  obtain rfl : t = t' := by simpa [hr] using hr'
  have hp : .item d ∈ Inclusion.recogniser.pieces t := Inclusion.recogniser_reads.lawful.item_mem_pieces.mpr hd
  obtain ⟨qs, rs, hs⟩ := List.append_of_mem hp
  have ho : Piece.join Inclusion.raw ps = Piece.join body qs ++ d.raw ++ Piece.join body rs := by
    rw [hj, Recogniser.rewrite, hs]
    simp [Piece.text, hm d hd hf]
  have hw : d.WellFormed := Inclusion.recogniser_reads.wellFormed_of_mem_items hd
  obtain ⟨qs', rs', rfl, -⟩ := Inclusion.anchor.onlyAt h.closed hw _ _ ho
  simp

end Site.Inlining

variable {b : Bindings} {e : Text} {o : Occurrence Inclusion}

theorem raw_infix_substitute (hgaps : ∀ g ∈ Variable.recogniser.gaps e, Variable.anchor.Closed (.gap g))
    (hvalues : ∀ v ∈ Variable.recogniser.items e, Variable.anchor.Closed (.gap <| valueText b v))
    (ho : o ∈ Inclusion.occurrences e)
    (hapart : ∀ o' ∈ Variable.occurrences e, o'.stop Variable.raw ≤ o.offset ∨ o.stop Inclusion.raw ≤ o'.offset) :
    o.item.raw <:+: substitute b e := by
  have ⟨pre, post, he, hn⟩ := Inclusion.recogniser_reads.lawful.exists_append_of_mem_occurrences ho
  have hs : o.stop Inclusion.raw = (pre ++ o.item.raw).byteLength := by
    rw [byteLength_append, ← hn]
    rfl
  rw [substitute_of_sealed (Variable.sealed_of_gaps hgaps) hvalues]
  refine Variable.recogniser_reads.infix_rewrite 0 he fun o' ho' => ?_
  have hm := hapart o' ho'
  rw [hs, hn] at hm
  rwa [Nat.zero_add, Nat.zero_add]

namespace Renderer

variable {r : Renderer} {tree : FileTree} {name t out : Text} {d : Inclusion}

theorem render_eq_ok_iff : (r.render tree name b).result = .ok out ↔
    tree.isFile (r.resolver.resolve name) ∧ ∃ e,
      (Site.expand ⟨tree, r.resolver⟩ r.maxDepth (r.resolver.resolve name)).result = .ok (some e) ∧
      substitute b e = out := by
  change (r.compile tree name b).result = .ok out ↔ _
  unfold compile
  cases hf : tree.isFile (r.resolver.resolve name)
  case false => simp [hf]
  case true =>
    simp only [hf, Bool.not_true, Bool.false_eq_true, if_false, true_and, Recorded.result_bind_eq_ok_iff]
    constructor
    case mp =>
      rintro ⟨_ | e, he, h⟩
      case none => simp at h
      case some => exact ⟨e, he, by simpa using h⟩
    case mpr =>
      rintro ⟨e, he, rfl⟩
      exact ⟨some e, he, rfl⟩

theorem raw_infix_render
    (hr : Site.read ⟨tree, r.resolver⟩ (r.resolver.resolve name) = .ok (some t))
    (hd : d ∈ Inclusion.recogniser.items t) (hf : tree.isFile (r.resolver.resolve d.target) = false)
    (hfiles : ∀ p t, Site.Reaches ⟨tree, r.resolver⟩ (r.resolver.resolve name) p →
      Site.read ⟨tree, r.resolver⟩ p = .ok (some t) → Inclusion.anchor.Sealed t)
    (he : (Site.expand ⟨tree, r.resolver⟩ r.maxDepth (r.resolver.resolve name)).result = .ok (some e))
    (hgaps : ∀ g ∈ Variable.recogniser.gaps e, Variable.anchor.Closed (.gap g))
    (hvalues : ∀ v ∈ Variable.recogniser.items e, Variable.anchor.Closed (.gap <| valueText b v))
    (hapart : ∀ o ∈ Inclusion.occurrences e, o.item = d → ∀ o' ∈ Variable.occurrences e,
      o'.stop Variable.raw ≤ o.offset ∨ o.stop Inclusion.raw ≤ o'.offset)
    (h : (r.render tree name b).result = .ok out) : d.raw <:+: out := by
  obtain ⟨-, e', he', rfl⟩ := render_eq_ok_iff.mp h
  obtain rfl : e = e' := by simpa [he] using he'
  obtain ⟨ps, hp, rfl⟩ := Site.exists_inlining_of_sealed hfiles he
  have hm : d ∈ Inclusion.recogniser.items (Piece.join Inclusion.raw ps) :=
    (Inclusion.anchor.mem_items_join_iff hp.closed).mpr <| hp.item_mem hr hd hf
  obtain ⟨o, ho, rfl⟩ := Recogniser.mem_items_iff.mp hm
  exact raw_infix_substitute hgaps hvalues ho <| hapart o ho rfl

-- The inclusion of one missing partial stands next to that of a partial with a variable and is kept. That
-- of the other one shares a marker with a variable and is not.
theorem raw_infix_render_between :
    let s := Site.ofFiles [("page", "## include('m') #### include('a') ##c@d## include('n') ## @x ##"),
      ("a", "<p>## @x ##")]
    let r : Renderer := ⟨s.resolver, 8, {}⟩
    let out : Text := "## include('m') ##<p>#c@d## include('n') #"
    (r.render s.tree "page" ⟨[("x", .string "#")]⟩).result = .ok out ∧
      Inclusion.raw ⟨" ", "m", " "⟩ <:+: out ∧ ¬ Inclusion.raw ⟨" ", "n", " "⟩ <:+: out := by
  intro s r out
  let page : Path × Text := (⟨"page"⟩, "## include('m') #### include('a') ##c@d## include('n') ## @x ##")
  let a : Path × Text := (⟨"a"⟩, "<p>## @x ##")
  let e : Text := "## include('m') ##<p>## @x ##c@d## include('n') ## @x ##"
  let b : Bindings := ⟨[("x", .string "#")]⟩
  have htable : s.Table [page, a] := ⟨by decide +kernel, by decide +kernel⟩
  have htidy : ∀ f ∈ [page, a], Inclusion.Tidy f.snd := by decide +kernel
  have hsealed : ∀ f ∈ [page, a], Inclusion.anchor.Sealed f.snd := fun f hf => (htidy f hf).sealed
  have hgaps : ∀ g ∈ Variable.recogniser.gaps e, Variable.Guarded g := by decide +kernel
  have hvalues : ∀ v ∈ Variable.recogniser.items e, Variable.Guarded (valueText b v) := by decide +kernel
  have hx : (r.render s.tree "page" b).result = .ok out := by decide +kernel
  have hr : s.read ⟨"page"⟩ = .ok (some page.snd) := htable.read page (by simp)
  refine ⟨hx, raw_infix_render hr ?item ?missing ?files (e := e) ?expand ?gaps ?values ?apart hx, ?_⟩
  case item => decide +kernel
  case missing => decide +kernel
  case files => exact htable.forall_of_reaches (e := page) (by simp) hsealed
  case expand => decide +kernel
  case gaps => exact fun g hg => (hgaps g hg).closed
  case values => exact fun v hv => (hvalues v hv).closed
  case apart => decide +kernel
  decide +kernel

-- The partial goes in at two places, and at the first of them it takes the marker that ends the inclusion of
-- the missing one.
theorem not_forall_raw_infix_render :
    ¬ ∀ (r : Renderer) (tree : FileTree) (name t out : Text) (b : Bindings),
      (r.render tree name b).result = .ok out →
      Site.read ⟨tree, r.resolver⟩ (r.resolver.resolve name) = .ok (some t) →
      ∀ d ∈ Inclusion.recogniser.items t, tree.isFile (r.resolver.resolve d.target) = false →
        d.raw <:+: out := by
  intro h
  let s := Site.ofFiles [("page", "## include('m') ## include('a') ##;## include('a') ##"), ("a", "A")]
  let r : Renderer := ⟨s.resolver, 8, {}⟩
  have hx : (r.render s.tree "page" ⟨[]⟩).result = .ok "## include('m') A;A".toList := by decide +kernel
  have hr : s.read ⟨"page"⟩ = .ok (some "## include('m') ## include('a') ##;## include('a') ##".toList) := by
    decide +kernel
  have hm : ⟨" ", "m", " "⟩ ∈ Inclusion.recogniser.items "## include('m') ## include('a') ##;## include('a') ##" :=
    by decide +kernel
  have hf : s.tree.isFile (s.resolver.resolve "m") = false := by decide +kernel
  exact absurd (h r s.tree "page" _ _ ⟨[]⟩ hx hr _ hm hf) (by decide +kernel)

end Renderer
end Stencil.View
