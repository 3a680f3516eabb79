import Stencil.Proofs.Directive.Variable
import Stencil.View.Substitution

/-!
Substitution replaces one variable after the other in a text that already holds the values of earlier
ones. As long as no at sign stands outside of variables and none comes in with a value, that is the
same as writing each value once, at the offset of its variable.
-/
namespace Stencil.View

open Directive Text Variable

variable {b : Bindings} {t : Text} {ps : List (Piece Variable)}

theorem substitute_eq_replaceInTurn (b : Bindings) (t : Text) :
    substitute b t = replaceInTurn raw (some <| valueText b ·) t (distinct t) :=
  rfl

-- No value takes part in a variable, whatever number signs it holds, so in the buffer a variable is found
-- only where it was in the text.
theorem replaceInTurn_of_closed (hps : ∀ p ∈ ps, anchor.Closed p)
    (hvalues : ∀ v, .item v ∈ ps → anchor.Closed (.gap <| valueText b v)) (vs : List Variable)
    (hvs : ∀ v, v ∈ vs ↔ .item v ∈ ps) :
    replaceInTurn raw (some <| valueText b ·) (Piece.join raw ps) vs = Piece.join (valueText b) ps := by
  -- A value is a gap: nothing in it is ever replaced.
  let body? (v : Variable) : Option (List (Piece Variable)) := some [.gap <| valueText b v]
  have hbody : (fun v => (body? v).map <| Piece.join raw) = (some <| valueText b ·) := by
    funext v
    simp [body?, Piece.text]
  have h := replaceInTurn_join anchor.Closed raw_ne_nil
    (fun v _ hv hps => anchor.onlyAt hps <| hv.wellFormed v rfl) body? vs ps
  rw [← hbody, h]
  case hitems => exact fun v hv => hps _ <| (hvs v).mp hv
  case hbody =>
    rintro v hv _ ⟨⟩ p hp
    obtain rfl := List.mem_singleton.mp hp
    exact hvalues v <| (hvs v).mp hv
  case settled =>
    rintro v - _ ⟨⟩ w hw
    simp at hw
  case hps => exact hps
  case covered => exact fun v hv _ => (hvs v).mpr hv
  simp [Piece.join_flatMap_expand, body?, Piece.text]

theorem substitute_of_sealed (h : anchor.Sealed t)
    (hvalues : ∀ v ∈ recogniser.items t, anchor.Closed (.gap <| valueText b v)) :
    substitute b t = recogniser.rewrite (valueText b) t := by
  have hmem v : .item v ∈ recogniser.pieces t ↔ v ∈ recogniser.items t :=
    recogniser_reads.lawful.item_mem_pieces
  have hj : Piece.join raw (recogniser.pieces t) = t := recogniser_reads.lawful.join_pieces t
  have h := replaceInTurn_of_closed h (fun v hv => hvalues v <| (hmem v).mp hv) (distinct t)
    fun v => mem_distinct.trans (hmem v).symm
  rw [hj] at h
  exact h

theorem tame_of_mem_pieces (h : ∀ g ∈ recogniser.gaps t, '@' ∉ g) :
    ∀ p ∈ recogniser.pieces t, Tame p
  | .gap g, hp => h g <| Recogniser.mem_gaps.mpr hp
  | .item _, hp =>
    recogniser_reads.wellFormed_of_mem_items <| recogniser_reads.lawful.item_mem_pieces.mp hp

theorem substitute_of_tame (htame : ∀ p ∈ recogniser.pieces t, Tame p)
    (hvalues : ∀ v ∈ recogniser.items t, '@' ∉ valueText b v) :
    substitute b t = Piece.join (valueText b) (recogniser.pieces t) :=
  substitute_of_sealed (fun p hp => closed_of_tame <| htame p hp) fun v hv =>
    anchor.closed_gap_of_not_mem <| hvalues v hv

-- Escaping neither takes at signs away nor brings any in.
theorem sign_mem_escape : '@' ∈ Markup.escape t ↔ '@' ∈ t := by
  have h c : '@' ∈ Markup.escapeChar c ↔ '@' = c := by
    unfold Markup.escapeChar
    split_ifs <;> simp_all
  simp [Markup.escape, h]

-- What holds of the text of every entry holds of every text that a name is bound to.
theorem forall_text? {Holds : Text → Prop} {b : Bindings}
    (h : ∀ e ∈ b.entries, ∀ value ∈ Bindings.text? ⟨[e]⟩ e.fst, Holds value) {name value : Text}
    (hv : b.text? name = some value) : Holds value := by
  obtain ⟨entries⟩ := b
  induction entries
  case nil => simp [Bindings.text?, Bindings.find?, Dictionary.find?] at hv
  case cons e entries hi =>
    obtain ⟨he, hs⟩ := List.forall_mem_cons.mp h
    by_cases hn : e.fst = name
    case pos =>
      refine he value ?_
      simpa [Bindings.text?, Bindings.find?, Dictionary.find?, hn] using hv
    case neg =>
      refine hi hs ?_
      simpa [Bindings.text?, Bindings.find?, Dictionary.find?, hn] using hv

-- Of the values that go in only defaults can hold an at sign, when no bound value does.
theorem closed_valueText (hvalues : ∀ name value, b.text? name = some value → '@' ∉ value) {v : Variable}
    (hdefault : b.text? v.name = none → anchor.Closed (.gap v.fallback)) :
    anchor.Closed (.gap <| valueText b v) := by
  cases hb : b.text? v.name
  case none => simpa [valueText, hb] using hdefault hb
  case some value =>
    have hs : '@' ∉ value := hvalues v.name value hb
    have hs' : '@' ∉ valueText b v := by
      cases he : v.escaped <;> simpa [valueText, hb, he, sign_mem_escape] using hs
    exact anchor.closed_gap_of_not_mem hs'

-- Every at sign of the text belongs to a variable, and no value holds one.
theorem substitute_eq_rewrite (hgaps : ∀ g ∈ recogniser.gaps t, '@' ∉ g)
    (hvalues : ∀ v ∈ recogniser.items t, '@' ∉ valueText b v) :
    substitute b t = recogniser.rewrite (valueText b) t :=
  substitute_of_tame (tame_of_mem_pieces hgaps) hvalues

-- Adjacent variables share no marker, a value may spell one, and another value may be empty.
theorem substitute_eq_rewrite_adjacent :
    substitute ⟨[("x", .string "#"), ("y", .string "")]⟩ "# ## @x #### e@y #### @z|# #### @x ###" =
      recogniser.rewrite (valueText ⟨[("x", .string "#"), ("y", .string "")]⟩)
        "# ## @x #### e@y #### @z|# #### @x ###" ∧
    substitute ⟨[("x", .string "#"), ("y", .string "")]⟩ "# ## @x #### e@y #### @z|# #### @x ###" =
      "# ####".toList := by
  refine ⟨substitute_eq_rewrite ?gaps ?values, ?text⟩
  case gaps => decide
  case values => decide
  case text => decide

end Stencil.View
