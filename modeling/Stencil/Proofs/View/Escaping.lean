import Stencil.Proofs.Text.Count
import Stencil.Proofs.View.Substitution

/-!
What a value can do to the markup of a page when it goes in escaped. Escaping takes every delimiter
out of the value but leaves number signs and at signs alone, so a value may still spell another
variable of the page, and that one is then evaluated once more. The delimiters of two runs agree
exactly when such evaluations weigh the same in both of them. A page with escaped variables alone never
gains a delimiter (`count_substitute_le`).
-/
namespace Stencil.View

open Directive Text Variable

variable {b : Bindings} {x : Text} {t : Text} {v : Variable} {c : Char}

theorem text?_insert_string (b : Bindings) (x name value : Text) :
    (b.insert x (.string value)).text? name = if name = x then some value else b.text? name := by
  by_cases h : name = x <;> simp [Bindings.text?, b.find?_insert, h]

theorem valueText_insert_of_ne (h : v.name ≠ x) (value : Text) :
    valueText (b.insert x (.string value)) v = valueText b v := by
  simp [valueText, text?_insert_string, h]

theorem valueText_insert_of_escaped (hn : v.name = x) (he : v.escaped) (value : Text) :
    valueText (b.insert x (.string value)) v = Markup.escape value := by
  simp [valueText, text?_insert_string, hn, he]

-- How many times more a character stands in a page after one evaluation of a variable, when those
-- with the name `x` are escaped.
def gain (b : Bindings) (x : Text) (c : Char) (v : Variable) : Int :=
  (if v.name = x then 0 else ((valueText b v).count c : Int)) - v.raw.count c

theorem gain_eq (hx : v.name = x → v.escaped) (hc : c ∈ Markup.delimiters) (value : Text) :
    ((valueText (b.insert x (.string value)) v).count c - v.raw.count c : Int) = gain b x c v := by
  by_cases hn : v.name = x
  case pos => simp [gain, hn, valueText_insert_of_escaped hn (hx hn), Markup.count_escape hc]
  case neg => simp [gain, hn, valueText_insert_of_ne hn]

-- What the evaluations bring into a page altogether, when a value is bound to `x`.
def turnover (b : Bindings) (x value : Text) (c : Char) (t : Text) : Int :=
  ((turns raw (valueText <| b.insert x (.string value)) t (distinct t)).map fun (v, n) =>
    n * gain b x c v).sum

theorem count_substitute_insert (hx : ∀ v ∈ recogniser.items t, v.name = x → v.escaped)
    (hc : c ∈ Markup.delimiters) (value : Text) :
    ((substitute (b.insert x (.string value)) t).count c : Int) = t.count c + turnover b x value c t := by
  rw [substitute_eq_replaceInTurn, count_replaceInTurn raw_ne_nil, turnover]
  congr 2
  refine List.map_congr_left fun ⟨v, n⟩ h => congrArg ((n : Int) * ·) ?_
  exact gain_eq (hx v <| mem_distinct.mp <| mem_of_mem_turns h) hc value

theorem count_substitute_eq_iff_turnover_eq (hx : ∀ v ∈ recogniser.items t, v.name = x → v.escaped)
    (value value' : Text) :
    (∀ c ∈ Markup.delimiters, (substitute (b.insert x (.string value)) t).count c =
      (substitute (b.insert x (.string value')) t).count c) ↔
    ∀ c ∈ Markup.delimiters, turnover b x value c t = turnover b x value' c t := by
  refine forall₂_congr fun c hc => ?_
  have h := count_substitute_insert (b := b) hx hc value
  have h' := count_substitute_insert (b := b) hx hc value'
  omega

theorem count_substitute_eq_iff_turnover_eq_tag :
    (∀ v ∈ recogniser.items "## e@x ##<p>## @y ##</p>", v.name = "x" → v.escaped) ∧
    ∀ c ∈ Markup.delimiters,
      (substitute (.insert ⟨[("y", .string "<b>")]⟩ "x" (.string "<i>")) "## e@x ##<p>## @y ##</p>").count c =
        (substitute (.insert ⟨[("y", .string "<b>")]⟩ "x" (.string "")) "## e@x ##<p>## @y ##</p>").count c := by
  refine ⟨by decide, (count_substitute_eq_iff_turnover_eq ?escaped _ _).mpr ?turnover⟩
  case escaped => decide
  case turnover =>
    simp only [Markup.delimiters, List.forall_mem_cons, List.not_mem_nil, false_imp_iff, implies_true]
    decide +kernel

-- The value of the escaped variable spells the other one.
theorem not_forall_count_substitute_eq :
    ¬ ∀ (t x value value' : Text) (b : Bindings), (∀ v ∈ recogniser.items t, v.name = x → v.escaped) →
      ∀ c ∈ Markup.delimiters, (substitute (b.insert x (.string value)) t).count c =
        (substitute (b.insert x (.string value')) t).count c := by
  intro h
  have hx : ∀ v ∈ recogniser.items "## e@x #### @y ##", v.name = "x" → v.escaped := by decide
  have hc := h _ _ "## @y ##" "" ⟨[("y", .string "<b>")]⟩ hx '<' (by decide)
  -- Two tags on one side, one on the other.
  exact absurd hc (by decide +kernel)

-- The default of a variable is a part of the variable.
theorem fallback_sublist_raw (v : Variable) : v.fallback.Sublist v.raw := by
  have ⟨left, right, he, _⟩ := (trims_trim isSpace (v.alternative?.getD [])).around
  have hf : v.fallback <:+: v.alternative?.getD [] := ⟨left, right, he.symm⟩
  have hb : (v.alternative?.getD []).Sublist (bar v.alternative?) := by
    cases v.alternative?
    case none => exact .refl _
    case some f => exact List.sublist_cons_self '|' f
  have ht : (bar v.alternative?).Sublist v.tail :=
    (List.sublist_append_right v.label _).trans <| List.sublist_append_left _ marker
  have hr : v.tail.Sublist v.raw := by
    rw [raw_eq]
    exact (List.sublist_cons_self '@' v.tail).trans <| List.sublist_append_right v.head _
  exact hf.sublist.trans <| hb.trans <| ht.trans hr

theorem count_valueText_le (he : v.escaped) (hc : c ∈ Markup.delimiters) (b : Bindings) :
    (valueText b v).count c ≤ v.raw.count c := by
  cases hb : b.text? v.name
  case none =>
    have hv : valueText b v = v.fallback := by simp [valueText, hb]
    rw [hv]
    exact (fallback_sublist_raw v).count_le c
  case some value =>
    have hv : valueText b v = Markup.escape value := by simp [valueText, hb, he]
    rw [hv, Markup.count_escape hc]
    exact Nat.zero_le _

-- However often a value is evaluated, it only takes delimiters out of the page.
theorem count_substitute_le (he : ∀ v ∈ recogniser.items t, v.escaped) (b : Bindings) :
    ∀ c ∈ Markup.delimiters, (substitute b t).count c ≤ t.count c := by
  intro c hc
  have hv : ∀ v ∈ distinct t, (valueText b v).count c ≤ v.raw.count c :=
    fun v hv => count_valueText_le (he v <| mem_distinct.mp hv) hc b
  rw [substitute_eq_replaceInTurn]
  exact count_replaceInTurn_le raw_ne_nil hv t

-- A value spells another variable of the page, and a default is a tag.
theorem count_substitute_le_spelled :
    let b : Bindings := ⟨[("x", .string "## e@y ##<i>"), ("y", .string "<b>")]⟩
    let t : Text := "<p title='## e@x ##'>## e@y #### e@z|<hr> ##</p>"
    (∀ v ∈ recogniser.items t, v.escaped) ∧
      substitute b t = "<p title='&lt;b&gt;&lt;i&gt;'>&lt;b&gt;<hr></p>".toList ∧
      ∀ c ∈ Markup.delimiters, (substitute b t).count c ≤ t.count c := by
  intro b t
  have he : ∀ v ∈ recogniser.items t, v.escaped := by decide +kernel
  exact ⟨he, by decide +kernel, count_substitute_le he b⟩

end Stencil.View
