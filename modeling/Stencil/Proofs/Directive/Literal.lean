import Stencil.Proofs.Directive.Grammar
import Stencil.Proofs.Text.Apart
import Stencil.Proofs.Text.Occurrence

/-!
Directives as literals. No directive lies within another one of its kind, so what is reported of a text stays
when another text follows (`occurrences_append_shift`), and the text of a directive tells which one it is
(`eq_of_alike`). Two directives can stand so close that they share a marker, and when the one is replaced
wherever it occurs, the inside of the other is left as it is (`literals_apart`). Two inclusions can also share
more, when the target of the one ends in an opening without its quote and that of the other starts with the end
of a closing: then it is not.
-/
namespace Stencil.Directive

open Text

variable {x y : Text}

namespace Variable

variable {v w : Variable} {p : Text}

-- What stands between the markers.
def inside (v : Variable) : Text :=
  v.gap :: (if v.escaped then ['e', '@'] else ['@']) ++ v.label ++ bar v.alternative?

theorem raw_eq_inside (v : Variable) : v.raw = marker ++ v.inside ++ marker := by
  simp [raw, inside]

-- What comes before the default holds no number sign, and the default holds no marker.
theorem not_marker_within (h : v.WellFormed) : ¬ marker <:+: '#' :: (v.inside ++ ['#']) := by
  have hg : v.gap ≠ '#' := fun hc => absurd h.gap (by simp [hc]; decide)
  have hl : '#' ∉ v.label := fun hm => absurd (h.label _ hm) (by decide)
  let lead : Text := v.gap :: (if v.escaped then ['e', '@'] else ['@']) ++ v.label
  have hlead : '#' ∉ lead := by cases he : v.escaped <;> simp [lead, he, hg.symm, hl]
  intro hm
  obtain hp | hm := List.infix_cons_iff.mp hm
  case inl => exact hg.symm (by simpa [marker_eq, inside] using hp)
  case inr =>
    cases ha : v.alternative?
    case none =>
      have he : v.inside ++ ['#'] = lead ++ ['#'] := by simp [inside, lead, ha, bar]
      have hs : marker <:+: ['#'] := infix_of_infix_append hlead <| he ▸ hm
      simpa [marker_eq] using hs.length_le
    case some f =>
      have he : v.inside ++ ['#'] = (lead ++ ['|']) ++ (f ++ ['#']) := by simp [inside, lead, ha, bar]
      have hbar : '#' ∉ lead ++ ['|'] := by simpa using hlead
      have hs : marker <:+: f ++ ['#'] := infix_of_infix_append hbar <| he ▸ hm
      exact h.alternative_marker f ha hs

theorem marker_at_ends (h : v.WellFormed) (he : v.raw = x ++ marker ++ y) : x = [] ∨ y = [] := by
  cases x
  case nil => exact .inl rfl
  case cons c x =>
    obtain rfl | ⟨y, d, rfl⟩ := List.eq_nil_or_concat y
    case inl => exact .inr rfl
    case inr =>
      have hs : ('#' :: (v.inside ++ ['#'])) ++ ['#'] = (x ++ marker ++ y) ++ [d] := by
        rw [raw_eq_inside, marker_eq] at he
        simpa [marker_eq] using congrArg List.tail he
      exact absurd ⟨x, y, (List.append_inj' hs rfl).left.symm⟩ (not_marker_within h)

theorem eq_of_raw_within (hv : v.WellFormed) (hw : w.WellFormed) (h : v.raw <:+: w.raw) : v = w := by
  obtain ⟨x, y, he⟩ := h
  have hx : x = [] := by
    refine (marker_at_ends hw (y := v.inside ++ marker ++ y) ?_).resolve_right (by simp [marker_eq])
    rw [← he, raw_eq_inside v]
    simp
  have he : v.raw ++ y = w.raw ++ [] := by simpa [hx] using he
  exact recogniser_reads.eq_of_append_eq hv hw he

theorem overlap (hv : v.WellFormed) (hw : w.WellFormed) (hne : v ≠ w) (hs : p <:+ v.raw) (hp : p <+: w.raw) :
    p.length ≤ marker.length := by
  by_contra hl
  have hm : marker <+: w.raw := ⟨w.inside ++ marker, by simp [raw_eq_inside]⟩
  obtain ⟨q, rfl⟩ : marker <+: p := List.prefix_of_prefix_length_le hm hp (by omega)
  have ⟨u, hu⟩ := hs
  obtain rfl : u = [] := by
    refine (marker_at_ends hv (y := q) (by simp [← hu])).resolve_right fun hq => ?_
    simp [hq] at hl
  exact hne <| eq_of_raw_within hv hw (hu ▸ hp.isInfix)

theorem apart (hv : v.WellFormed) (hw : w.WellFormed) (hne : v ≠ w) : Apart marker.length v.raw w.raw where
  not_infix := ⟨fun hi => hne <| eq_of_raw_within hv hw hi, fun hi => hne.symm <| eq_of_raw_within hw hv hi⟩
  overlap _ := overlap hv hw hne
  overlap_symm _ := overlap hw hv hne.symm

end Variable

namespace Inclusion

variable {d e : Inclusion} {p : Text}

def inside (d : Inclusion) : Text :=
  d.before ++ opening ++ d.target ++ closing ++ d.after

theorem raw_eq_inside (d : Inclusion) : d.raw = marker ++ d.inside ++ marker := by
  simp [raw, inside]

-- What comes before the first quote.
def front (d : Inclusion) : Text :=
  d.lead ++ opening.dropLast

-- What comes after the second quote.
def back (d : Inclusion) : Text :=
  closing.tail ++ d.after ++ marker

theorem closing_eq : closing = ['\'', ')'] := by
  decide

theorem raw_eq_quoted (d : Inclusion) : d.raw = d.front ++ '\'' :: (d.target ++ '\'' :: d.back) := by
  simp [raw, front, back, lead, opening_eq, closing_eq]

theorem quote_not_mem (h : d.WellFormed) : '\'' ∉ d.front ∧ '\'' ∉ d.target ∧ '\'' ∉ d.back := by
  have hb : '\'' ∉ d.before := fun hm => absurd (h.before _ hm) (by decide)
  have ht : '\'' ∉ d.target := fun hm => absurd (h.target _ hm) (by decide)
  have ha : '\'' ∉ d.after := fun hm => absurd (h.after _ hm) (by decide)
  simp [front, lead, back, hb, ht, ha, marker_eq, opening_eq, closing_eq]

theorem count_quote (h : d.WellFormed) :
    d.front.count '\'' = 0 ∧ d.target.count '\'' = 0 ∧ d.back.count '\'' = 0 := by
  simpa only [List.count_eq_zero] using quote_not_mem h

theorem front_inj (hd : d.WellFormed) (he : e.WellFormed) (h : x ++ d.front = e.front) : x = [] := by
  have h : x ++ d.lead = [] ++ e.lead := by
    rw [front, front, ← List.append_assoc] at h
    exact List.append_cancel_right h
  exact (lead_inj hd he h).left

-- How an inclusion ends, by the number of quotes in its end.
theorem suffix_cases (hd : d.WellFormed) (h : p <:+ d.raw) :
    (p.count '\'' = 0 ∧ p <:+ d.back) ∨
    (p.count '\'' = 1 ∧ ∃ w, w <:+ d.target ∧ p = w ++ '\'' :: d.back) ∨
    (p.count '\'' = 2 ∧ ∃ w, w <:+ d.front ∧ p = w ++ '\'' :: (d.target ++ '\'' :: d.back)) := by
  have ⟨hf, ht, hb⟩ := count_quote hd
  rw [raw_eq_quoted] at h
  obtain h | ⟨w, hw, rfl⟩ := suffix_append_cons h
  case inr =>
    have := hw.count_le '\''
    exact .inr <| .inr ⟨by simp [ht, hb]; omega, w, hw, rfl⟩
  case inl =>
    obtain h | ⟨w, hw, rfl⟩ := suffix_append_cons h
    case inr =>
      have := hw.count_le '\''
      exact .inr <| .inl ⟨by simp [hb]; omega, w, hw, rfl⟩
    case inl =>
      have := h.count_le '\''
      exact .inl ⟨by omega, h⟩

theorem prefix_cases (hd : d.WellFormed) (h : p <+: d.raw) :
    (p.count '\'' = 0 ∧ p <+: d.front) ∨
    (p.count '\'' = 1 ∧ ∃ w, w <+: d.target ∧ p = d.front ++ '\'' :: w) ∨
    (p.count '\'' = 2 ∧ ∃ w, w <+: d.back ∧ p = d.front ++ '\'' :: (d.target ++ '\'' :: w)) := by
  have ⟨hf, ht, hb⟩ := count_quote hd
  rw [raw_eq_quoted] at h
  obtain h | ⟨w, hw, rfl⟩ := prefix_append_cons h
  case inl =>
    have := h.count_le '\''
    exact .inl ⟨by omega, h⟩
  case inr =>
    obtain hw | ⟨z, hz, rfl⟩ := prefix_append_cons hw
    case inl =>
      have := hw.count_le '\''
      exact .inr <| .inl ⟨by simp [hf]; omega, w, hw, rfl⟩
    case inr =>
      have := hz.count_le '\''
      exact .inr <| .inr ⟨by simp [hf, ht]; omega, z, hz, rfl⟩

theorem eq_of_raw_within (hd : d.WellFormed) (he : e.WellFormed) (h : d.raw <:+: e.raw) : d = e := by
  have ⟨hf, ht, hb⟩ := count_quote hd
  have ⟨hf', ht', hb'⟩ := count_quote he
  obtain ⟨x, y, h⟩ := h
  have hc := congrArg (List.count '\'') h
  simp only [raw_eq_quoted, List.count_append, List.count_cons_self] at hc
  have hx : '\'' ∉ x := List.count_eq_zero.mp <| by omega
  have hq : (x ++ d.front) ++ '\'' :: (d.target ++ '\'' :: d.back ++ y) =
      e.front ++ '\'' :: (e.target ++ '\'' :: e.back) := by
    rw [← raw_eq_quoted, ← h, raw_eq_quoted]
    simp
  have hxf : '\'' ∉ x ++ d.front := by simp [hx, (quote_not_mem hd).left]
  obtain rfl := front_inj hd he (append_cons_inj hxf (quote_not_mem he).left hq).left
  have h : d.raw ++ y = e.raw ++ [] := by simpa using h
  exact recogniser_reads.eq_of_append_eq hd he h

-- The most that two inclusions share: the front of the one, a quote and the back of the other.
def knot : Text :=
  "##include(')##"

theorem length_le_of_back_of_front (hd : d.WellFormed) (hs : p <:+ d.back) (hp : p <+: e.front) :
    p.length ≤ marker.length := by
  have ha : '#' ∉ closing.tail ++ d.after := by
    have ha : '#' ∉ d.after := fun hm => absurd (hd.after _ hm) (by decide)
    simp [closing_eq, ha]
  have hb : d.back = (closing.tail ++ d.after) ++ '#' :: ['#'] := by simp [back, marker_eq]
  obtain hs | ⟨_ | ⟨c, w⟩, hw, rfl⟩ := suffix_append_cons (hb ▸ hs)
  case inl => exact hs.length_le.trans (by decide)
  case inr.nil => exact Nat.le_refl _
  case inr.cons =>
    obtain rfl : c = '#' := by
      have ⟨z, hz⟩ := hp
      simpa [front, lead, marker_eq] using congrArg List.head? hz
    exact absurd (hw.subset List.mem_cons_self) ha

theorem eq_nil_of_subset_target (hd : d.WellFormed) (hx : ∀ c ∈ x, isSpace c) (h : x ⊆ d.target) : x = [] := by
  refine List.eq_nil_iff_forall_not_mem.mpr fun c hc => ?_
  simpa [isTarget, hx c hc] using hd.target c (h hc)

-- No white space stands in a target, and so none in what a target takes up of the other inclusion.
theorem eq_knot (hd : d.WellFormed) (he : e.WellFormed) (hf : e.front <:+ d.target) (hb : d.back <+: e.target) :
    e.front ++ '\'' :: d.back = knot := by
  have hbefore : e.before = [] :=
    eq_nil_of_subset_target hd he.before fun c hc => hf.subset <| by simp [front, lead, hc]
  have hafter : d.after = [] :=
    eq_nil_of_subset_target he hd.after fun c hc => hb.subset <| by simp [back, hc]
  simp only [front, lead, back, hbefore, hafter]
  decide

-- What the two share holds as many quotes seen from the one as from the other.
theorem overlap (hd : d.WellFormed) (he : e.WellFormed) (hne : d ≠ e) (hs : p <:+ d.raw) (hp : p <+: e.raw) :
    p.length ≤ marker.length ∨ p = knot := by
  have ⟨hf, ht, _⟩ := quote_not_mem hd
  have ⟨hf', _, _⟩ := quote_not_mem he
  obtain ⟨hc, hs⟩ | ⟨hc, w, hw, hpw⟩ | ⟨hc, w, hw, hpw⟩ := suffix_cases hd hs
  case inl =>
    obtain ⟨-, hp⟩ | ⟨hc', -⟩ | ⟨hc', -⟩ := prefix_cases he hp <;> try omega
    exact .inl <| length_le_of_back_of_front hd hs hp
  case inr.inl =>
    obtain ⟨hc', -⟩ | ⟨-, z, hz, hpz⟩ | ⟨hc', -⟩ := prefix_cases he hp <;> try omega
    obtain ⟨rfl, rfl⟩ := append_cons_inj (mt (hw.subset ·) ht) hf' (hpw.symm.trans hpz)
    exact .inr <| hpw.trans <| eq_knot hd he hw hz
  case inr.inr =>
    obtain ⟨hc', -⟩ | ⟨hc', -⟩ | ⟨-, z, hz, hpz⟩ := prefix_cases he hp <;> try omega
    obtain ⟨rfl, -⟩ := append_cons_inj (mt (hw.subset ·) hf) hf' (hpw.symm.trans hpz)
    have ⟨u, hu⟩ := hw
    obtain rfl := front_inj he hd hu
    obtain rfl : p = d.raw := by rw [hpw, raw_eq_quoted, ← hu, List.nil_append]
    exact absurd (eq_of_raw_within hd he hp.isInfix) hne

-- The one ends in the knot that the other starts with.
def Entangled (d e : Inclusion) : Prop :=
  knot <:+ d.raw ∧ knot <+: e.raw ∨ knot <:+ e.raw ∧ knot <+: d.raw

instance : DecidableRel Entangled :=
  fun _ _ => inferInstanceAs <| Decidable (_ ∨ _)

theorem apart (hd : d.WellFormed) (he : e.WellFormed) (hne : d ≠ e) (h : ¬ Entangled d e) :
    Apart marker.length d.raw e.raw where
  not_infix := ⟨fun hi => hne <| eq_of_raw_within hd he hi, fun hi => hne.symm <| eq_of_raw_within he hd hi⟩
  overlap _ hs hp := (overlap hd he hne hs hp).resolve_right fun hk => h <| .inl ⟨hk ▸ hs, hk ▸ hp⟩
  overlap_symm _ hs hp := (overlap he hd hne.symm hs hp).resolve_right fun hk => h <| .inr ⟨hk ▸ hs, hk ▸ hp⟩

end Inclusion

-- Whatever is written for the one text wherever it occurs, what lies between two markers stays.
def Spares (old inside : Text) : Prop :=
  ∀ new pre post, replaceAll old new (pre ++ (marker ++ inside ++ marker) ++ post) =
    replaceAll old new (pre ++ marker) ++ inside ++ replaceAll old new (marker ++ post)

-- Two directives of a kind, each of them reported of some text.
theorem literals_apart (t u : Text) :
    (∀ v ∈ Variable.recogniser.items t, ∀ w ∈ Variable.recogniser.items u,
      (∀ x y, v.raw = x ++ marker ++ y → x = [] ∨ y = []) ∧ (v.raw <:+: w.raw → v.raw = w.raw) ∧
      (v.raw ≠ w.raw → Spares v.raw w.inside)) ∧
    (∀ d ∈ Inclusion.recogniser.items t, ∀ e ∈ Inclusion.recogniser.items u,
      (d.raw <:+: e.raw → d.raw = e.raw) ∧
      (d.raw ≠ e.raw → ¬ Inclusion.Entangled d e → Spares d.raw e.inside)) := by
  constructor
  case left =>
    intro v hv w hw
    have hv := Variable.recogniser_reads.wellFormed_of_mem_items hv
    have hw := Variable.recogniser_reads.wellFormed_of_mem_items hw
    refine ⟨fun _ _ => Variable.marker_at_ends hv, fun hi => ?_, fun hne => ?_⟩
    · exact congrArg Variable.raw <| Variable.eq_of_raw_within hv hw hi
    · have ha := Variable.apart hv hw fun he => hne <| congrArg Variable.raw he
      rw [Variable.raw_eq_inside w] at ha
      exact ha.replaceAll_framed
  case right =>
    intro d hd e he
    have hd := Inclusion.recogniser_reads.wellFormed_of_mem_items hd
    have he := Inclusion.recogniser_reads.wellFormed_of_mem_items he
    refine ⟨fun hi => congrArg Inclusion.raw <| Inclusion.eq_of_raw_within hd he hi, fun hne hk => ?_⟩
    have ha := Inclusion.apart hd he (fun he => hne <| congrArg Inclusion.raw he) hk
    rw [Inclusion.raw_eq_inside e] at ha
    exact ha.replaceAll_framed

-- A default may hold a number sign and a sign of its own, and a target may hold or end in an opening.
theorem literals_apart_nearly :
    let v : Variable := ⟨' ', false, "x", some "#e@y"⟩
    let w : Variable := ⟨' ', true, "y", none⟩
    let d : Inclusion := ⟨[], "##include(", []⟩
    let e : Inclusion := ⟨[], "include(", " "⟩
    (v.raw ≠ w.raw ∧ Spares v.raw w.inside) ∧ d.raw ≠ e.raw ∧ ¬ Inclusion.Entangled d e ∧ Spares d.raw e.inside := by
  intro v w d e
  have ⟨hvar, hinc⟩ := literals_apart "## @x|#e@y##;##include('##include(')##" "## e@y##;##include('include(') ##"
  have hne : v.raw ≠ w.raw := by decide
  have hne' : d.raw ≠ e.raw := by decide
  have hk : ¬ Inclusion.Entangled d e := by decide +kernel
  have hvw := hvar v (by decide +kernel) w (by decide +kernel)
  have hde := hinc d (by decide +kernel) e (by decide +kernel)
  exact ⟨⟨hne, hvw.right.right hne⟩, hne', hk, hde.right hne' hk⟩

-- The scan reports both inclusions, the one at the start of the text and the other behind the semicolon. But what
-- follows the other one makes an occurrence of the first one out of its end.
theorem not_forall_inside_infix_replaceAll :
    ¬ ∀ t new : Text, ∀ o ∈ Inclusion.occurrences t, ∀ o' ∈ Inclusion.occurrences t,
      o.stop Inclusion.raw ≤ o'.offset → o.item.raw ≠ o'.item.raw →
        o'.item.inside <:+: replaceAll o.item.raw new t := by
  intro h
  have hd := h "##include(')##a')##;##include('b##include(')##a')##" "A" ⟨0, ⟨[], ")##a", []⟩⟩ (by decide +kernel)
  have hde := hd ⟨20, ⟨[], "b##include(", []⟩⟩ (by decide +kernel) (by decide) (by decide)
  exact absurd hde (by decide +kernel)

-- Directives that read alike in their texts are the same, and so nothing is lost when of those only the first one
-- is kept.
theorem eq_of_alike (t u : Text) :
    (∀ o ∈ Variable.occurrences t, ∀ o' ∈ Variable.occurrences u,
      o.taken Variable.raw t = o'.taken Variable.raw u →
        o.item.name = o'.item.name ∧ o.item.fallback = o'.item.fallback ∧ o.item.escaped = o'.item.escaped ∧
        o.item.raw = o.taken Variable.raw t ∧ Variable.occurrences (o.taken Variable.raw t) = [⟨0, o.item⟩]) ∧
    (∀ o ∈ Inclusion.occurrences t, ∀ o' ∈ Inclusion.occurrences u,
      o.taken Inclusion.raw t = o'.taken Inclusion.raw u →
        o.item.target = o'.item.target ∧
        o.item.raw = o.taken Inclusion.raw t ∧ Inclusion.occurrences (o.taken Inclusion.raw t) = [⟨0, o.item⟩]) ∧
    (∀ v, v ∈ Variable.distinct t ↔ ∃ o ∈ Variable.occurrences t, o.item = v) ∧
    (∀ d, d ∈ Inclusion.distinct t ↔ ∃ o ∈ Inclusion.occurrences t, o.item = d) := by
  refine ⟨fun o ho o' ho' h => ?_, fun o ho o' ho' h => ?_, fun v => ?_, fun d => ?_⟩
  · have hr := Variable.recogniser_reads
    have he := hr.eq_of_taken_eq ho ho' h
    exact ⟨he ▸ rfl, he ▸ rfl, he ▸ rfl, (hr.lawful.taken_eq ho).symm, hr.occurrences_taken ho⟩
  · have hr := Inclusion.recogniser_reads
    have he := hr.eq_of_taken_eq ho ho' h
    exact ⟨he ▸ rfl, (hr.lawful.taken_eq ho).symm, hr.occurrences_taken ho⟩
  · exact Variable.mem_distinct.trans Recogniser.mem_items_iff
  · exact Inclusion.mem_distinct.trans Recogniser.mem_items_iff

-- The number signs around a variable are not part of it, and neither is an opening before an inclusion.
theorem eq_of_alike_around :
    let t : Text := "### @x |a####include('b)##include('##a')## ##"
    let u : Text := "## @x |a##b##include('##a')##"
    (⟨1, ⟨' ', false, "x ", some "a"⟩⟩ ∈ Variable.occurrences t ∧
      ⟨0, ⟨' ', false, "x ", some "a"⟩⟩ ∈ Variable.occurrences u ∧
      Variable.occurrences "## @x |a##" = [⟨0, ⟨' ', false, "x ", some "a"⟩⟩]) ∧
    ⟨24, ⟨[], "##a", []⟩⟩ ∈ Inclusion.occurrences t ∧ ⟨11, ⟨[], "##a", []⟩⟩ ∈ Inclusion.occurrences u ∧
      Inclusion.occurrences "##include('##a')##" = [⟨0, ⟨[], "##a", []⟩⟩] := by
  intro t u
  obtain ⟨hvar, hinc, -⟩ := eq_of_alike t u
  have hv : ⟨1, ⟨' ', false, "x ", some "a"⟩⟩ ∈ Variable.occurrences t := by decide +kernel
  have hv' : ⟨0, ⟨' ', false, "x ", some "a"⟩⟩ ∈ Variable.occurrences u := by decide +kernel
  have hd : ⟨24, ⟨[], "##a", []⟩⟩ ∈ Inclusion.occurrences t := by decide +kernel
  have hd' : ⟨11, ⟨[], "##a", []⟩⟩ ∈ Inclusion.occurrences u := by decide +kernel
  have hvar := hvar _ hv _ hv' (by decide +kernel)
  have hinc := hinc _ hd _ hd' (by decide +kernel)
  exact ⟨⟨hv, hv', hvar.right.right.right.right⟩, hd, hd', hinc.right.right⟩

-- A directive that the first text leaves unfinished would have to start behind the last report.
theorem occurrences_append_shift (s t : Text) :
    ('#' ∉ Inclusion.recogniser.rest s → Inclusion.occurrences (s ++ t) =
      Inclusion.occurrences s ++ (Inclusion.occurrences t).map (Occurrence.shift s.byteLength)) ∧
    ('#' ∉ Variable.recogniser.rest s → Variable.occurrences (s ++ t) =
      Variable.occurrences s ++ (Variable.occurrences t).map (Occurrence.shift s.byteLength)) where
  left hs := by
    have hsign (d : Inclusion) : d.raw.head? = some '#' := by simp [Inclusion.raw, marker_eq]
    exact Inclusion.recogniser_reads.occurrences_append hsign (fun _ _ => Inclusion.eq_of_raw_within) hs t
  right hs := by
    have hsign (v : Variable) : v.raw.head? = some '#' := by simp [Variable.raw, marker_eq]
    exact Variable.recogniser_reads.occurrences_append hsign (fun _ _ => Variable.eq_of_raw_within) hs t

-- The second text starts with what seems to end the directive that the first text starts with.
theorem occurrences_append_shift_broken :
    let s : Text := "##include('##include('a')##;"
    let t : Text := "')##include('b')##"
    let s' : Text := "## @x|a|## @b ##;"
    let t' : Text := "## e@c|d ##"
    ('#' ∉ Inclusion.recogniser.rest s ∧
      Inclusion.occurrences (s ++ t) = [⟨11, ⟨[], "a", []⟩⟩, ⟨30, ⟨[], "b", []⟩⟩]) ∧
    '#' ∉ Variable.recogniser.rest s' ∧
      Variable.occurrences (s' ++ t') = [⟨8, ⟨' ', false, "b ", none⟩⟩, ⟨17, ⟨' ', true, "c", some "d "⟩⟩] := by
  intro s t s' t'
  have hs : '#' ∉ Inclusion.recogniser.rest s := by decide +kernel
  have hs' : '#' ∉ Variable.recogniser.rest s' := by decide +kernel
  have hd := (occurrences_append_shift s t).left hs
  have hv := (occurrences_append_shift s' t').right hs'
  exact ⟨⟨hs, hd.trans (by decide +kernel)⟩, hs', hv.trans (by decide +kernel)⟩

end Stencil.Directive
