import Stencil.Directive.Variable
import Stencil.Proofs.Directive.Inclusion
import Stencil.Proofs.Text.Closed

/-!
The recogniser of variables accepts the written forms of well-formed variables and nothing else, so a
variable is determined by its text.
-/
namespace Stencil.Directive.Variable

open Text

variable {v w : Variable} {t f rest : Text}

theorem alternativeAt?_append (hb : '|' ∉ f) (hm : ¬ marker <:+: f ++ ['#']) (rest : Text) :
    alternativeAt? (f ++ (marker ++ rest)) = some (f, marker ++ rest) := by
  induction f
  case nil => simp [marker_eq, alternativeAt?]
  case cons c f hi =>
    have ⟨hc, hb⟩ : c ≠ '|' ∧ '|' ∉ f := by simpa [eq_comm] using hb
    rw [List.cons_append, List.infix_cons_iff, not_or] at hm
    -- A marker at the front would have to reach into the one that ends the text.
    have hs : ∀ u, c = '#' → f ++ (marker ++ rest) = '#' :: u → False := by
      rintro u rfl hu
      refine hm.left ?_
      cases f <;> simp_all [marker_eq]
    rw [List.cons_append, alternativeAt?.eq_3 _ _ hs, if_neg hc, hi hb hm.right]
    rfl

theorem of_alternativeAt? (h : alternativeAt? t = some (f, rest)) :
    t = f ++ rest ∧ marker <+: rest ∧ '|' ∉ f ∧ ¬ marker <:+: f ++ ['#'] := by
  fun_induction alternativeAt? t generalizing f
  case case1 t =>
    obtain ⟨rfl, rfl⟩ : [] = f ∧ '#' :: '#' :: t = rest := by simpa using h
    refine ⟨rfl, ⟨t, by simp [marker_eq]⟩, by simp, fun h => ?_⟩
    simpa [marker_eq] using h.length_le
  case case2 => simp at h
  case case3 => simp at h
  case case4 c t hs hc hi =>
    obtain ⟨⟨g, r⟩, hg, he⟩ := Option.map_eq_some_iff.mp h
    obtain ⟨rfl, rfl⟩ : c :: g = f ∧ r = rest := by simpa using he
    have ⟨ht, ⟨u, hu⟩, hb, hm⟩ := hi hg
    refine ⟨by simp [ht], ⟨u, hu⟩, by simp [hb, Ne.symm hc], ?_⟩
    rw [List.cons_append, List.infix_cons_iff, not_or]
    refine ⟨fun hp => ?_, hm⟩
    rw [marker_eq, List.cons_prefix_cons] at hp
    have hc := hp.left.symm
    cases g
    case nil => exact hs ('#' :: u) hc (by simp [ht, ← hu, marker_eq])
    case cons y g =>
      obtain rfl : '#' = y := by simpa using hp.right
      exact hs (g ++ r) hc (by simp [ht])

theorem raw_ne_nil (v : Variable) : v.raw ≠ [] := by
  simp [raw, marker_eq]

theorem atStart?_raw_append (h : v.WellFormed) (rest : Text) : atStart? (v.raw ++ rest) = some v := by
  obtain ⟨gap, escaped, label, alternative?⟩ := v
  have hg : guard (isSpace gap) = some () := (Option.guard_eq_some' _).mpr h.gap
  have hn : guard (label ≠ []) = some () := (Option.guard_eq_some' _).mpr h.label_ne_nil
  cases alternative?
  case none =>
    have ht : (label ++ (marker ++ rest)).takeWhile isLabel = label :=
      takeWhile_append_cons h.label (by decide)
    have hd : (label ++ (marker ++ rest)).dropWhile isLabel = '#' :: '#' :: rest :=
      dropWhile_append_cons h.label (by decide)
    have hm : List.isPrefixOf? marker ('#' :: '#' :: rest) = some rest := isPrefixOf?_append marker rest
    cases escaped <;> simp [atStart?, raw, bar, hg, hn, ht, hd, hm, -List.takeWhile_eq_nil_iff]
  case some f =>
    have ht : (label ++ '|' :: (f ++ (marker ++ rest))).takeWhile isLabel = label :=
      takeWhile_append_cons h.label (by decide)
    have hd : (label ++ '|' :: (f ++ (marker ++ rest))).dropWhile isLabel = '|' :: (f ++ (marker ++ rest)) :=
      dropWhile_append_cons h.label (by decide)
    have ha := alternativeAt?_append (h.alternative_bar f rfl) (h.alternative_marker f rfl) rest
    cases escaped <;> simp [atStart?, raw, bar, hg, hn, ht, hd, ha, -List.takeWhile_eq_nil_iff]

theorem eq_sign_append {u l : Text} (h : (if u.head? = some 'e' then u.tail else u) = '@' :: l) :
    u = (if u.head? = some 'e' then ['e', '@'] else ['@']) ++ l := by
  split at h <;> cases u <;> simp_all

theorem of_atStart? (h : atStart? t = some v) : v.WellFormed ∧ v.raw <+: t := by
  simp only [atStart?, Option.bind_eq_bind, Option.bind_eq_some_iff, Option.pure_def,
    List.isPrefixOf?_eq_some_iff_append_eq] at h
  obtain ⟨u, rfl, h⟩ := h
  cases u
  case nil => simp at h
  case cons gap u =>
    obtain ⟨_, hg, h⟩ := Option.bind_eq_some_iff.mp h
    split at h
    case h_2 => simp at h
    case h_1 l hu =>
      obtain ⟨_, hn, h⟩ := Option.bind_eq_some_iff.mp h
      replace hg := (Option.guard_eq_some' _).mp hg
      replace hn := (Option.guard_eq_some' _).mp hn
      have hl := l.takeWhile_append_dropWhile (p := isLabel)
      replace hu := eq_sign_append hu
      split at h
      case h_1 a ha =>
        obtain ⟨⟨f, r⟩, hf, he⟩ := Option.bind_eq_some_iff.mp h
        obtain ⟨rfl, ⟨x, rfl⟩, hb, hm⟩ := of_alternativeAt? hf
        obtain rfl := Option.some.inj he
        refine ⟨⟨hg, hn, fun _ => List.mem_takeWhile_imp, by simpa using hb, by simpa using hm⟩, x, ?_⟩
        rw [ha] at hl
        simp [raw, bar, hl, ← hu]
      case h_2 =>
        obtain ⟨x, hx, he⟩ := Option.bind_eq_some_iff.mp h
        obtain rfl := Option.some.inj he
        refine ⟨⟨hg, hn, fun _ => List.mem_takeWhile_imp, by simp, by simp⟩, x, ?_⟩
        rw [← List.isPrefixOf?_eq_some_iff_append_eq.mp hx] at hl
        simp [raw, bar, hl, ← hu]

theorem recogniser_reads : recogniser.Reads WellFormed where
  atStart?_iff := ⟨of_atStart?, fun ⟨h, _, he⟩ => he ▸ atStart?_raw_append h _⟩
  raw_ne_nil := raw_ne_nil

theorem mem_distinct : v ∈ distinct t ↔ v ∈ recogniser.items t :=
  recogniser_reads.mem_distinctBy_raw

-- What comes before the at sign.
def head (v : Variable) : Text :=
  marker ++ v.gap :: if v.escaped then ['e'] else []

-- What comes after the at sign.
def tail (v : Variable) : Text :=
  v.label ++ bar v.alternative? ++ marker

theorem raw_eq (v : Variable) : v.raw = v.head ++ '@' :: v.tail := by
  cases he : v.escaped <;> simp [raw, head, tail, he]

theorem not_mem_head (h : v.WellFormed) {c : Char} (hc : c ∈ ['@', '|']) : c ∉ v.head := by
  have hg := h.gap
  intro hm
  simp at hc
  cases he : v.escaped <;> rcases hc with rfl | rfl <;> simp [head, marker_eq, he] at hm <;>
    simp [← hm] at hg <;> revert hg <;> decide

theorem sign_not_mem_label (h : v.WellFormed) : '@' ∉ v.label :=
  fun hm => absurd (h.label _ hm) (by decide)

-- An at sign after the first one stands in the alternative.
theorem exists_bar_of_tail_eq (h : v.WellFormed) {x y : Text} (he : v.tail = x ++ '@' :: y) :
    ∃ z f, x = z ++ '|' :: f ∧ ¬ marker <:+: f := by
  have hl := sign_not_mem_label h
  cases ha : v.alternative?
  case none =>
    have hm : '@' ∈ v.tail := by simp [he]
    exact absurd hm (by simp [tail, ha, bar, marker_eq, hl])
  case some f =>
    rw [tail, ha, bar, List.append_assoc, List.cons_append, List.append_eq_append_iff] at he
    obtain ⟨_ | ⟨_, g⟩, rfl, hr⟩ | ⟨_ | ⟨_, _⟩, hx, hy⟩ := he
    · simp at hr
    · obtain ⟨rfl, hg⟩ : '|' = _ ∧ f ++ marker = g ++ '@' :: y := by simpa using hr
      refine ⟨v.label, g, rfl, fun hm => h.alternative_marker f ha ?_⟩
      obtain ⟨_, -, hu⟩ | ⟨u, rfl, -⟩ := List.append_eq_append_iff.mp hg
      · have hm : '@' ∈ marker := by simp [hu]
        exact absurd hm (by simp [marker_eq])
      · rw [List.append_assoc]
        exact hm.trans (List.infix_append [] ..)
    · simp at hy
    · obtain ⟨rfl, -⟩ : '@' = _ ∧ _ := by simpa using hy
      exact absurd (by simp [hx]) hl

theorem eq_head_or_exists_bar (h : v.WellFormed) {x y : Text} (he : v.raw = x ++ '@' :: y) :
    x = v.head ∨ ∃ z f, x = z ++ '|' :: f ∧ ¬ marker <:+: f := by
  rw [raw_eq, List.append_eq_append_iff] at he
  obtain ⟨_ | ⟨_, u⟩, rfl, hu⟩ | ⟨_ | ⟨_, _⟩, hx, hy⟩ := he
  · exact .inl (by simp)
  · obtain ⟨rfl, ht⟩ : '@' = _ ∧ v.tail = u ++ '@' :: y := by simpa using hu
    have ⟨z, f, hz, hf⟩ := exists_bar_of_tail_eq h ht
    exact .inr ⟨v.head ++ '@' :: z, f, by simp [hz], hf⟩
  · exact .inl (by simpa using hx.symm)
  · obtain ⟨rfl, -⟩ : '@' = _ ∧ _ := by simpa using hy
    exact absurd (by simp [hx]) (not_mem_head h (c := '@') (by simp))

-- The last character of a head tells whether it is one of an escaped variable.
theorem escaped_iff_getLast? (h : v.WellFormed) (x : Text) :
    v.escaped ↔ (x ++ v.head).getLast? = some 'e' := by
  have hg : v.gap ≠ 'e' := fun he => absurd h.gap (by simp [he]; decide)
  cases he : v.escaped <;> simp [head, he, hg]

theorem head_inj (hv : v.WellFormed) (hw : w.WellFormed) {x y : Text}
    (h : x ++ v.head = y ++ w.head) : x = y := by
  have he : v.escaped = w.escaped := by
    rw [Bool.eq_iff_iff, escaped_iff_getLast? hv x, escaped_iff_getLast? hw y, h]
  refine (List.append_inj' h ?_).left
  cases hw : w.escaped <;> simp [head, he, hw]

-- Before an at sign in the alternative of a variable no other variable can have started.
theorem not_append_head_eq (h : v.WellFormed) {x y f : Text} (hf : ¬ marker <:+: f) :
    x ++ v.head ≠ y ++ '|' :: f := by
  intro he
  obtain ⟨u, -, hu⟩ | ⟨_ | ⟨_, u⟩, -, hu⟩ := List.append_eq_append_iff.mp he
  · exact not_mem_head h (c := '|') (by simp) (by simp [hu])
  · have hu : '|' :: f = v.head := hu
    exact not_mem_head h (c := '|') (by simp) (by simp [← hu])
  · obtain ⟨rfl, rfl⟩ : '|' = _ ∧ f = u ++ v.head := by simpa using hu
    exact hf ⟨u, v.gap :: if v.escaped then ['e'] else [], by simp [head]⟩

def anchor : recogniser.Anchor WellFormed where
  sign := '@'
  before := head
  after := tail
  raw_eq := raw_eq
  reads := recogniser_reads

-- Another at sign within a variable stands in the alternative.
theorem closed_item (hw : w.WellFormed) : anchor.Closed (.item w) := by
  refine anchor.closed_item hw fun {v x y left pre} hv hp hl => ?_
  obtain rfl | ⟨z, f, rfl, hf⟩ := eq_head_or_exists_bar hw hp
  · exact head_inj hw hv hl
  · rw [← List.append_assoc] at hl
    exact absurd hl.symm (not_append_head_eq hv hf)

-- What a variable can have before its at sign.
def heads : List Text :=
  [' ', '\t', '\n', '\x0b', '\x0c', '\r'].flatMap fun c => [marker ++ [c], marker ++ [c, 'e']]

theorem head_mem_heads (h : v.WellFormed) : v.head ∈ heads := by
  have hg : v.gap ∈ [' ', '\t', '\n', '\x0b', '\x0c', '\r'] := by
    have hg := h.gap
    simp only [isSpace, Bool.or_eq_true, decide_eq_true_eq] at hg
    simp only [List.mem_cons, List.not_mem_nil, or_false]
    tauto
  refine List.mem_flatMap.mpr ⟨v.gap, hg, ?_⟩
  cases he : v.escaped <;> simp [head, he]

-- Before each at sign there is something else than any variable has there.
def Guarded (g : Text) : Prop :=
  ∀ u ∈ g.inits, u ++ ['@'] <+: g → ∀ h ∈ heads, ¬ u <:+ h ∧ ¬ h <:+ u

instance : DecidablePred Guarded :=
  fun g => inferInstanceAs <|
    Decidable (∀ u ∈ g.inits, u ++ ['@'] <+: g → ∀ h ∈ heads, ¬ u <:+ h ∧ ¬ h <:+ u)

theorem Guarded.closed {g : Text} (h : Guarded g) : anchor.Closed (.gap g) where
  wellFormed _ he := nomatch he
  sign {v x y left right pre post} hv hp hl _ := by
    obtain rfl : g = x ++ '@' :: y := hp
    have hx : x ++ ['@'] <+: x ++ '@' :: y := ⟨y, by simp⟩
    have hi : x ∈ (x ++ '@' :: y).inits := (List.mem_inits ..).mpr <| List.prefix_append ..
    have ⟨hs, hs'⟩ := h x hi hx v.head <| head_mem_heads hv
    have hc := List.suffix_or_suffix_of_suffix (List.suffix_append left x) ⟨pre, hl.symm⟩
    exact absurd hc <| not_or.mpr ⟨hs, hs'⟩

theorem sealed_of_gaps (h : ∀ g ∈ recogniser.gaps t, anchor.Closed (.gap g)) : anchor.Sealed t
  | .gap g, hp => h g <| Recogniser.mem_gaps.mpr hp
  | .item _, hp =>
    closed_item <| recogniser_reads.wellFormed_of_mem_items <| recogniser_reads.lawful.item_mem_pieces.mp hp

-- Pieces that hold no at sign outside of variables.
def Tame : Piece Variable → Prop
  | .gap g => '@' ∉ g
  | .item v => v.WellFormed

theorem closed_of_tame : {p : Piece Variable} → Tame p → anchor.Closed p
  | .gap _, h => anchor.closed_gap_of_not_mem h
  | .item _, h => closed_item h

end Stencil.Directive.Variable
