import Stencil.Proofs.View.Graph

/-!
The text that a view stands for when every inclusion is written once, at its own offset
(`Site.Inlines`). An expansion replaces the inclusions of a file one after the other in a buffer that
already holds the texts of partials. In sealed files, and so in tidy ones, that is the same, since no text
that goes in can take part in an inclusion other than those of missing partials.
-/
namespace Stencil.View.Site

open Directive Text

variable {s : Site} {limit left : Nat} {above : List Path} {path target : Path} {t out : Text}

inductive Inlines (s : Site) : Path → Text → Prop
  | file {path : Path} {t : Text} {body : Inclusion → Text} :
    s.read path = .ok (some t) →
    (∀ d ∈ Inclusion.recogniser.items t, s.tree.isFile (s.partialPath d) →
      Inlines s (s.partialPath d) (body d)) →
    (∀ d ∈ Inclusion.recogniser.items t, s.tree.isFile (s.partialPath d) = false → body d = d.raw) →
    Inlines s path (Inclusion.recogniser.rewrite body t)

theorem Inlines.unique {u v : Text} (hu : s.Inlines path u) (hv : s.Inlines path v) : u = v := by
  induction hu generalizing v
  case file t body hr _ hm hi =>
    obtain @⟨_, t', body', hr', hf', hm'⟩ := hv
    obtain rfl : t = t' := by simpa [hr] using hr'
    refine Inclusion.recogniser_reads.lawful.rewrite_congr fun d hd => ?_
    cases hf : s.tree.isFile (s.partialPath d)
    case false => rw [hm d hd hf, hm' d hd hf]
    case true => exact hi d hd hf <| hf' d hd hf

-- Pieces of the inlining of a view. Among them only inclusions of missing partials are left, so the
-- pieces may go into other files as they are.
structure Inlining (s : Site) (path : Path) (ps : List (Piece Inclusion)) : Prop where
  closed : ∀ p ∈ ps, Inclusion.anchor.Closed p
  missing : ∀ d, .item d ∈ ps → s.tree.isFile (s.partialPath d) = false
  inlines : s.Inlines path (Piece.join Inclusion.raw ps)

-- The pieces to put in the place of an inclusion, if there are any.
def bodyPieces? (s : Site) (body : Inclusion → List (Piece Inclusion)) (d : Inclusion) :
    Option (List (Piece Inclusion)) :=
  if s.tree.isFile (s.partialPath d) then some (body d) else none

section File

variable {body : Inclusion → List (Piece Inclusion)}

theorem bodyPieces?_eq_some_iff {ps : List (Piece Inclusion)} {d : Inclusion} :
    s.bodyPieces? body d = some ps ↔ s.tree.isFile (s.partialPath d) ∧ body d = ps := by
  simp [bodyPieces?]

theorem bodyPieces?_eq_none_iff {d : Inclusion} :
    s.bodyPieces? body d = none ↔ s.tree.isFile (s.partialPath d) = false := by
  simp [bodyPieces?]

theorem Inlining.expand (hr : s.read path = .ok (some t)) (ht : Inclusion.anchor.Sealed t)
    (hb : ∀ d ∈ Inclusion.recogniser.items t, s.tree.isFile (s.partialPath d) →
      s.Inlining (s.partialPath d) (body d)) :
    s.Inlining path ((Inclusion.recogniser.pieces t).flatMap (Piece.expand <| s.bodyPieces? body)) := by
  have hitem d : .item d ∈ Inclusion.recogniser.pieces t ↔ d ∈ Inclusion.recogniser.items t :=
    Inclusion.recogniser_reads.lawful.item_mem_pieces
  constructor
  case closed =>
    intro p hp
    obtain ⟨hp, -⟩ | ⟨d, ps, hd, hs, hp⟩ := Piece.mem_flatMap_expand hp
    · exact ht p hp
    · obtain ⟨hf, rfl⟩ := bodyPieces?_eq_some_iff.mp hs
      exact hb d ((hitem d).mp hd) hf |>.closed p hp
  case missing =>
    intro e he
    obtain ⟨-, hn⟩ | ⟨d, ps, hd, hs, hp⟩ := Piece.mem_flatMap_expand he
    · exact bodyPieces?_eq_none_iff.mp <| hn e rfl
    · obtain ⟨hf, rfl⟩ := bodyPieces?_eq_some_iff.mp hs
      exact hb d ((hitem d).mp hd) hf |>.missing e hp
  case inlines =>
    rw [Piece.join_flatMap_expand]
    refine .file hr (fun d hd hf => ?_) fun d hd hf => ?_
    · rw [bodyPieces?_eq_some_iff.mpr ⟨hf, rfl⟩]
      exact (hb d hd hf).inlines
    · rw [bodyPieces?_eq_none_iff.mpr hf]
      rfl

-- The buffer of the expansion is made of closed pieces at every step.
theorem replaceInTurn_eq_join_expand (ht : Inclusion.anchor.Sealed t)
    (hb : ∀ d ∈ Inclusion.recogniser.items t, s.tree.isFile (s.partialPath d) →
      s.Inlining (s.partialPath d) (body d)) :
    replaceInTurn Inclusion.raw (fun d => (s.bodyPieces? body d).map (Piece.join Inclusion.raw)) t
        (Inclusion.distinct t) =
      Piece.join Inclusion.raw
        ((Inclusion.recogniser.pieces t).flatMap (Piece.expand <| s.bodyPieces? body)) := by
  have hitem d : .item d ∈ Inclusion.recogniser.pieces t ↔ d ∈ Inclusion.distinct t :=
    Inclusion.recogniser_reads.lawful.item_mem_pieces.trans Inclusion.mem_distinct.symm
  have hbody : ∀ d ∈ Inclusion.distinct t, ∀ ps, s.bodyPieces? body d = some ps →
      s.Inlining (s.partialPath d) ps := by
    intro d hd ps hs
    obtain ⟨hf, rfl⟩ := bodyPieces?_eq_some_iff.mp hs
    exact hb d (Inclusion.mem_distinct.mp hd) hf
  have hj : Piece.join Inclusion.raw (Inclusion.recogniser.pieces t) = t :=
    Inclusion.recogniser_reads.lawful.join_pieces t
  have h := replaceInTurn_join Inclusion.anchor.Closed Inclusion.raw_ne_nil
    (fun d _ hd hps => Inclusion.anchor.onlyAt hps <| hd.wellFormed d rfl) (s.bodyPieces? body)
    (Inclusion.distinct t) (Inclusion.recogniser.pieces t)
  rw [hj] at h
  refine h ?hitems ?hbody ?settled ht ?covered
  case hitems => exact fun d hd => ht _ <| (hitem d).mpr hd
  case hbody => exact fun d hd ps hs => (hbody d hd ps hs).closed
  case settled => exact fun d hd ps hs e he => bodyPieces?_eq_none_iff.mpr <| (hbody d hd ps hs).missing e he
  case covered => exact fun d hd _ => (hitem d).mp hd

end File

-- The induction is on the number of inclusions that are still allowed; the chain plays no part in it.
theorem exists_inlining_of_sealed
    (ht : ∀ p t, s.Reaches path p → s.read p = .ok (some t) → Inclusion.anchor.Sealed t)
    (h : (s.expandBelow limit left above path).result = .ok (some out)) :
    ∃ ps, s.Inlining path ps ∧ Piece.join Inclusion.raw ps = out := by
  induction left using Nat.strongRecOn generalizing above path out
  case ind left hi =>
    obtain ⟨t, body?, hr, hs, rfl⟩ := expandBelow_eq_ok_some_iff.mp h
    have hb : ∀ d ∈ Inclusion.recogniser.items t, s.tree.isFile (s.partialPath d) →
        ∃ ps, s.Inlining (s.partialPath d) ps ∧ body? d = some (Piece.join Inclusion.raw ps) := by
      intro d hd hf
      obtain ⟨left, body, rfl, hb, -, h⟩ := (settles_iff_of_isFile hf).mp (hs d hd)
      have hp : s.Includes path (s.partialPath d) := ⟨t, hr, d, hd, rfl, hf⟩
      obtain ⟨ps, hps, rfl⟩ := hi left (Nat.lt_succ_self left) (fun p t hq => ht p t <| .head hp hq) h
      exact ⟨ps, hps, hb⟩
    -- From here on the partials are given by their pieces.
    choose! body hb using hb
    have hbody : ∀ d ∈ Inclusion.recogniser.items t, s.tree.isFile (s.partialPath d) →
        s.Inlining (s.partialPath d) (body d) := fun d hd hf => (hb d hd hf).left
    have hsealed := ht path t .refl hr
    refine ⟨_, .expand hr hsealed hbody, ?_⟩
    rw [← replaceInTurn_eq_join_expand hsealed hbody]
    refine replaceInTurn_congr fun d hd => ?_
    replace hd := Inclusion.mem_distinct.mp hd
    cases hf : s.tree.isFile (s.partialPath d)
    case false =>
      have hn := (settles_iff_of_not_isFile hf).mp (hs d hd)
      rw [bodyPieces?_eq_none_iff.mpr hf, hn, Option.map_none]
    case true => rw [bodyPieces?_eq_some_iff.mpr ⟨hf, rfl⟩, (hb d hd hf).right, Option.map_some]

theorem exists_inlining_of_expandBelow_eq_ok
    (ht : ∀ p t, s.Reaches path p → s.read p = .ok (some t) → Inclusion.Tidy t)
    (h : (s.expandBelow limit left above path).result = .ok (some out)) :
    ∃ ps, s.Inlining path ps ∧ Piece.join Inclusion.raw ps = out :=
  exists_inlining_of_sealed (fun p t hp hr => (ht p t hp hr).sealed) h

theorem inlines_iff_of_expand_eq_ok (h : (s.expand limit path).result = .ok (some out))
    (ht : ∀ p t, s.Reaches path p → s.read p = .ok (some t) → Inclusion.Tidy t) :
    s.Inlines path t ↔ t = out := by
  obtain ⟨ps, hp, rfl⟩ := exists_inlining_of_expandBelow_eq_ok ht h
  exact ⟨fun ht => ht.unique hp.inlines, fun ht => ht ▸ hp.inlines⟩

-- A missing partial is named by the file itself and by a partial of it.
theorem inlines_iff_of_expand_eq_ok_missing :
    ((ofFiles [("a", "## include('b') #### include('c') ##;## include('b') ##"),
      ("b", "<p>## include('c') ##")]).expand 1 ⟨"a"⟩).result =
        .ok (some "<p>## include('c') #### include('c') ##;<p>## include('c') ##".toList) ∧
    (ofFiles [("a", "## include('b') #### include('c') ##;## include('b') ##"),
      ("b", "<p>## include('c') ##")]).Inlines ⟨"a"⟩
        "<p>## include('c') #### include('c') ##;<p>## include('c') ##" := by
  let a : Path × Text := (⟨"a"⟩, "## include('b') #### include('c') ##;## include('b') ##")
  let b : Path × Text := (⟨"b"⟩, "<p>## include('c') ##")
  have hx : ((ofFiles [("a", a.snd), ("b", b.snd)]).expand 1 ⟨"a"⟩).result =
      .ok (some "<p>## include('c') #### include('c') ##;<p>## include('c') ##".toList) := by
    decide +kernel
  have htable : (ofFiles [("a", a.snd), ("b", b.snd)]).Table [a, b] :=
    ⟨by decide +kernel, by decide +kernel⟩
  have htidy : ∀ e ∈ [a, b], Inclusion.Tidy e.snd := by
    decide +kernel
  refine ⟨hx, (inlines_iff_of_expand_eq_ok hx fun p t hp hr => ?_).mpr rfl⟩
  obtain ⟨e, he, rfl⟩ := htable.exists_of_reaches (e := a) (by simp) hp
  obtain rfl : e.snd = t := by simpa using (htable.read e he).symm.trans hr
  exact htidy e he

end Stencil.View.Site
