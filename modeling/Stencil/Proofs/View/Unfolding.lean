import Mathlib.Algebra.BigOperators.Group.List.Basic
import Stencil.Proofs.Text.Distinct
import Stencil.Proofs.View.Graph

/-!
The files that an expansion visits. A file is visited once for every way that leads to it, and of the
inclusions of a text that read alike only one is followed (`Site.Unfolds`). An expansion that gets to its end
has noted down every visit but that of the view itself, and for every visit the inclusions that lead nowhere
(`Site.exists_unfolds_of_expandBelow_eq_ok`).
-/
namespace Stencil

theorem Journal.count_flatMap {α : Type} (c : Counter) (f : α → Journal) (items : List α) :
    Journal.count c (items.flatMap f) = (items.map fun a => Journal.count c (f a)).sum :=
  List.countP_flatMap

namespace View

open Directive Text

theorem fill_journal {partialText : Inclusion → Recorded Error (Option Text)} {body? : Inclusion → Option Text}
    {ds : List Inclusion} {t : Text} (h : ∀ d ∈ ds, (partialText d).result = .ok (body? d)) :
    (fill partialText t ds).journal = ds.flatMap fun d => (partialText d).journal := by
  induction ds generalizing t
  case nil => rfl
  case cons d ds hi =>
    have ⟨hd, hs⟩ := List.forall_mem_cons.mp h
    rw [fill_cons, Recorded.bind_of_ok hd, hi hs, List.flatMap_cons]

namespace Site

variable {s : Site} {limit left : Nat} {path : Path} {above chain : List Path} {t out : Text} {d : Inclusion}
variable {visits visits' : List (Path × Text)}

-- The inclusions of a text that are followed, and those that lead nowhere.
def present (s : Site) (t : Text) : List Inclusion :=
  (Inclusion.distinct t).filter fun d => s.tree.isFile (s.partialPath d)

def absent (s : Site) (t : Text) : List Inclusion :=
  (Inclusion.distinct t).filter fun d => !s.tree.isFile (s.partialPath d)

theorem mem_present : d ∈ s.present t ↔ d ∈ Inclusion.recogniser.items t ∧ s.tree.isFile (s.partialPath d) := by
  rw [present, List.mem_filter, Inclusion.mem_distinct]

theorem isFile_of_mem_absent (h : d ∈ s.absent t) : s.tree.isFile (s.partialPath d) = false := by
  simpa using (List.mem_filter.mp h).right

theorem length_absent (s : Site) (t : Text) : (s.absent t).length =
    {raw | ∃ d ∈ Inclusion.recogniser.items t, d.raw = raw ∧ s.tree.isFile (s.partialPath d) = false}.ncard := by
  have h := Inclusion.recogniser_reads.countP_distinctBy_raw (fun d => !s.tree.isFile (s.partialPath d)) t
  simp only [Bool.not_eq_true'] at h
  rw [absent, ← List.countP_eq_length_filter]
  exact h

-- All visits below a view, that of the view itself first.
inductive Unfolds (s : Site) : Path → List (Path × Text) → Prop
  | visit {path : Path} {t : Text} {below : Inclusion → List (Path × Text)} :
    s.read path = .ok (some t) → (∀ d ∈ s.present t, Unfolds s (s.partialPath d) (below d)) →
    Unfolds s path ((path, t) :: (s.present t).flatMap below)

theorem Unfolds.unique (h : s.Unfolds path visits) (h' : s.Unfolds path visits') : visits = visits' := by
  induction h generalizing visits'
  case visit t below hr _ hi =>
    obtain @⟨_, t', below', hr', hb'⟩ := h'
    obtain rfl : t = t' := by simpa [hr] using hr'
    have hb : ∀ d ∈ s.present t, below d = below' d := fun d hd => hi d hd <| hb' d hd
    rw [List.flatMap_congr hb]

theorem partialText_journal_of_not_isFile {descend : Descent} (hf : s.tree.isFile (s.partialPath d) = false) :
    (s.partialText descend chain d).journal = [.partialMissing d.target (s.partialPath d)] := by
  simp [Site.partialText, hf]

theorem partialText_journal_of_isFile {body : Text} (hf : s.tree.isFile (s.partialPath d))
    (hc : chain.any (·.same <| s.partialPath d) = false)
    (hb : (s.expandBelow limit left chain (s.partialPath d)).result = .ok (some body)) :
    (s.partialText (s.descent limit (left + 1)) chain d).journal =
      (s.expandBelow limit left chain (s.partialPath d)).journal ++ [.partialIncluded] := by
  simp [Site.partialText, hf, hc, descent, Recorded.bind_of_ok hb]

theorem expandBelow_journal {body? : Inclusion → Option Text} (hr : s.read path = .ok (some t))
    (hs : ∀ d ∈ Inclusion.recogniser.items t, s.Settles limit left (above ++ [path]) d (body? d)) :
    (s.expandBelow limit left above path).journal = (Inclusion.distinct t).flatMap fun d =>
      (s.partialText (s.descent limit left) (above ++ [path]) d).journal := by
  have hd : ∀ d ∈ Inclusion.distinct t,
      (s.partialText (s.descent limit left) (above ++ [path]) d).result = .ok (body? d) :=
    fun d hd => partialText_eq_ok_iff.mpr <| hs d <| Inclusion.mem_distinct.mp hd
  rw [expandBelow_eq, expandFile, hr, Recorded.ofExcept_ok_bind]
  simp only [Recorded.bind_of_ok (fill_eq_ok hd), fill_journal hd, Recorded.journal_pure, List.append_nil]

-- The notes that a visit is good for: one for each inclusion that leads nowhere, and one for the visit itself.
def visitNotes (s : Site) (v : Path × Text) : Journal :=
  (s.absent v.snd).map (fun d => .partialMissing d.target (s.partialPath d)) ++ [.partialIncluded]

-- The induction is on the number of inclusions that are still allowed; the chain plays no part in it. The
-- first visit is noted down by the file that includes the view, if there is one.
theorem exists_unfolds_of_expandBelow_eq_ok (h : (s.expandBelow limit left above path).result = .ok (some out)) :
    ∃ visits, s.Unfolds path visits ∧
      ((s.expandBelow limit left above path).journal ++ [Note.partialIncluded]).Perm
        (visits.flatMap s.visitNotes) := by
  induction left using Nat.strongRecOn generalizing above path out
  case ind left hi =>
    obtain ⟨t, body?, hr, hs, rfl⟩ := expandBelow_eq_ok_some_iff.mp h
    let notes (d : Inclusion) : Journal := (s.partialText (s.descent limit left) (above ++ [path]) d).journal
    have hpresent : ∀ d ∈ s.present t, ∃ visits, s.Unfolds (s.partialPath d) visits ∧
        (notes d).Perm (visits.flatMap s.visitNotes) := by
      intro d hd
      have ⟨hd, hf⟩ := mem_present.mp hd
      obtain ⟨left, body, rfl, -, hc, hb⟩ := (settles_iff_of_isFile hf).mp (hs d hd)
      simpa only [notes, partialText_journal_of_isFile hf hc hb] using hi left (Nat.lt_succ_self left) hb
    have habsent : (s.absent t).flatMap notes =
        (s.absent t).map fun d => .partialMissing d.target (s.partialPath d) := by
      rw [List.map_eq_flatMap]
      exact List.flatMap_congr fun d hd => partialText_journal_of_not_isFile <| isFile_of_mem_absent hd
    choose! below hu hn using hpresent
    refine ⟨_, .visit hr hu, ?_⟩
    have hp : (s.present t ++ s.absent t).Perm (Inclusion.distinct t) := List.filter_append_perm _ _
    calc
      _ = (Inclusion.distinct t).flatMap notes ++ [.partialIncluded] := by rw [expandBelow_journal hr hs]
      List.Perm _ ((s.present t ++ s.absent t).flatMap notes ++ [.partialIncluded]) :=
        (hp.flatMap_right notes).symm.append_right _
      _ = (s.present t).flatMap notes ++ s.visitNotes (path, t) := by
        rw [List.flatMap_append, habsent, List.append_assoc, visitNotes]
      List.Perm _ ((s.present t).flatMap (fun d => (below d).flatMap s.visitNotes) ++ s.visitNotes (path, t)) :=
        (List.Perm.flatMap_left _ hn).append_right _
      List.Perm _ (s.visitNotes (path, t) ++ (s.present t).flatMap fun d => (below d).flatMap s.visitNotes) :=
        List.perm_append_comm
      _ = _ := by rw [List.flatMap_cons, List.flatMap_assoc]

theorem count_included_visits (visits : List (Path × Text)) :
    Journal.count .included (visits.flatMap s.visitNotes) = visits.length := by
  have h v : Journal.count .included (s.visitNotes v) = 1 := by
    simp [visitNotes, Journal.count, List.countP_map, Function.comp_def, Note.counter?]
  simp [Journal.count_flatMap, h]

theorem count_missing_visits (visits : List (Path × Text)) :
    Journal.count .missing (visits.flatMap s.visitNotes) = (visits.map fun v => (s.absent v.snd).length).sum := by
  have h v : Journal.count .missing (s.visitNotes v) = (s.absent v.snd).length := by
    simp [visitNotes, Journal.count, List.countP_map, Function.comp_def, Note.counter?]
  simp [Journal.count_flatMap, h]

end Site
end View
end Stencil
