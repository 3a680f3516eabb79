import Mathlib.Data.List.Chain
import Mathlib.Logic.Relation
import Stencil.Proofs.FileTree
import Stencil.Proofs.View.Expansion

/-!
Which files lead to which. A file is looked up by a path as it is written, but paths with the same
components stand for one node of the graph, and the file is the same for all of them that lead to it.
-/
namespace Stencil.View.Site

open Directive Text

variable {s : Site} {path target p q : Path} {t u : Text}

-- An inclusion in the text of a file leads to another file.
def Includes (s : Site) (path target : Path) : Prop :=
  ∃ t, s.read path = .ok (some t) ∧
    ∃ d ∈ Inclusion.recogniser.items t, s.partialPath d = target ∧ s.tree.isFile target

def Reaches (s : Site) : Path → Path → Prop :=
  Relation.ReflTransGen s.Includes

-- The files in a table with their texts, to which all partials that they lead to belong.
structure Table (s : Site) (table : List (Path × Text)) : Prop where
  read : ∀ e ∈ table, s.read e.fst = .ok (some e.snd)
  closed : ∀ e ∈ table, ∀ d ∈ Inclusion.recogniser.items e.snd, s.tree.isFile (s.partialPath d) →
    ∃ e ∈ table, e.fst = s.partialPath d

theorem Table.exists_of_reaches {table : List (Path × Text)} (h : s.Table table) {e : Path × Text}
    (he : e ∈ table) (ht : s.Reaches e.fst target) : ∃ e ∈ table, e.fst = target := by
  induction ht
  case refl => exact ⟨e, he, rfl⟩
  case tail hi ht hp =>
    obtain ⟨e, he, rfl⟩ := hp
    obtain ⟨t, hr, d, hd, rfl, hf⟩ := ht
    obtain rfl : e.snd = t := by simpa [h.read e he] using hr
    exact h.closed e he d hd hf

theorem Table.forall_of_reaches {Holds : Text → Prop} {table : List (Path × Text)} (h : s.Table table)
    {e : Path × Text} (he : e ∈ table) (htexts : ∀ e ∈ table, Holds e.snd) (p : Path) (t : Text)
    (hp : s.Reaches e.fst p) (hr : s.read p = .ok (some t)) : Holds t := by
  obtain ⟨e, he, rfl⟩ := h.exists_of_reaches he hp
  obtain rfl : e.snd = t := by simpa [h.read e he] using hr
  exact htexts e he

-- The site with files of these names and texts, all of them in one folder.
def ofFiles (files : List (Text × Text)) : Site where
  tree := ⟨[], files.map fun (name, text) => ([name], .file (toUtf8 text))⟩
  resolver := ⟨⟨[]⟩, []⟩

theorem read_eq_ok_some_iff :
    s.read path = .ok (some t) ↔ ∃ bytes, s.tree.read path = .ok bytes ∧ ofUtf8? bytes = some t := by
  rw [read, FileTree.readText]
  cases s.tree.read path
  case error failure => cases failure <;> simp [bind, Except.bind]
  case ok bytes => cases h : ofUtf8? bytes <;> simp [bind, Except.bind, h]

theorem isFile_of_read (h : s.read path = .ok (some t)) : s.tree.isFile path :=
  have ⟨bytes, hb, _⟩ := read_eq_ok_some_iff.mp h
  FileTree.isFile_iff.mpr ⟨bytes, hb⟩

-- A file that can be read under one path can be read under every other one that leads to it.
theorem read_of_isFile (h : p.components = q.components) (hp : s.read p = .ok (some t))
    (hq : s.tree.isFile q) : s.read q = .ok (some t) := by
  have ⟨bytes, hb, ht⟩ := read_eq_ok_some_iff.mp hp
  have ⟨bytes', hb'⟩ := FileTree.isFile_iff.mp hq
  obtain rfl := FileTree.read_unique h hb hb'
  exact read_eq_ok_some_iff.mpr ⟨bytes, hb', ht⟩

theorem read_unique (h : p.components = q.components) (hp : s.read p = .ok (some t))
    (hq : s.read q = .ok (some u)) : t = u := by
  have he := read_of_isFile h hp <| isFile_of_read hq
  simpa [hq, eq_comm] using he

-- An edge between nodes, whichever paths they are known by.
def Links (s : Site) (P Q : List Path.Component) : Prop :=
  ∃ p q, p.components = P ∧ q.components = Q ∧ s.Includes p q

theorem Includes.links (h : s.Includes p q) : s.Links p.components q.components :=
  ⟨p, q, rfl, rfl, h⟩

-- The edges that leave a node can all be seen in the text that one of its paths leads to.
theorem exists_of_links {Q : List Path.Component} (hr : s.read path = .ok (some t))
    (h : s.Links path.components Q) : ∃ d ∈ Inclusion.recogniser.items t,
      (s.partialPath d).components = Q ∧ s.tree.isFile (s.partialPath d) := by
  obtain ⟨p, q, hp, rfl, u, hu, d, hd, rfl, hf⟩ := h
  obtain rfl := read_unique hp hu hr
  exact ⟨d, hd, rfl, hf⟩

end Stencil.View.Site
