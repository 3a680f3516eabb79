import Stencil.FileTree

/-!
A walk along a path that does not fail ends where the components of the path say, so paths that mean
the same lead to the same file, if they lead to files at all.
-/
namespace Stencil

-- Where a component leads to from a location.
def Path.Component.move (l : Location) : Path.Component → Location
  | root => []
  | here => l
  | parent => l.dropLast
  | name n => l ++ [n]

namespace FileTree

variable {tree : FileTree} {l l' : Location} {p q : Path} {a b : ByteArray}

theorem walk_eq_ok {parts : List Text} (hn : [] ∉ parts) (h : tree.walk l parts = .ok l') :
    l' = (parts.filterMap Path.Component.ofPart?).foldl Path.Component.move l := by
  induction parts generalizing l
  case nil => simpa [walk, eq_comm] using h
  case cons part parts hi =>
    have ⟨hp, hn⟩ : part ≠ [] ∧ [] ∉ parts := by simpa [eq_comm] using hn
    rw [walk] at h
    split at h
    case isTrue => simp at h
    case isFalse =>
      split at h
      case isTrue hd => simpa [hd, Path.Component.ofPart?] using hi hn h
      case isFalse hd =>
        split at h
        case isTrue hd => simpa [hd, Path.Component.ofPart?, Path.Component.move] using hi hn h
        case isFalse hdd =>
          split at h
          case isTrue => simp at h
          case isFalse =>
            split at h
            case isTrue => simp at h
            case isFalse => simpa [hp, hd, hdd, Path.Component.ofPart?, Path.Component.move] using hi hn h

theorem filterMap_parts (p : Path) :
    (parts p).filterMap Path.Component.ofPart? =
      (Text.split '/' p.text).filterMap Path.Component.ofPart? := by
  rw [parts, List.filterMap_filter]
  congr 1
  funext part
  by_cases h : part = [] <;> simp [h, Path.Component.ofPart?]

-- The first component of a path says where the walk starts.
theorem foldl_move_components (tree : FileTree) (p : Path) :
    p.components.foldl Path.Component.move tree.home =
      ((parts p).filterMap Path.Component.ofPart?).foldl Path.Component.move (tree.start p) := by
  rw [filterMap_parts, Path.components]
  cases hs : Text.split '/' p.text
  case nil => exact absurd hs (Text.split_ne_nil '/' p.text)
  case cons first rest =>
    cases hr : p.isRooted
    case true =>
      have hf : first = [] := by
        obtain ⟨_ | ⟨c, t⟩⟩ := p <;> simp [Path.isRooted] at hr
        simp_all [Text.split]
      simp [start, hr, hf, Path.Component.ofPart?, Path.Component.move]
    case false =>
      by_cases hd : first = ['.']
      case pos => simp [start, hr, hd, Path.Component.ofPart?, Path.Component.move]
      case neg => cases ho : Path.Component.ofPart? first <;> simp [start, hr, hd, ho]

theorem locate_eq_ok (h : tree.locate p = .ok l) :
    l = p.components.foldl Path.Component.move tree.home := by
  have hw : tree.walk (tree.start p) (parts p) = .ok l := by
    unfold locate at h
    cases hw : tree.walk (tree.start p) (parts p) <;> simp only [hw, bind, Except.bind] at h
    case error => grind
    case ok => grind
  rw [foldl_move_components]
  exact walk_eq_ok (by simp [parts]) hw

theorem read_eq_ok_iff :
    tree.read p = .ok a ↔ ∃ l, tree.locate p = .ok l ∧ tree.entry? l = some (.file a) := by
  unfold read
  cases tree.locate p <;> simp [bind, Except.bind]
  split <;> simp_all

theorem isFile_iff : tree.isFile p ↔ ∃ bytes, tree.read p = .ok bytes := by
  unfold isFile
  split <;> simp_all

theorem read_unique (h : p.components = q.components) (hp : tree.read p = .ok a)
    (hq : tree.read q = .ok b) : a = b := by
  have ⟨l, hl, ha⟩ := read_eq_ok_iff.mp hp
  have ⟨l', hl', hb⟩ := read_eq_ok_iff.mp hq
  obtain rfl : l = l' := by rw [locate_eq_ok hl, locate_eq_ok hl', h]
  simpa [ha] using hb

end FileTree
end Stencil
