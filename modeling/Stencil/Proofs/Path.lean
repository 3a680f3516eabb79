import Stencil.Path
import Stencil.Proofs.Text.Split

/-!
What a path leads through once segments have been pushed onto it. A segment that does not start at the
root, and in which no part is made of dots alone, only leads further down (`Path.Below.push`).
-/
namespace Stencil

namespace Path

open Text

variable {root p : Path} {s t segment part n : Text} {segments : List Text}

-- What a part between slashes stands for when it is the name of something further down.
structure IsName (n : Text) : Prop where
  ne_nil : n ≠ []
  ne_here : n ≠ ['.']
  ne_parent : n ≠ ['.', '.']
  slash : '/' ∉ n

-- The path starts as the root does and from there only leads further down.
def Below (p root : Path) : Prop :=
  ∃ names : List Text, (∀ n ∈ names, IsName n) ∧ p.components = root.components ++ names.map .name

theorem components_append_slash (s t : Text) :
    components ⟨s ++ '/' :: t⟩ = components ⟨s ++ ['/']⟩ ++ (split '/' t).filterMap Component.ofPart? := by
  have ⟨first, rest, hs⟩ := List.exists_cons_of_ne_nil <| split_ne_nil '/' s
  have hr : isRooted ⟨s ++ '/' :: t⟩ = isRooted ⟨s ++ ['/']⟩ := by cases s <;> rfl
  simp [components, split_append_cons, hs, hr, split, Component.ofPart?]

theorem components_slash (h : s ≠ []) : components ⟨s ++ ['/']⟩ = components ⟨s⟩ := by
  have ⟨first, rest, hs⟩ := List.exists_cons_of_ne_nil <| split_ne_nil '/' s
  have hr : isRooted ⟨s ++ ['/']⟩ = isRooted ⟨s⟩ := by cases s <;> simp_all [isRooted]
  simp [components, split_append_cons, hs, hr, split, Component.ofPart?]

theorem components_of_not_rooted (h : t.head? ≠ some '/') (hd : ['.'] ∉ split '/' t) :
    components ⟨t⟩ = (split '/' t).filterMap Component.ofPart? := by
  have ⟨first, rest, hs⟩ := List.exists_cons_of_ne_nil <| split_ne_nil '/' t
  have hf : first ≠ ['.'] := fun he => hd (by simp [hs, he])
  cases ho : Component.ofPart? first <;> simp [components, hs, isRooted, h, hf, ho]

-- A dot in front would count if the segment came to stand at the start of the path.
theorem components_push (p : Path) (h : segment.head? ≠ some '/') (hd : ['.'] ∉ split '/' segment) :
    (p.push segment).components =
      p.components ++ (split '/' segment).filterMap Component.ofPart? := by
  obtain ⟨text⟩ := p
  rw [push, if_neg h]
  split
  case isFalse hp =>
    have ⟨hn, _⟩ : text ≠ [] ∧ text.getLast? ≠ some '/' := by simpa using hp
    rw [components_append_slash, components_slash hn]
  case isTrue hp =>
    obtain rfl | hp : text = [] ∨ text.getLast? = some '/' := by simpa using hp
    case inl => exact components_of_not_rooted h hd
    case inr =>
      obtain ⟨s, rfl⟩ := List.getLast?_eq_some_iff.mp hp
      rw [← components_append_slash, List.append_assoc, List.singleton_append]

theorem filterMap_ofPart? {parts : List Text} (h : ∀ part ∈ parts, part ≠ ['.'] ∧ part ≠ ['.', '.']) :
    parts.filterMap Component.ofPart? = (parts.filter (· ≠ [])).map .name := by
  induction parts
  case nil => rfl
  case cons part parts hi =>
    have ⟨hp, hs⟩ := List.forall_mem_cons.mp h
    by_cases he : part = [] <;> simp [Component.ofPart?, he, hp, hi hs]

theorem components_push_name (p : Path) (h : IsName n) : (p.push n).components = p.components ++ [.name n] := by
  have hs : split '/' n = [n] := split_of_not_mem h.slash
  have hr : n.head? ≠ some '/' := fun he => h.slash <| List.mem_of_head? he
  rw [components_push p hr (by simp [hs, Ne.symm h.ne_here]), hs]
  simp [Component.ofPart?, h.ne_nil, h.ne_here, h.ne_parent]

theorem components_foldl_push (p : Path) (h : ∀ n ∈ segments, IsName n) :
    (segments.foldl push p).components = p.components ++ segments.map .name := by
  induction segments generalizing p
  case nil => simp
  case cons n rest hi =>
    have ⟨hn, hr⟩ := List.forall_mem_cons.mp h
    simp [hi _ hr, components_push_name p hn]

namespace Below

@[refl]
theorem refl (p : Path) : p.Below p :=
  ⟨[], by simp⟩

theorem push (hp : p.Below root) (h : segment.head? ≠ some '/')
    (hd : ∀ part ∈ split '/' segment, part ≠ ['.'] ∧ part ≠ ['.', '.']) :
    (p.push segment).Below root := by
  have ⟨names, hn, hc⟩ := hp
  refine ⟨names ++ (split '/' segment).filter (· ≠ []), fun n hm => ?names, ?components⟩
  case names =>
    cases List.mem_append.mp hm
    case inl hm => exact hn n hm
    case inr hm =>
      have ⟨hm, he⟩ := List.mem_filter.mp hm
      exact ⟨by simpa using he, (hd n hm).left, (hd n hm).right, not_mem_of_mem_split hm⟩
  case components =>
    rw [components_push p h fun hm => (hd _ hm).left rfl, filterMap_ofPart? hd, hc, List.map_append,
      List.append_assoc]

theorem foldl_push (hp : p.Below root) (h : ∀ s ∈ segments, s.head? ≠ some '/' ∧
      ∀ part ∈ split '/' s, part ≠ ['.'] ∧ part ≠ ['.', '.']) :
    (segments.foldl Path.push p).Below root := by
  induction segments generalizing p
  case nil => exact hp
  case cons s rest hi =>
    have ⟨hs, hr⟩ := List.forall_mem_cons.mp h
    exact hi (hp.push hs.left hs.right) hr

end Below
end Path
end Stencil
