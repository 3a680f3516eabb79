import Stencil.Proofs.View.Graph

/-!
What the limit of inclusions is good for. Under a higher limit an expansion goes the same way, step by step,
up to the first inclusion that the lower limit refuses (`Site.expand_upto`). So if none is refused, the limit
might as well have been any higher one.
-/
namespace Stencil.View

open Directive Text

variable {Stops : Note → Error → Prop}

theorem fill_upto {f g : Inclusion → Recorded Error (Option Text)} {ds : List Inclusion} {t : Text}
    (h : ∀ d ∈ ds, (f d).Upto Stops (g d)) : (fill f t ds).Upto Stops (fill g t ds) := by
  induction ds generalizing t
  case nil => exact .refl _
  case cons d ds hi =>
    have ⟨hd, hs⟩ := List.forall_mem_cons.mp h
    rw [fill_cons, fill_cons]
    exact hd.bind fun _ _ => hi hs

namespace Site

variable {s : Site} {limit limit' left left' : Nat} {path : Path} {above chain : List Path} {d : Inclusion}

-- Only what happens to a partial that is there and not on the chain depends on the limit.
theorem partialText_upto {descend descend' : Descent}
    (h : (descend chain d <| s.partialPath d).Upto Stops (descend' chain d <| s.partialPath d)) :
    (s.partialText descend chain d).Upto Stops (s.partialText descend' chain d) := by
  unfold Site.partialText
  cases hf : s.tree.isFile (s.partialPath d)
  case false => simpa [hf] using .refl _
  case true =>
    cases hc : chain.any (·.same <| s.partialPath d)
    case true => simpa [hf, hc] using .refl _
    case false => simpa [hf, hc] using h

theorem expandFile_upto {descend descend' : Descent}
    (h : ∀ d, (descend (above ++ [path]) d <| s.partialPath d).Upto Stops
      (descend' (above ++ [path]) d <| s.partialPath d)) :
    (s.expandFile descend above path).Upto Stops (s.expandFile descend' above path) := by
  refine .bind (.refl _) fun t? _ => ?_
  cases t?
  case none => exact .refl _
  case some t => exact .bind (fill_upto fun d _ => partialText_upto <| h d) fun _ _ => .refl _

-- An inclusion is refused because of this limit.
def Refused (limit : Nat) (n : Note) (e : Error) : Prop :=
  ∃ target, n = .tooDeep target limit ∧ e = .tooDeep target limit

theorem refuse_upto (limit : Nat) (chain : List Path) (d : Inclusion) (path : Path)
    (y : Recorded Error (Option Text)) : (refuse limit chain d path).Upto (Refused limit) y :=
  .stopped (j := []) ⟨d.target, rfl, rfl⟩ rfl <| List.nil_prefix

-- The induction is on the number of inclusions that the lower limit still allows.
theorem expandBelow_upto (h : left ≤ left') :
    (s.expandBelow limit left above path).Upto (Refused limit) (s.expandBelow limit' left' above path) := by
  induction left generalizing left' above path
  case zero =>
    rw [expandBelow_eq, expandBelow_eq]
    exact expandFile_upto fun d => refuse_upto limit (above ++ [path]) d (s.partialPath d) _
  case succ left hi =>
    obtain ⟨left', rfl⟩ := Nat.exists_eq_add_one_of_ne_zero <| Nat.ne_zero_of_lt h
    rw [expandBelow_eq, expandBelow_eq]
    exact expandFile_upto fun d => .bind (hi <| Nat.le_of_succ_le_succ h) fun _ _ => .refl _

theorem expand_upto (h : limit ≤ limit') (path : Path) :
    (s.expand limit path).Upto (Refused limit) (s.expand limit' path) :=
  expandBelow_upto h

theorem expand_eq_of_le (h : limit ≤ limit')
    (hr : ∀ target bound, (s.expand limit path).result ≠ .error (.tooDeep target bound)) :
    s.expand limit' path = s.expand limit path :=
  (expand_upto h path).eq_of_result_ne fun _ _ ⟨target, _, he⟩ => he ▸ hr target limit

-- The cycle is closed by the last file that the limit lets in, so that more could not be done with a limit
-- that is as high as can be.
theorem expand_eq_of_le_cycle :
    let s := ofFiles [("a", "## include('b') #### include('c') ##"), ("b", "## include('m') #### include('a') ##"),
      ("c", "## include('b') ##")]
    1 ≤ Nat.pow 2 64 - 1 ∧ (s.expand 1 ⟨"a"⟩).result = .error (.cycle [⟨"a"⟩, ⟨"b"⟩, ⟨"a"⟩]) ∧
      s.expand (Nat.pow 2 64 - 1) ⟨"a"⟩ = s.expand 1 ⟨"a"⟩ := by
  intro s
  have hl : 1 ≤ Nat.pow 2 64 - 1 := by decide
  have hr : (s.expand 1 ⟨"a"⟩).result = .error (.cycle [⟨"a"⟩, ⟨"b"⟩, ⟨"a"⟩]) := by decide +kernel
  exact ⟨hl, hr, expand_eq_of_le hl fun _ _ h => nomatch hr.symm.trans h⟩

end Site
end Stencil.View
