import Mathlib.Data.Set.Card
import Stencil.Proofs.Text.Recogniser

/-!
Of the items with one key the first is kept and no other (`filter_distinctBy`), so every key is kept
exactly once, and the items that are kept can be counted by their keys.
-/
namespace Stencil

variable {α κ : Type} [DecidableEq κ] {key : α → κ} {items : List α} {seen seen' : List κ} {k : κ}

theorem distinctBy_go_congr (h : ∀ k, k ∈ seen ↔ k ∈ seen') :
    distinctBy.go key seen items = distinctBy.go key seen' items := by
  induction items generalizing seen seen'
  case nil => rfl
  case cons a items hi =>
    have hs : ∀ k, k ∈ key a :: seen ↔ k ∈ key a :: seen' := fun k => by simp [h k]
    simp only [distinctBy.go, h (key a), hi h, hi hs]

theorem filter_distinctBy_go (k : κ) (seen : List κ) (items : List α) :
    (distinctBy.go key seen items).filter (key · = k) =
      if k ∈ seen then [] else (items.find? (key · = k)).toList := by
  induction items generalizing seen
  case nil => simp [distinctBy.go]
  case cons a items hi =>
    rw [distinctBy.go]
    split
    case isTrue hs =>
      rw [hi]
      by_cases hk : key a = k
      case pos => simp [hk ▸ hs]
      case neg => simp [hk]
    case isFalse hs =>
      rw [List.filter_cons, hi]
      by_cases hk : key a = k
      case pos => simp [hk, hk ▸ hs]
      case neg => simp [hk, Ne.symm hk]

theorem filter_distinctBy (key : α → κ) (k : κ) (items : List α) :
    (distinctBy key items).filter (key · = k) = (items.find? (key · = k)).toList :=
  (filter_distinctBy_go k [] items).trans <| if_neg List.not_mem_nil

theorem nodup_map_distinctBy (key : α → κ) (items : List α) : ((distinctBy key items).map key).Nodup := by
  rw [List.nodup_iff_count_le_one]
  intro k
  calc
    _ = ((distinctBy key items).filter (key · = k)).length := by
      rw [List.count, List.countP_map, List.countP_eq_length_filter]
      rfl
    _ = (items.find? (key · = k)).toList.length := by rw [filter_distinctBy]
    _ ≤ 1 := Option.length_toList_le

theorem mem_map_distinctBy : k ∈ (distinctBy key items).map key ↔ k ∈ items.map key := by
  simp only [List.mem_map]
  constructor
  case mp => exact fun ⟨a, ha, hk⟩ => ⟨a, mem_of_mem_distinctBy ha, hk⟩
  case mpr =>
    rintro ⟨a, ha, rfl⟩
    exact exists_mem_distinctBy key ha

-- Items with one key have to agree on what is counted.
theorem countP_distinctBy {p : α → Bool} (h : ∀ a ∈ items, ∀ b ∈ items, key a = key b → p a = p b) :
    (distinctBy key items).countP p = {k | ∃ a ∈ items, key a = k ∧ p a}.ncard := by
  let kept := ((distinctBy key items).filter p).map key
  have hn : kept.Nodup := (nodup_map_distinctBy key items).sublist <| List.filter_sublist.map key
  have hm : {k | ∃ a ∈ items, key a = k ∧ p a} = kept.toFinset := by
    ext k
    simp only [kept, Set.mem_ofPred_eq, List.coe_toFinset, List.mem_map, List.mem_filter]
    constructor
    case mp =>
      rintro ⟨a, ha, rfl, hp⟩
      have ⟨b, hb, hk⟩ := exists_mem_distinctBy key ha
      exact ⟨b, ⟨hb, h b (mem_of_mem_distinctBy hb) a ha hk ▸ hp⟩, hk⟩
    case mpr => exact fun ⟨a, ⟨ha, hp⟩, hk⟩ => ⟨a, mem_of_mem_distinctBy ha, hk, hp⟩
  rw [hm, Set.ncard_coe_finset, List.toFinset_card_of_nodup hn, List.length_map, List.countP_eq_length_filter]

theorem Text.Recogniser.Reads.countP_distinctBy_raw {r : Text.Recogniser α} {WellFormed : α → Prop}
    (hr : r.Reads WellFormed) (p : α → Bool) (t : Text) :
    (distinctBy r.raw (r.items t)).countP p = {raw | ∃ a ∈ r.items t, r.raw a = raw ∧ p a}.ncard :=
  countP_distinctBy fun _ ha _ hb h => congrArg p <| hr.eq_of_raw_eq ha hb h

end Stencil
