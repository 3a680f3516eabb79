import Mathlib.Data.List.Basic
import Mathlib.Data.List.Induction
import Mathlib.Data.List.Nodup
import Stencil.Dictionary

/-!
Dictionaries with their keys in order have every key once, so an insertion changes what is kept under
one key only (`Dictionary.flatMap_insert_perm`). A dictionary made of some entries has for every key the value
of the last of them (`Dictionary.find?_ofEntries_eq_some_iff`), and just these entries if no two have the same key
(`Dictionary.ofEntries_perm`).
-/
namespace Stencil.Dictionary

variable {α β : Type} {d : Dictionary α} {key k : Text} {value : α} {entry : Text × α}

def Ordered (d : Dictionary α) : Prop :=
  d.Pairwise fun e f => Text.before e.fst f.fst

theorem mem_insert (h : entry ∈ d.insert key value) : entry = (key, value) ∨ entry ∈ d := by
  induction d
  case nil => simpa [insert] using h
  case cons e rest hi =>
    rw [insert] at h
    split at h
    case isTrue => exact (List.mem_cons.mp h).imp_right <| .tail _
    case isFalse =>
      split at h
      case isTrue => exact List.mem_cons.mp h
      case isFalse =>
        cases h
        case head => exact .inr List.mem_cons_self
        case tail h => exact (hi h).imp_right <| .tail _

theorem Ordered.insert (h : d.Ordered) (key : Text) (value : α) : (d.insert key value).Ordered := by
  induction d
  case nil => simp [Dictionary.insert, Ordered]
  case cons e rest hi =>
    obtain ⟨he, hr⟩ := List.pairwise_cons.mp h
    rw [Dictionary.insert]
    split
    case isTrue hk => exact List.pairwise_cons.mpr ⟨fun f hf => hk ▸ he f hf, hr⟩
    case isFalse hk =>
      split
      case isTrue hb =>
        refine List.pairwise_cons.mpr ⟨fun f hf => ?_, h⟩
        cases hf
        case head => exact hb
        case tail hf => exact Text.before_trans hb (he f hf)
      case isFalse hb =>
        refine List.pairwise_cons.mpr ⟨fun f hf => ?_, hi hr⟩
        obtain rfl | hf := mem_insert hf
        case inl => exact ((Text.before_total e.fst key).resolve_right (by simp [hk, hb]))
        case inr => exact he f hf

theorem find?_eq_none (h : ∀ e ∈ d, e.fst ≠ key) : d.find? key = none := by
  induction d
  case nil => rfl
  case cons e rest hi =>
    have ⟨he, hr⟩ := List.forall_mem_cons.mp h
    simp [find?, he, hi hr]

-- A key that comes before the first one is not there.
theorem Ordered.find?_cons_eq_none (h : Ordered (entry :: d)) (hb : Text.before key entry.fst) :
    find? key (entry :: d) = none := by
  have ⟨he, _⟩ := List.pairwise_cons.mp h
  refine find?_eq_none fun f hf => ?_
  rintro rfl
  cases hf
  case head => simp [Text.before_irrefl] at hb
  case tail hf => simpa [Text.before_asymm hb] using he f hf

-- What is added to the items under one key is added to the items of the dictionary.
theorem Ordered.flatMap_insert_perm {d : Dictionary (List β)} (h : d.Ordered) (key : Text) (new : List β) :
    ((d.insert key ((d.find? key).getD [] ++ new)).flatMap Prod.snd).Perm (d.flatMap Prod.snd ++ new) := by
  induction d
  case nil => simp [Dictionary.insert, find?]
  case cons e rest hi =>
    obtain ⟨k, items⟩ := e
    have hr : Ordered rest := List.Pairwise.of_cons h
    by_cases hk : k = key
    case pos =>
      have hp : (new ++ rest.flatMap Prod.snd).Perm (rest.flatMap Prod.snd ++ new) := List.perm_append_comm
      simpa [Dictionary.insert, find?, hk] using hp.append_left items
    case neg =>
      cases hb : Text.before key k
      case true =>
        have hn : find? key ((k, items) :: rest) = none := h.find?_cons_eq_none hb
        rw [Dictionary.insert, if_neg hk, if_pos hb, hn]
        exact List.perm_append_comm
      case false => simpa [Dictionary.insert, find?, hk, hb] using (hi hr).append_left items

-- The last of some entries with the key has the value.
def Last (key : Text) (entries : List (Text × α)) (value : α) : Prop :=
  ∃ before after, entries = before ++ (key, value) :: after ∧ ∀ e ∈ after, e.fst ≠ key

variable {entries : List (Text × α)}

theorem last_concat_iff : Last key (entries ++ [entry]) value ↔
    if entry.fst = key then entry.snd = value else Last key entries value := by
  constructor
  case mp =>
    rintro ⟨before, after, h, ha⟩
    obtain rfl | ⟨after, e, rfl⟩ := List.eq_nil_or_concat after
    case inl =>
      obtain ⟨rfl, he⟩ := List.append_inj' h rfl
      obtain rfl := List.singleton_inj.mp he
      simp
    case inr =>
      have h' : entries ++ [entry] = (before ++ (key, value) :: after) ++ [e] := by simpa using h
      obtain ⟨rfl, he⟩ := List.append_inj' h' rfl
      obtain rfl := List.singleton_inj.mp he
      rw [if_neg <| ha entry (by simp)]
      exact ⟨before, after, rfl, fun e he => ha e (by simp [he])⟩
  case mpr =>
    split
    case isTrue hk =>
      rintro rfl
      exact ⟨entries, [], by simp [← hk], by simp⟩
    case isFalse hk =>
      rintro ⟨before, after, rfl, ha⟩
      exact ⟨before, after ++ [entry], by simp, List.forall_mem_append.mpr ⟨ha, by simpa using hk⟩⟩

theorem ofEntries_concat (entries : List (Text × α)) (entry : Text × α) :
    ofEntries (entries ++ [entry]) = (ofEntries entries).insert entry.fst entry.snd := by
  simp [ofEntries]

theorem find?_ofEntries_eq_some_iff : (ofEntries entries).find? key = some value ↔ Last key entries value := by
  induction entries using List.reverseRecOn
  case nil => simp [ofEntries, find?, Last]
  case append_singleton entries entry hi =>
    rw [ofEntries_concat, find?_insert, last_concat_iff]
    by_cases hk : entry.fst = key
    case pos => simp [hk]
    case neg => simpa [hk, Ne.symm hk] using hi

theorem insert_perm (h : key ∉ d.map Prod.fst) (value : α) : (d.insert key value).Perm ((key, value) :: d) := by
  induction d
  case nil => exact .refl _
  case cons e rest hi =>
    obtain ⟨hk, hr⟩ := not_or.mp <| List.mem_cons.not.mp h
    rw [insert, if_neg <| Ne.symm hk]
    split
    case isTrue => exact .refl _
    case isFalse => exact ((hi hr).cons e).trans <| .swap ..

theorem ofEntries_perm (h : (entries.map Prod.fst).Nodup) : (ofEntries entries).Perm entries := by
  induction entries using List.reverseRecOn
  case nil => exact .refl _
  case append_singleton entries entry hi =>
    rw [List.map_append, List.map_singleton, List.nodup_append_comm] at h
    obtain ⟨hk, hn⟩ := List.nodup_cons.mp h
    have hp : (ofEntries entries).Perm entries := hi hn
    rw [ofEntries_concat]
    have hs : (entry :: entries).Perm (entries ++ [entry]) := (List.perm_append_singleton entry entries).symm
    exact (insert_perm ((hp.map Prod.fst).mem_iff.not.mpr hk) entry.snd).trans <| (hp.cons entry).trans hs

end Stencil.Dictionary
