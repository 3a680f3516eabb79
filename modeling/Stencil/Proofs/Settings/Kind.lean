import Stencil.Proofs.Settings.Key

/-!
The types of settings. A value that is a scalar of the type of its key is what the setting becomes
(`Settings.Key.reads_iff`), and settings can be made of any such scalars (`Settings.exists_get_eq`).
-/
namespace Stencil.Settings

inductive Kind
  | text
  | code
  | depth
  | format

-- The scalars that are values of a type.
inductive Kind.Holds : Kind → Scalar → Prop
  | text (t : Text) : Holds text (.text t)
  | code {i : Int} : Scalar.minInt ≤ i → i ≤ Scalar.maxInt → Holds code (.int i)
  | depth {i : Int} : 0 ≤ i → i ≤ Scalar.maxInt → Holds depth (.int i)
  | format (f : LogFormat) : Holds format (.text f.text)

def Key.kind : Key → Kind
  | path | extension | viewNotFound | routeExists | level => .text
  | viewNotFoundCode | routeExistsCode => .code
  | maxIncludeDepth => .depth
  | format => .format

-- The value of a setting.
def get (s : Settings) : Key → Scalar
  | .path => .text s.views.path.text
  | .extension => .text s.views.extension
  | .maxIncludeDepth => .int s.views.maxIncludeDepth
  | .viewNotFound => .text s.messages.viewNotFound
  | .viewNotFoundCode => .int s.messages.viewNotFoundCode
  | .routeExists => .text s.messages.routeExists
  | .routeExistsCode => .int s.messages.routeExistsCode
  | .level => .text s.logging.level
  | .format => .text s.logging.format.text

variable {k : Key} {x : Scalar} {s : Settings}

theorem Kind.Holds.le_maxInt {kind : Kind} {i : Int} (h : kind.Holds (.int i)) : i ≤ Scalar.maxInt := by
  cases h <;> assumption

theorem Kind.Holds.minInt_le {kind : Kind} {i : Int} (h : kind.Holds (.int i)) : Scalar.minInt ≤ i := by
  cases h
  case code => assumption
  case depth h _ => exact Int.le_trans (by decide) h

theorem text_injective {f f' : LogFormat} (h : f.text = f'.text) : f = f' := by
  revert h
  cases f <;> cases f' <;> decide

theorem format_text (key : Text) (origin? : Option Text) (f : LogFormat) :
    (Value.scalar origin? (.text f.text)).format key = .ok f := by
  cases f <;> rfl

namespace Key

-- The built-in value as a scalar.
def builtIn (k : Key) : Scalar :=
  ({} : Settings).get k

theorem default_eq (k : Key) : k.default = .scalar none k.builtIn := by
  cases k <;> rfl

theorem holds_builtIn (k : Key) : k.kind.Holds k.builtIn := by
  cases k
  case maxIncludeDepth => exact .depth (by decide) (by decide)
  case viewNotFoundCode | routeExistsCode => exact .code (by decide) (by decide)
  case format => exact .format .pretty
  all_goals exact .text _

theorem reads_iff_of_text? (hk : k.kind = .text) {u : Text} (hx : x.text? = some u) (origin? : Option Text) :
    k.Reads (.scalar origin? x) s ↔ s.get k = .text u := by
  cases k
  case path | extension | viewNotFound | routeExists | level =>
    simp [Reads, get, Value.text, Value.convert, hx, eq_comm]
  all_goals contradiction

theorem reads_iff (h : k.kind.Holds x) (origin? : Option Text) :
    k.Reads (.scalar origin? x) s ↔ s.get k = x := by
  cases k
  case path | extension | viewNotFound | routeExists | level =>
    cases h
    exact reads_iff_of_text? rfl rfl origin?
  case viewNotFoundCode | routeExistsCode =>
    cases h
    simp [Reads, get, Value.int64, Value.convert, Scalar.int64, eq_comm]
  case maxIncludeDepth =>
    cases h
    case depth i hi _ =>
      simp only [Reads, get, Value.nat, Value.convert, Scalar.nat, if_pos hi, Except.ok.injEq, Scalar.int.injEq]
      omega
  case format =>
    cases h
    case format f =>
      simp only [Reads, get, format_text, Except.ok.injEq, Scalar.text.injEq]
      exact ⟨fun hf => hf ▸ rfl, fun hf => (text_injective hf).symm⟩

end Key

-- Settings that have the same value for all keys of a type.
def uniform (t : Text) (code : Int) (depth : Nat) (f : LogFormat) : Settings where
  views := ⟨⟨t⟩, t, depth⟩
  messages := ⟨t, code, t, code⟩
  logging := ⟨t, f⟩

theorem exists_get_uniform (h : k.kind.Holds x) : ∃ t code depth f, (uniform t code depth f).get k = x := by
  cases k
  case path | extension | viewNotFound | routeExists | level =>
    cases h
    case text t => exact ⟨t, 0, 0, .pretty, rfl⟩
  case viewNotFoundCode | routeExistsCode =>
    cases h
    case code i _ _ => exact ⟨[], i, 0, .pretty, rfl⟩
  case maxIncludeDepth =>
    cases h
    case depth i hi _ => exact ⟨[], 0, i.toNat, .pretty, congrArg Scalar.int (Int.toNat_of_nonneg hi)⟩
  case format =>
    cases h
    case format f => exact ⟨[], 0, 0, f, rfl⟩

theorem exists_get_eq {values : Key → Scalar} (h : ∀ k : Key, k.kind.Holds (values k)) :
    ∃ s : Settings, ∀ k : Key, s.get k = values k := by
  have hr (k : Key) : ∃ s, k.Reads (.scalar none (values k)) s := by
    obtain ⟨t, code, depth, f, hs⟩ := exists_get_uniform (h k)
    exact ⟨_, (Key.reads_iff (h k) none).mpr hs⟩
  obtain ⟨s, hs⟩ := Key.exists_reads_iff.mpr hr
  exact ⟨s, fun k => (Key.reads_iff (h k) none).mp (hs k)⟩

end Stencil.Settings
