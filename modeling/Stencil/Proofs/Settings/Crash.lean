import Stencil.Proofs.Environment
import Stencil.Settings.Load

/-!
When the program crashes while it loads its settings. Layers that cannot be read and values of wrong types are
problems that it tells of, so that only the file of assignments is left (`Settings.load_eq_crash_iff`).
-/
namespace Stencil.Settings

-- A result that the program goes on with, or a problem that it can tell of.
def Survives {α : Type} (x : Except Problem α) : Prop :=
  x ≠ .error .crash

variable {α β : Type} {x : Except Problem α}

namespace Survives

theorem ok (a : α) : Survives (.ok a) :=
  nofun

theorem error {p : Problem} (hp : p ≠ .crash) : Survives (.error p : Except Problem α) :=
  mt Except.error.inj hp

theorem bind {f : α → Except Problem β} (hx : Survives x) (hf : ∀ a, Survives (f a)) : Survives (x >>= f) := by
  cases x
  case error => exact .error <| mt (congrArg Except.error) hx
  case ok a => exact hf a

end Survives

theorem Value.survives_convert (expected : Expected) (read : Scalar → Except Expected α) (key : Text) (v : Value) :
    Survives (v.convert expected read key) := by
  cases v
  case scalar _ s =>
    rw [convert]
    cases read s
    case error => exact .error nofun
    case ok a => exact .ok a
  all_goals exact .error nofun

theorem Value.survives_expectSection (name : Text) (v : Value) : Survives (v.expectSection name) := by
  cases v
  case scalar => exact .error nofun
  all_goals exact .ok ()

theorem survives_formatOfWord (word : Text) : Survives (formatOfWord word) := by
  rw [formatOfWord]
  split
  · exact .ok _
  · exact .error nofun

theorem Value.survives_format (key : Text) (v : Value) : Survives (v.format key) := by
  unfold format
  split
  · exact survives_formatOfWord _
  · exact survives_formatOfWord _
  · exact .error nofun

theorem survives_orDefault {read : Text → Value → Except Problem α} (h : ∀ key v, Survives (read key v)) (base : α)
    (field? : Option Keyed) : Survives (orDefault base read field?) := by
  cases field?
  case none => exact .ok base
  case some field => exact h field.fst field.snd

theorem survives_views (key : Text) (v : Value) : Survives (Views.ofValue key v) :=
  .bind (v.survives_expectSection _) fun _ =>
    .bind (survives_orDefault (Value.survives_convert _ _) _ _) fun _ =>
    .bind (survives_orDefault (Value.survives_convert _ _) _ _) fun _ =>
    .bind (survives_orDefault (Value.survives_convert _ _) _ _) fun _ => .ok _

theorem survives_messages (key : Text) (v : Value) : Survives (messagesOfValue key v) :=
  .bind (v.survives_expectSection _) fun _ =>
    .bind (survives_orDefault (Value.survives_convert _ _) _ _) fun _ =>
    .bind (survives_orDefault (Value.survives_convert _ _) _ _) fun _ =>
    .bind (survives_orDefault (Value.survives_convert _ _) _ _) fun _ =>
    .bind (survives_orDefault (Value.survives_convert _ _) _ _) fun _ => .ok _

theorem survives_logging (key : Text) (v : Value) : Survives (Logging.ofValue key v) :=
  .bind (v.survives_expectSection _) fun _ =>
    .bind (survives_orDefault (Value.survives_convert _ _) _ _) fun _ =>
    .bind (survives_orDefault Value.survives_format _ _) fun _ => .ok _

theorem survives_ofValue (v : Value) : Survives (ofValue v) :=
  .bind (survives_orDefault survives_views _ _) fun _ =>
    .bind (survives_orDefault survives_messages _ _) fun _ =>
    .bind (survives_orDefault survives_logging _ _) fun _ => .ok _

variable {leeway : Leeway} {tree : FileTree} {env : Environment} {file? : Option Path}

theorem survives_fileLayer (leeway : Leeway) (tree : FileTree) (required : Bool) (name : Path) :
    Survives (fileLayer leeway tree required name) := by
  unfold fileLayer
  extract_lets found?
  cases found?
  case none =>
    cases required
    case false => exact .ok []
    case true => exact .error nofun
  case some found =>
    dsimp only
    split
    · exact .ok _
    · exact .error nofun

theorem survives_layers (leeway : Leeway) (tree : FileTree) (env : Environment) (file? : Option Path) :
    Survives (layers leeway tree env file?) := by
  refine .bind (survives_fileLayer _ _ _ _) fun _ => .bind (survives_fileLayer _ _ _ _) fun _ => ?_
  cases file?
  case none => exact .bind (.ok []) fun _ => .ok _
  case some => exact .bind (survives_fileLayer _ _ _ _) fun _ => .ok _

theorem survives_ofLayers (leeway : Leeway) (tree : FileTree) (env : Environment) (file? : Option Path) :
    Survives (ofLayers leeway tree env file?) :=
  .bind (survives_layers _ _ _ _) fun _ => survives_ofValue _

theorem load_eq_crash_iff : load tree env file? leeway = .error .crash ↔ ¬ env.Settable tree := by
  rw [← Environment.exists_withFile?_eq_some_iff, load]
  cases env.withFile? tree
  case none => simp
  case some set => exact iff_of_false (survives_ofLayers leeway tree set file?) fun h => h ⟨set, rfl⟩

end Stencil.Settings
