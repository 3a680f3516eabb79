import Stencil.Environment.File
import Stencil.Settings.Decode
import Stencil.Settings.File

/-!
Loading settings. From the lowest to the highest, the layers are the defaults, `config/default`, the
file in `config` that is named after the run mode, a file that is asked for, and the environment.
-/
namespace Stencil.Settings

def runMode (env : Environment) : Text :=
  (env.find? "RUN_MODE").getD "development"

def layers (leeway : Leeway) (tree : FileTree) (env : Environment) (file? : Option Path) :
    Except Problem (List Layer) := do
  let base ← fileLayer leeway tree false ⟨"config/default"⟩
  let ofMode ← fileLayer leeway tree false ⟨"config/" ++ runMode env⟩
  let ofFile ← match file? with
    | some p => fileLayer leeway tree true p
    | none => .ok []
  return [defaults, base, ofMode, ofFile, leeway.environment (ofEnvironment env)]

-- The settings for an environment that is complete.
def ofLayers (leeway : Leeway) (tree : FileTree) (env : Environment) (file? : Option Path) :
    Except Problem Settings := do
  ofValue (stack (← layers leeway tree env file?))

-- The settings, with the variables that a file adds to the environment.
def load (tree : FileTree) (env : Environment) (file? : Option Path) (leeway : Leeway := .plain) :
    Except Problem Settings :=
  match env.withFile? tree with
  | some env => ofLayers leeway tree env file?
  | none => .error .crash

end Stencil.Settings
