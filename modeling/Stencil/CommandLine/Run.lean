import Stencil.CommandLine.Arguments
import Stencil.Fault
import Stencil.Log.Line
import Stencil.Metrics
import Stencil.Settings.Load
import Stencil.View.Renderer

/-!
Running the command. Settings and log filter come first; if either fails nothing is rendered. Then the
bindings are read and the view is rendered, and the first fault decides how the command ends.
-/
namespace Stencil.CommandLine

def loadBindings (tree : FileTree) (o : Options) : Except Fault Bindings := do
  let invalid (e : Bindings.Error) : Fault := .view (.badBindings e)
  let base ← match o.bindings? with
    | none => .ok Bindings.empty
    | some path => do
      let text ← (tree.readText path).mapError .io
      match Json.parse? text with
      | none => .error (.json (Json.diagnose? text))
      | some value => (Bindings.ofJson value).mapError invalid
  (base.assign o.assignments).mapError invalid

-- The settings with what the options override.
def Options.override (o : Options) (s : Settings) : Settings :=
  { s with views := { s.views with
      path := o.views?.getD s.views.path
      extension := o.extension?.getD s.views.extension } }

-- The text of the view, with the notes taken on the way.
def render (tree : FileTree) (o : Options) (s : Settings) : Recorded Fault Text :=
  match loadBindings tree o with
  | .error f => .fail f
  | .ok b => (View.Renderer.ofSettings s |>.render tree o.name b).mapError .view

-- What the command needs before it can render.
structure Setup where
  settings : Settings
  filter : Log.Filter

def Setup.load (tree : FileTree) (env : Environment) (o : Options) (leeway : Settings.Leeway) :
    Except Fault Setup := do
  let some env := env.withFile? tree | .error (.settings .crash)
  let settings ← (Settings.ofLayers leeway tree env o.config?).mapError .settings
  let filter ← (Log.Filter.choose env settings.logging.level).mapError .filter
  return ⟨o.override settings, filter⟩

-- What a command leaves behind: its exit code, its output, and lines about what happened.
structure Result where
  exitCode : Nat
  output : Text := []
  errors : List Text := []
  metrics : List Text := []
deriving DecidableEq

namespace Result

-- The part of the program whose events tell of faults.
def reporter : Text := "ara_view_renderer::infrastructure::error"

-- The log lines of a fault, which a filter may hide.
def faultLines (setup : Setup) (f : Fault) : List Text :=
  f.report.event?.toList.filterMap fun e =>
    if setup.filter.showsErrors reporter ((Log.details e).map Prod.fst) then
      some (Log.line setup.settings.logging.format reporter e)
    else none

def ofRender (setup : Setup) (o : Options) (rendered : Recorded Fault Text) : Result :=
  match rendered.result with
  | .ok text =>
    { exitCode := 0
      output := text
      metrics := if o.metrics then Metrics.lines rendered.journal else [] }
  | .error f => { exitCode := f.exitCode, errors := faultLines setup f }

-- What is left behind by a crash. The lines about the place in the program where it came to it are no log
-- lines, and they are left out.
def crash : Result := { exitCode := 101 }

-- Without settings or log filter the command only says what is missing, and why if that has a
-- text.
def ofMissingSetup (f : Fault) : Result :=
  if f.isCrash then crash
  else
    let (headline, cause?) : Text × Option Text := match f with
      | .filter e => ("Error: Failed to initialize logging", some e.message)
      | .settings p => ("Error: Failed to load configuration", p.message?)
      | _ => ("Error: Failed to load configuration", none)
    { exitCode := 1
      errors := headline :: match cause? with
        | some cause => [[], "Caused by:", List.replicate 4 ' ' ++ cause]
        | none => [] }

end Result

def Options.run (tree : FileTree) (env : Environment) (o : Options) (leeway : Settings.Leeway) : Result :=
  match Setup.load tree env o leeway with
  | .error f => .ofMissingSetup f
  | .ok setup => .ofRender setup o (render tree o setup.settings)

def versionText : Text := "ara-view-renderer 1.0.0\n"

def helpLines : List Text := [
  "View compiler with partial inclusion and variable substitution",
  "",
  "Usage: ara-view-renderer [OPTIONS] <NAME>",
  "",
  "Arguments:",
  "  <NAME>  Dotted view identifier, e.g. `pages.home`",
  "",
  "Options:",
  "  -c, --config <FILE>     Extra configuration file layered over config/default [env: ARA_CONFIG=]",
  "      --views <DIR>       Views root directory (overrides `views.path`)",
  "      --extension <EXT>   View file extension (overrides `views.extension`)",
  "  -D, --var <NAME=VALUE>  Bind a variable; may be repeated and wins over --vars-file",
  "      --vars-file <FILE>  JSON object of variable bindings",
  "      --metrics           Print Prometheus metrics to stderr after rendering",
  "  -h, --help              Print help",
  "  -V, --version           Print version"]

def run (tree : FileTree) (env : Environment) (arguments : List Text) (leeway : Settings.Leeway := .plain) :
    Result :=
  match Request.ofArguments env arguments with
  | .render o => o.run tree env leeway
  | .help => { exitCode := 0, output := helpLines.flatMap (· ++ ['\n']) }
  | .version => { exitCode := 0, output := versionText }
  | .misuse => { exitCode := 2, errors := ["Usage: ara-view-renderer [OPTIONS] <NAME>"] }

end Stencil.CommandLine
