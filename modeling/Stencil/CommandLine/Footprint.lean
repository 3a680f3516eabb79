import Stencil.CommandLine.Run

/-!
Which paths a command looks at, as far as the files that are already known tell. Once all of them are
known, no further file can change what the command does.
-/
namespace Stencil.CommandLine

-- A name of a settings file, alone and with each extension.
def settingsPaths (name : Path) : List Path :=
  name :: Settings.FileFormat.all.flatMap fun format => format.extensions.filterMap name.withExtension?

-- The partials that the files of a tree include.
def partialPaths (tree : FileTree) (r : View.Resolver) : List Path :=
  tree.entries.flatMap fun
    | (_, .file bytes) =>
      match Text.ofUtf8? bytes with
      | some t => (Directive.Inclusion.distinct t).map fun d => r.resolve d.target
      | none => []
    | (_, .folder) => []

-- The paths of assignment files in the working folder and above.
def assignmentPaths (tree : FileTree) : List Path :=
  (Environment.upwards tree.home).map fun l => ⟨(l ++ [(".env" : Text)]).flatMap ('/' :: ·)⟩

def Options.paths (tree : FileTree) (env : Environment) (o : Options) : List Path :=
  let modes := (env.withFile? tree).toList.map Settings.runMode
  let first := assignmentPaths tree ++ o.bindings?.toList
    ++ settingsPaths ⟨"config/default"⟩ ++ modes.flatMap (fun mode => settingsPaths ⟨"config/" ++ mode⟩)
    ++ o.config?.toList.flatMap settingsPaths
  match Setup.load tree env o .plain with
  | .error _ => first
  | .ok setup =>
    let r := (View.Renderer.ofSettings setup.settings).resolver
    first ++ r.resolve o.name :: partialPaths tree r

def paths (tree : FileTree) (env : Environment) (arguments : List Text) : List Path :=
  match Request.ofArguments env arguments with
  | .render o => o.paths tree env
  | _ => []

end Stencil.CommandLine
