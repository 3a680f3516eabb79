import Stencil.Messages
import Stencil.Path

/-!
The settings of a renderer in their three sections, with their built-in defaults.
-/
namespace Stencil

-- How log lines are written.
inductive LogFormat
  | pretty
  | json
deriving DecidableEq

namespace LogFormat

def text : LogFormat → Text
  | pretty => "pretty"
  | json => "json"

def ofText? (t : Text) : Option LogFormat :=
  if t = "pretty" then some pretty else if t = "json" then some json else none

end LogFormat

namespace Settings

structure Views where
  path : Path := ⟨"views"⟩
  extension : Text := "html"
  maxIncludeDepth : Nat := 32
deriving DecidableEq

structure Logging where
  level : Text := "info"
  format : LogFormat := .pretty
deriving DecidableEq

end Settings

structure Settings where
  views : Settings.Views := {}
  messages : Messages := {}
  logging : Settings.Logging := {}
deriving DecidableEq

end Stencil
