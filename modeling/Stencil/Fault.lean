import Stencil.Journal
import Stencil.Json.Diagnosis
import Stencil.Log.Filter
import Stencil.Route.Error
import Stencil.Settings.Value
import Stencil.View.Error

/-!
Everything that can go wrong, with the stable codes and exit codes under which it is reported.
-/
namespace Stencil

inductive Fault
  | view (e : View.Error)
  | route (e : Route.Error)
  | settings (p : Settings.Problem)
  | filter (e : Log.Filter.Error)
  | io (failure : FileTree.Failure)
  -- The text of a document is wrong, or it does not describe what it should.
  | json (problem? : Option Json.Problem)

namespace Fault

def code : Fault → Text
  | view (.notFound ..) => "VIEW_NOT_FOUND"
  | view (.cycle _) => "INCLUSION_CYCLE"
  | view (.tooDeep ..) => "MAX_DEPTH_EXCEEDED"
  | view (.unreadable ..) => "VIEW_READ_ERROR"
  | view (.badBindings _) => "INVALID_BINDINGS"
  | route (.taken ..) => "ROUTE_EXISTS"
  | route (.badHandler _) => "INVALID_HANDLER"
  | route (.blankInPattern _) | route (.badPlaceholder _) => "INVALID_PATTERN"
  | settings _ => "CONFIG_ERROR"
  | filter _ => "TELEMETRY_ERROR"
  | io _ => "IO_ERROR"
  | json _ => "INVALID_JSON"

def exitCode : Fault → Nat
  | view (.notFound ..) => 66
  | view (.badBindings _) | json _ => 65
  | view (.unreadable ..) | io _ => 74
  | settings _ | filter _ => 78
  | view (.cycle _) | view (.tooDeep ..) | route _ => 70

def external? : Fault → Option Int
  | view e => e.external?
  | route e => e.external?
  | _ => none

-- The text of a fault, unless it is left to the reader of some file format.
def message? : Fault → Option Text
  | view e => some e.message
  | route e => some e.message
  | settings p => p.message?.map ("Configuration error: " ++ ·)
  | filter e => some ("Telemetry error: " ++ e.message)
  | io failure => some ("I/O error: " ++ failure.message)
  | json problem? => problem?.map fun p => "Invalid JSON: " ++ p.message

-- Does a fault end the program where it stands?
def isCrash : Fault → Bool
  | settings p => p = .crash
  | filter e => e.reason = .crash
  | _ => false

def report (f : Fault) : Note :=
  .faultReported f.code f.external? (f.message?.getD [])

end Fault
end Stencil
