import Stencil.Journal
import Stencil.Json.Printer
import Stencil.Settings.Basic

/-!
The lines of a log, without the time at their start. Details named `message` stand without their name,
and in a pretty line they cannot steer a terminal.
-/
namespace Stencil.Log

-- The sentence of an event is its first detail.
def details (e : Event) : List (Text × Text) :=
  ("message", e.message) :: e.details

-- The controls of ASCII that terminals act upon.
def terminalControls : List Char := ['\x07', '\x08', '\x0c', '\x1b', '\x7f']

-- A control as an escape, and every other character as it is.
def inertChar (c : Char) : Text :=
  if c ∈ terminalControls then ['\\', 'x', Json.hexDigit (c.toNat / 16), Json.hexDigit c.toNat]
  else if 0x80 ≤ c.toNat && c.toNat ≤ 0x9f then ['\\', 'u', '\x7b'] ++ Nat.toDigits 16 c.toNat ++ ['\x7d']
  else [c]

def inert (t : Text) : Text :=
  t.flatMap inertChar

def pretty (target : Text) (e : Event) : Text :=
  let detail : Text × Text → Text := fun (name, value) =>
    ' ' :: if name = "message" then inert value else name ++ '=' :: value
  e.level.name ++ ' ' :: target ++ ':' :: (details e).flatMap detail

def json (target : Text) (e : Event) : Text :=
  Json.print (.object [
    ("level", .string e.level.name),
    ("fields", .object ((details e).map fun (name, value) => (name, .string value))),
    ("target", .string target)])

def line (format : LogFormat) (target : Text) (e : Event) : Text :=
  match format with
  | .pretty => pretty target e
  | .json => json target e

end Stencil.Log
