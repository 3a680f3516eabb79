import Stencil.Path

/-!
What happened during a computation, in order. The log and the counters are two views of the same
notes, so that neither can tell of something the other does not know.
-/
namespace Stencil

inductive Note
  | partialMissing (target : Text) (path : Path)
  | partialIncluded
  | cycleFound (target : Text)
  | tooDeep (target : Text) (limit : Nat)
  | valueBound
  | valueDefaulted
  | viewMissing (path : Path)
  | rendered (bytes : Nat)
  | renderNotFound
  | renderFailed
  | routeTaken (method pattern : Text)
  | routeAdded (method pattern handler : Text)
  | faultReported (code : Text) (external? : Option Int) (message : Text)
deriving DecidableEq

inductive Level
  | debug
  | warn
  | error
deriving DecidableEq

def Level.name : Level → Text
  | debug => "DEBUG"
  | warn => "WARN"
  | error => "ERROR"

-- An event of the log: a sentence and named details.
structure Event where
  level : Level
  message : Text
  details : List (Text × Text)
deriving DecidableEq

inductive Counter
  | ok
  | notFound
  | error
  | included
  | missing
  | binding
  | default
deriving DecidableEq

def Counter.all : List Counter :=
  [.ok, .notFound, .error, .included, .missing, .binding, .default]

namespace Note

-- How a number that may be absent is written in the log.
def optionText : Option Int → Text
  | none => "None"
  | some i => "Some(" ++ Text.ofInt i ++ ")"

def event? : Note → Option Event
  | partialMissing target path =>
    some ⟨.debug, "Partial not found, leaving include directive in place",
      [("partial", target), ("path", path.text)]⟩
  | cycleFound target => some ⟨.warn, "Inclusion cycle detected", [("partial", target)]⟩
  | tooDeep target limit =>
    some ⟨.warn, "Maximum include depth exceeded", [("partial", target), ("limit", Text.ofNat limit)]⟩
  | viewMissing path => some ⟨.debug, "View file not found", [("path", path.text)]⟩
  | rendered bytes => some ⟨.debug, "View rendered", [("bytes", Text.ofNat bytes)]⟩
  | routeTaken method pattern =>
    some ⟨.warn, "Route already registered", [("method", method), ("pattern", pattern)]⟩
  | routeAdded method pattern handler =>
    some ⟨.debug, "Route registered", [("method", method), ("pattern", pattern), ("handler", handler)]⟩
  | faultReported code external? message =>
    some ⟨.error, "Render failed",
      [("code", code), ("external_code", optionText external?), ("message", message)]⟩
  | partialIncluded | valueBound | valueDefaulted | renderNotFound | renderFailed => none

def counter? : Note → Option Counter
  | partialMissing .. => some .missing
  | partialIncluded => some .included
  | valueBound => some .binding
  | valueDefaulted => some .default
  | rendered _ => some .ok
  | renderNotFound => some .notFound
  | renderFailed => some .error
  | _ => none

end Note

abbrev Journal := List Note

namespace Journal

def events (j : Journal) : List Event :=
  j.filterMap Note.event?

-- How much a counter rose.
def count (c : Counter) (j : Journal) : Nat :=
  j.countP fun n => n.counter? = some c

@[simp]
theorem count_append (c : Counter) (j k : Journal) :
    Journal.count c (j ++ k) = Journal.count c j + Journal.count c k := by
  simp [count]

end Journal

-- A computation that ends in a value or an error, with the notes taken on the way.
structure Recorded (ε α : Type) where
  journal : Journal
  result : Except ε α

namespace Recorded

variable {ε α β : Type}

def succeed (a : α) : Recorded ε α := ⟨[], .ok a⟩

def fail (e : ε) : Recorded ε α := ⟨[], .error e⟩

def note (n : Note) : Recorded ε Unit := ⟨[n], .ok ()⟩

def ofExcept (r : Except ε α) : Recorded ε α := ⟨[], r⟩

def mapError {ε' : Type} (f : ε → ε') (x : Recorded ε α) : Recorded ε' α :=
  ⟨x.journal, x.result.mapError f⟩

-- The second computation starts from the first one's value; after an error it does not start.
def andThen (x : Recorded ε α) (f : α → Recorded ε β) : Recorded ε β :=
  match x.result with
  | .error e => ⟨x.journal, .error e⟩
  | .ok a => ⟨x.journal ++ (f a).journal, (f a).result⟩

instance : Monad (Recorded ε) where
  pure := succeed
  bind := andThen

end Recorded
end Stencil
