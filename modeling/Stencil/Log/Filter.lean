import Stencil.Environment.Basic
import Stencil.Log.Directive

/-!
A filter is a list of directives, the most specific first. Directives that name a span or a field
apply inside of spans; those that need neither a span nor a value also apply to every event.
-/
namespace Stencil.Log

-- Absent texts come first, then the shorter ones, then the earlier ones.
def textOrder : Option Text → Option Text → Ordering
  | none, none => .eq
  | none, some _ => .lt
  | some _, none => .gt
  | some s, some t => Text.order s t

def size (t? : Option Text) : Nat :=
  match t? with
  | some t => t.byteLength + 1
  | none => 0

def fieldOrder : Option Field → Option Field → Ordering
  | none, none => .eq
  | none, some _ => .lt
  | some _, none => .gt
  | some f, some g => f.order g

namespace Directive

-- How specific a directive is: by the length of its target, by whether it names a span and a field,
-- and among equals by the texts.
def order (d e : Directive) : Ordering :=
  (compare (size d.target?) (size e.target?)).then <|
  (compare d.span?.isSome.toNat e.span?.isSome.toNat).then <|
  (compare d.field?.isSome.toNat e.field?.isSome.toNat).then <|
  (textOrder d.target? e.target?).then <|
  (textOrder d.span? e.span?).then (fieldOrder d.field? e.field?)

-- Does a directive only apply inside of spans?
def isDynamic (d : Directive) : Bool :=
  d.span?.isSome || d.field?.isSome

def isStatic (d : Directive) : Bool :=
  d.span?.isNone && d.field?.all fun f => f.value?.isNone

-- Puts a directive in its place, instead of one that applies to the same.
def insert (d : Directive) : List Directive → List Directive
  | [] => [d]
  | e :: rest =>
    match d.order e with
    | .gt => d :: e :: rest
    | .eq => d :: rest
    | .lt => e :: insert d rest

def insertAll (ds : List Directive) : List Directive :=
  ds.foldl (fun sorted d => insert d sorted) []

end Directive

structure Filter where
  statics : List Directive
  dynamics : List Directive
deriving DecidableEq

namespace Filter

structure Error where
  filter : Text
  reason : Directive.Error
deriving DecidableEq

def Error.message (e : Error) : Text :=
  "Invalid log filter '" ++ e.filter ++ "': " ++ e.reason.message

def ofDirectives (ds : List Directive) : Filter where
  statics := Directive.insertAll (ds.filter (!·.isDynamic) ++ ds.filter fun d => d.isDynamic && d.isStatic)
  dynamics := Directive.insertAll (ds.filter Directive.isDynamic)

-- The directives of a text, between commas. Nothing between two commas is no directive.
def parse (t : Text) : Except Error Filter :=
  match ((Text.split ',' t).filter (· ≠ [])).mapM Directive.parse with
    | .ok ds => .ok (ofDirectives ds)
    | .error reason => .error ⟨t, reason⟩

-- The variable that wins over the configured level when its value is a filter.
def variableName : Text := "RUST_LOG"

-- A value that is no filter is passed over, but not one that crashes the program.
def choose (env : Environment) (level : Text) : Except Error Filter :=
  match (env.find? variableName).map parse with
  | some (.ok filter) => .ok filter
  | some (.error ⟨filter, .crash⟩) => .error ⟨filter, .crash⟩
  | _ => parse level

def print (f : Filter) : Text :=
  List.intercalate [','] ((f.statics ++ f.dynamics).map Directive.print)

-- Does a directive apply to the events of a target with the given fields?
def applies (target : Text) (fields : List Text) (d : Directive) : Bool :=
  d.target?.all (fun t => t.isPrefixOf target) && d.field?.all fun f => fields.any (· = f.name)

-- Are errors of a target with the given fields shown? The first directive that applies decides.
def showsErrors (f : Filter) (target : Text) (fields : List Text) : Bool :=
  match f.statics.find? (applies target fields) with
  | some d => d.verbosity ≠ .off
  | none => false

end Filter
end Stencil.Log
