import Stencil.Environment.Basic
import Stencil.Path

/-!
The arguments of the command, read from left to right. An option takes its value from its own
argument, or else from the next one unless that looks like an option too. After two dashes every
argument is a name.
-/
namespace Stencil.CommandLine

inductive Flag
  | config
  | views
  | extension
  | assignment
  | bindings
  | metrics
  | help
  | version
deriving DecidableEq

namespace Flag

def takesValue : Flag → Bool
  | config | views | extension | assignment | bindings => true
  | metrics | help | version => false

def longNames : List (Text × Flag) :=
  [("config", config), ("views", views), ("extension", extension), ("var", assignment),
    ("vars-file", bindings), ("metrics", metrics), ("help", help), ("version", version)]

def shortNames : List (Char × Flag) :=
  [('c', config), ('D', assignment), ('h', help), ('V', version)]

end Flag

-- What the arguments spell out.
inductive Item
  | name (t : Text)
  | option (f : Flag) (value : Text)
  | switch (f : Flag)
  | invalid
deriving DecidableEq

namespace Item

-- The items of one argument, and the option at its end that still needs a value.
abbrev Spelled := List Item × Option Flag

-- An argument after two dashes.
def long (word : Text) : Spelled :=
  match Text.splitFirst '=' word with
  | some (key, value) =>
    match Flag.longNames.lookup key with
    | some f => if f.takesValue then ([option f value], none) else ([invalid], none)
    | none => ([invalid], none)
  | none =>
    match Flag.longNames.lookup word with
    | some f => if f.takesValue then ([], some f) else ([switch f], none)
    | none => ([invalid], none)

-- An argument after one dash: options of one letter, and the value of the last of them.
def short : Text → Spelled
  | [] => ([], none)
  | c :: rest =>
    match Flag.shortNames.lookup c with
    | none => ([invalid], none)
    | some f =>
      if f.takesValue then
        match rest with
        | [] => ([], some f)
        | '=' :: value => ([option f value], none)
        | value => ([option f value], none)
      else
        let (items, pending?) := short rest
        (switch f :: items, pending?)

-- Does an argument look like an option? A lone dash does not.
def isOption (argument : Text) : Bool :=
  argument.head? = some '-' && 1 < argument.length

def ofArgument (argument : Text) : Spelled :=
  if !isOption argument then ([name argument], none)
  else match argument.tail with
    | '-' :: word => long word
    | letters => short letters

def ofArguments : List Text → List Item
  | [] => []
  | argument :: rest =>
    if argument = ['-', '-'] then rest.map name
    else
      match ofArgument argument, rest with
      | (items, none), rest => items ++ ofArguments rest
      | (items, some _), [] => items ++ [invalid]
      | (items, some f), value :: rest =>
        if isOption value then items ++ [invalid] else items ++ option f value :: ofArguments rest

end Item

-- What to render, and how.
structure Options where
  name : Text
  config? : Option Path
  views? : Option Path
  extension? : Option Text
  assignments : List Text
  bindings? : Option Path
  metrics : Bool
deriving DecidableEq

inductive Request
  | render (o : Options)
  | help
  | version
  | misuse
deriving DecidableEq

-- The options that have been read. Each may be given once, except for assignments.
structure Draft where
  name? : Option Text := none
  config? : Option Path := none
  views? : Option Path := none
  extension? : Option Text := none
  assignments : List Text := []
  bindings? : Option Path := none
  metrics : Bool := false
deriving DecidableEq

namespace Draft

-- The value of an option that was not there yet.
def first? (old? : Option α) (a : α) : Option (Option α) :=
  if old?.isSome then none else some (some a)

-- Paths may not be empty.
def path? (t : Text) : Option Path :=
  if t = [] then none else some ⟨t⟩

def add? (d : Draft) : Item → Option Draft
  | .name t => do return { d with name? := ← first? d.name? t }
  | .option .config t => do return { d with config? := ← first? d.config? (← path? t) }
  | .option .views t => do return { d with views? := ← first? d.views? (← path? t) }
  | .option .bindings t => do return { d with bindings? := ← first? d.bindings? (← path? t) }
  | .option .extension t => do return { d with extension? := ← first? d.extension? t }
  | .option .assignment t => some { d with assignments := d.assignments ++ [t] }
  | .switch .metrics => if d.metrics then none else some { d with metrics := true }
  | _ => none

-- The variable that names a file of settings when no option does.
def configVariable : Text := "ARA_CONFIG"

def finish (env : Environment) (d : Draft) : Request :=
  let config? := match d.config?, env.find? configVariable with
    | none, some t => (path? t).map some
    | given?, _ => some given?
  match d.name?, config? with
  | some name, some config? =>
    .render ⟨name, config?, d.views?, d.extension?, d.assignments, d.bindings?, d.metrics⟩
  | _, _ => .misuse

end Draft

namespace Request

-- The first item that asks for help or the version, or that is wrong, decides.
def ofItems (env : Environment) (d : Draft) : List Item → Request
  | [] => d.finish env
  | .switch .help :: _ => help
  | .switch .version :: _ => version
  | item :: rest =>
    match d.add? item with
    | some d => ofItems env d rest
    | none => misuse

def ofArguments (env : Environment) (arguments : List Text) : Request :=
  ofItems env {} (Item.ofArguments arguments)

end Request
end Stencil.CommandLine
