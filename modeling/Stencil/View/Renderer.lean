import Stencil.Settings.Basic
import Stencil.View.Expansion
import Stencil.View.Substitution

/-!
Rendering finds a view, expands it and substitutes its variables. Every render counts once, by its
outcome.
-/
namespace Stencil.View

structure Renderer where
  resolver : Resolver
  maxDepth : Nat
  messages : Messages

namespace Renderer

def ofSettings (s : Settings) : Renderer where
  resolver := .ofSettings s.views.path s.views.extension
  maxDepth := s.views.maxIncludeDepth
  messages := s.messages

variable (r : Renderer)

def notFound (name : Text) : Error :=
  .notFound name r.messages.viewNotFound r.messages.viewNotFoundCode

def compile (tree : FileTree) (name : Text) (b : Bindings) : Recorded Error Text := do
  let path := r.resolver.resolve name
  if !tree.isFile path then
    Recorded.note (.viewMissing path)
    Recorded.fail (r.notFound name)
  else
    match ← Site.expand ⟨tree, r.resolver⟩ r.maxDepth path with
    | none => Recorded.fail (r.notFound name)
    | some text => ⟨substitutionNotes b text, .ok (substitute b text)⟩

-- The note that a render ends with.
def outcome : Except Error Text → Note
  | .ok text => .rendered text.byteLength
  | .error (.notFound ..) => .renderNotFound
  | .error _ => .renderFailed

def render (tree : FileTree) (name : Text) (b : Bindings) : Recorded Error Text :=
  let compiled := r.compile tree name b
  ⟨compiled.journal ++ [outcome compiled.result], compiled.result⟩

end Renderer
end Stencil.View
