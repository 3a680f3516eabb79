import Stencil.Bindings
import Stencil.FileTree

/-!
Why a view cannot be rendered.
-/
namespace Stencil.View

inductive Error
  | notFound (name message : Text) (code : Int)
  -- The files from the outermost view to the one that is about to be included again.
  | cycle (chain : List Path)
  | tooDeep (target : Text) (limit : Nat)
  | unreadable (path : Path) (failure : FileTree.Failure)
  | badBindings (cause : Bindings.Error)
deriving DecidableEq

namespace Error

def message : Error → Text
  | notFound name message _ => message ++ ": " ++ name
  | cycle chain => "Inclusion cycle detected: " ++ List.intercalate " -> ".toList (chain.map Path.text)
  | tooDeep target limit =>
    "Maximum include depth of " ++ Text.ofNat limit ++ " exceeded while including '" ++ target ++ "'"
  | unreadable path failure => "Failed to read view " ++ path.text ++ ": " ++ failure.message
  | badBindings cause => "Invalid bindings: " ++ cause.message

-- The code that the application chose for the error.
def external? : Error → Option Int
  | notFound _ _ code => some code
  | _ => none

end Error
end Stencil.View
