import Stencil.Text.Basic

/-!
The wording and the codes that the application chooses for its own errors.
-/
namespace Stencil

structure Messages where
  viewNotFound : Text := "View not found"
  viewNotFoundCode : Int := 404
  routeExists : Text := "Route already exists"
  routeExistsCode : Int := 409
deriving DecidableEq

end Stencil
