import Stencil.Journal

/-!
Counters as text for a monitoring system: for every family a line that says what it counts, a line
that says it is a counter, and the values. Counters that never moved are left out, and so are families
without a value. How long a render takes is not counted.
-/
namespace Stencil.Metrics

structure Family where
  name : Text
  help : Text
  -- The counters, each with the label that tells it from the others.
  counters : List (Option (Text × Text) × Counter)

-- The families in the order of their names.
def families : List Family := [
  ⟨"ara_view_partials_included_total", "Total partial inclusions expanded", [(none, .included)]⟩,
  ⟨"ara_view_partials_missing_total", "Total include directives whose partial was missing",
    [(none, .missing)]⟩,
  ⟨"ara_view_renders_total", "Total view renders",
    [(some ("outcome", "error"), .error), (some ("outcome", "not_found"), .notFound),
      (some ("outcome", "ok"), .ok)]⟩,
  ⟨"ara_view_variables_substituted_total", "Total variable directives substituted",
    [(some ("source", "binding"), .binding), (some ("source", "default"), .default)]⟩]

def labelText : Option (Text × Text) → Text
  | none => []
  | some (name, value) => '{' :: name ++ "=\"" ++ value ++ "\"" ++ ['}']

def Family.lines (j : Journal) (f : Family) : List Text :=
  let values := f.counters.filterMap fun (label?, counter) =>
    let n := j.count counter
    if n = 0 then none else some (f.name ++ labelText label? ++ ' ' :: Text.ofNat n)
  if values = [] then []
  else ("# HELP " ++ f.name ++ ' ' :: f.help) :: ("# TYPE " ++ f.name ++ " counter") :: values

def lines (j : Journal) : List Text :=
  families.flatMap (Family.lines j)

end Stencil.Metrics
