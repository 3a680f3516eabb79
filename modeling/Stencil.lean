import Stencil.Main
import Stencil.Proofs.Directive.Grammar
import Stencil.Proofs.Route.Slots
import Stencil.Proofs.View.Confinement
import Stencil.Proofs.View.Escaping
import Stencil.Proofs.View.Expandable
import Stencil.Proofs.View.Inlining
import Stencil.Route.Json
import Stencil.Settings.Json
import Stencil.Proofs.View.Leftover
import Stencil.Proofs.View.Survival
import Stencil.Proofs.View.Failure
import Stencil.Proofs.View.Counters
import Stencil.Proofs.View.Limit
import Stencil.Proofs.CommandLine.Outcome
import Stencil.Proofs.Settings.Layering
import Stencil.Proofs.Directive.Offsets
import Stencil.Proofs.Route.Build
import Stencil.Proofs.Route.Names
import Stencil.Proofs.View.Naming
import Stencil.Proofs.CommandLine.Precedence
import Stencil.Proofs.Json.Printed
import Stencil.Proofs.Time.Printed
import Stencil.Proofs.Route.Record
import Stencil.Proofs.Settings.Kind
import Stencil.Proofs.Json.Record
import Stencil.Proofs.Settings.Document
import Stencil.Proofs.Settings.Agreement
import Stencil.Proofs.Settings.Variable
import Stencil.Proofs.View.Termination
import Stencil.Proofs.Directive.Literal
