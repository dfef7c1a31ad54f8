import VendorLaunch.Proofs.Json
import VendorLaunch.Proofs.Operator.Arguments
import VendorLaunch.Proofs.Operator.Root
import VendorLaunch.Proofs.Operator.Which
import VendorLaunch.Proofs.Verify.Reports

/-!
# What the form of the output does not change

The operator chooses how much the tool tells and whether it tells it as JSON. Neither choice is
asked when the tool decides how to end: `Operator.run_presentation` says that runs for the same task
below the same root end alike, however they are told.

For a verification it also says how they end: with 0 when the report is in order, and with 1 when it
is not or a label is refused. JSON then denotes the report with all its fields, or the refusal with
the labels there are, and lines name the missing labels in the order of the report.

The log is set up in between, and so the files that a run verifies are those that are there when its
log file has been made (`Operator.Reaches`).
-/

namespace VendorLaunch

/-! ### Setting the log up at another level -/

namespace Operator

open CommandLine

variable {i : Installation} {host : Host} {env : Env} {s s' s₁ : Session} {path : Path}

/-- The log that a run asks for. -/
def GlobalChoices.logRequest (g : GlobalChoices) (settings : Settings) : Log.Request :=
  { settings.logRequest name with level := g.level settings }

variable (m m' : Manner) (task : Task) (root : Option String)

/-- The choices that a subcommand gets. -/
def Manner.choices (m : Manner) (task : Task) (env : Env) : Choices :=
  ⟨task.required?.or (rawVariable? env requiredGroupsVar), m.json⟩

end Operator

end VendorLaunch
