import VendorLaunch.Catalog.File
import VendorLaunch.Environment
import VendorLaunch.Relay

/-!
# Launching the binary

A launch is planned first and run second. The plan says what to run: the binary for the platform,
found in the vendor tree and fit for the C library, the arguments unchanged, and the environment
of the child. While a plan is made nothing happens to the system. Then the child is run with the
signals of the launcher relayed to it.
-/

namespace VendorLaunch

/-- What a launch is asked for. -/
structure LaunchRequest where
  /-- The arguments of the child. -/
  args : List String
  /-- The vendor root; the one of the settings when it is not given. -/
  root : Option Path
  /-- The platform; the one of the host when it is not given. -/
  key : Option Platform
  /-- The environment of the launcher. -/
  env : Env
  catalog : Catalog
  /-- The file of the catalog, when the launch is the first to need it. -/
  unread : Option Path := none

/-- Where a launch takes place. -/
structure Site where
  installation : Installation
  host : Host
  tree : FileTree

namespace LaunchRequest

/-- The vendor root of a launch. -/
def rootAt (r : LaunchRequest) (site : Site) : Except Fault Path :=
  match r.root with
  | some root => .ok root
  | none => site.installation.vendorRoot r.env

/-- The platform of a launch. -/
def platformAt (r : LaunchRequest) (site : Site) : Logged Platform :=
  match r.key with
  | some key => pure key
  | none => site.host.detect

/-- The package manager that a launch is attributed to. -/
def managerAt (r : LaunchRequest) (site : Site) : PackageManager :=
  PackageManager.guess r.env site.installation.package.render

/-- The child that a launch runs. -/
def plan (r : LaunchRequest) (site : Site) : Logged Child := do
  let root ← Logged.ofFault (r.rootAt site)
  let key ← r.platformAt site
  Logged.noteAll (r.catalog.reading r.unread)
  let e ← r.catalog.select site.tree root key
  let manager := r.managerAt site
  let env ← Logged.ofFault (e.environment site.tree r.env manager)
  Logged.note (.info launchLogger
    ("Launching " ++ e.binary.render ++ " (" ++ e.triple ++ ", managed by " ++ manager.name ++ ")"))
  return { binary := e.binary, args := r.args, env := env }

/-- Plans a launch and runs the child. -/
def run (r : LaunchRequest) (site : Site) (m : Machine) : Machine × Except Failure Termination :=
  let plan := r.plan site
  let m := { m with log := m.log ++ plan.log }
  match plan.result with
  | .error e => (m, .error e)
  | .ok child => (m.setChild 0 child).superviseChild 0

end LaunchRequest

end VendorLaunch
