import VendorLaunch.Catalog.Packaged
import VendorLaunch.Exit
import VendorLaunch.Launch
import VendorLaunch.Program.Session

/-!
# The launcher

The launcher reads its settings from the environment, sets its log up, launches the binary with its
own arguments unchanged, and ends as the child ended. A failure of its own is one line on standard
error and the exit status 1.
-/

namespace VendorLaunch

namespace Launcher

/-- The name of the program. -/
def name : String := "codex-infinity"

/-- The name under which the program writes to the log. -/
def logger : String := "codex_launcher.main"

/-- What the program launches, with the file of the catalog if it was not read before. -/
def request (settings : Settings) (env : Env) (args : List String) (unread : Option Path) :
    LaunchRequest where
  args := args
  root := some settings.vendorRoot
  key := none
  env := env
  catalog := .packaged
  unread := unread

/-- Tells a failure of the launcher's own from any other. The record in the log does not say where
the failure comes from. -/
def refuse (s : Session) (e : Failure) : Session × Ending :=
  if e.isLauncherError then
    ((s.note (.debug logger "Launch failed")).complain (name ++ ": " ++ e.message), .exit 1)
  else (s, .failed e)

/-- Launches the binary and ends as it ended. -/
def runChild (site : Site) (settings : Settings) (env : Env) (args : List String) (s : Session)
    (m : Machine) : Session × Machine × Ending :=
  let (launched, result) :=
    (request settings env args s.unread).run { site with tree := s.tree } m
  let s := s.noteAll (launched.log.drop m.log.length)
  match result with
  | .error e =>
    let (s, ending) := refuse s e
    (s, launched, ending)
  | .ok result =>
    let (ended, status) := launched.endAs result
    let s := s.noteAll (ended.log.drop launched.log.length)
    (s, ended, match status with
      | .ok n => .exit n
      | .error f => .failed (.fault f))

/-- A run of the launcher. -/
def run (site : Site) (env : Env) (args : List String) (s : Session) (m : Machine) :
    Session × Machine × Ending :=
  match site.installation.settings env with
  | .error f => (s, m, .failed (.fault f))
  | .ok settings =>
    match s.setUp (settings.logRequest name) with
    | (s, .error f) => (s, m, .failed (.fault f))
    | (s, .ok ()) => runChild site settings env args s m

end Launcher

end VendorLaunch
