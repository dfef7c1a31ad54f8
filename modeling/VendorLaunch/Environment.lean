import VendorLaunch.Settings
import VendorLaunch.Text.Word
import VendorLaunch.Vendor

/-!
# The environment of the child

The child gets the environment of the launcher with two changes. The directory of helper
executables, if there is one, comes first on the search path, of which empty entries are dropped.
And a marker names the package manager that installed the launcher, as far as it can be guessed.
-/

namespace VendorLaunch

/-- The package managers that can have installed the launcher. -/
inductive PackageManager where
  | npm
  | bun
  | unknown
  deriving DecidableEq, Repr

namespace PackageManager

/-- The name of a package manager. -/
def name : PackageManager → String
  | npm => "npm"
  | bun => "bun"
  | unknown => "unknown"

/-- The package managers. -/
def all : List PackageManager := [npm, bun, unknown]

/-- The package manager with a name. -/
def ofName (s : String) : Except Fault PackageManager :=
  match all.find? fun m => m.name = s with
  | some m => .ok m
  | none => .error (.value (Text.quoted s ++ " is not a valid PackageManager"))

/-- The variable that holds the user agent of the package manager. -/
def userAgentVar : String := "npm_config_user_agent"

/-- The variable that holds the program of the package manager. -/
def programVar : String := "npm_execpath"

/-- The directories below which bun installs globally. -/
def bunDirs : List String := [".bun/install/global", ".bun\\install\\global"]

/-- The package manager that most likely installed the launcher into a directory. -/
def guess (env : Env) (installDir : String) : PackageManager :=
  let agent := (Table.find? userAgentVar env).getD ""
  if Text.startsWordWith "bun/" agent then bun
  else if Text.contains "bun" ((Table.find? programVar env).getD "") then bun
  else if bunDirs.any fun d => Text.contains d installDir then bun
  else if agent != "" then npm
  else unknown

end PackageManager

/-! ### The search path -/

/-- The entries of a search path; empty ones are dropped. -/
def pathEntries (sep existing : String) : List String :=
  (Text.splitOn sep existing).filter (· ≠ "")

/-- Directories followed by the entries of a search path, for a separator that is not empty. -/
def searchEntries (sep : String) (dirs : List String) (existing : String) : String :=
  Text.joinWith sep (dirs ++ pathEntries sep existing)

/-- Directories followed by the entries of a search path. -/
def searchPath (sep : String) (dirs : List String) (existing : String) : Except Fault String :=
  if sep = "" then .error (.value "empty separator") else .ok (searchEntries sep dirs existing)

/-- The variable that holds the search path. -/
def pathVar : String := "PATH"

/-- The character between the entries of the search path. -/
def pathSeparator : String := ":"

/-- The variable that tells the child who installed the launcher. -/
def managedByVar : String := "CODEX_INFINITE_MANAGED_BY"

/-- The environment of the child when its helper directories are `dirs`. -/
def environmentWith (dirs : List String) (base : Env) (manager : PackageManager) : Env :=
  let path := searchEntries pathSeparator dirs ((Table.find? pathVar base).getD "")
  Table.insert managedByVar manager.name (Table.insert pathVar path base)

/-- The environment of the child for a build. -/
def Build.environment (e : Build) (t : FileTree) (base : Env) (manager : PackageManager) :
    Except Fault Env :=
  match e.hasHelpers t with
  | .error f => .error f
  | .ok has => .ok (environmentWith (if has then [e.helpers.render] else []) base manager)

end VendorLaunch
