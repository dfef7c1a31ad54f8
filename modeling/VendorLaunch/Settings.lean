import VendorLaunch.Failure
import VendorLaunch.Table
import VendorLaunch.Text.Blank

/-!
# Settings

The settings of a run come from environment variables alone. A variable is trimmed, and one that
is absent or blank counts as unset. The vendor root may begin with the home directory of a user,
written with a tilde; it is looked up in the process environment or in the account table, and a
user who has none is a fault.
-/

namespace VendorLaunch

/-- Environment variables in order. -/
abbrev Env := Table String String

/-- Where the launcher is installed and what it knows of its users. -/
structure Installation where
  /-- The directory of the launcher itself. -/
  package : Path
  /-- The home directory named by the process environment. -/
  home : Option String
  /-- The home directories of the users that have an account. -/
  accounts : Table String String
  /-- The home directory of the user who runs the launcher. -/
  ownHome : String := "/root"

/-- The vendor tree that comes with the launcher. -/
def Installation.defaultRoot (i : Installation) : Path := i.package.join "vendor"

/-- The file of the catalog that comes with the launcher. -/
def Installation.catalogFile (i : Installation) : Path := i.package.join "core/data/targets.yml"

/-! ### Home directories -/

/-- The text without trailing slashes; a root stays a slash. -/
def withoutTrailingSlashes (s : String) : String :=
  let cs := (s.toList.reverse.dropWhile (· = '/')).reverse
  if cs.isEmpty then "/" else String.ofList cs

/-- The fault of a home directory that nobody knows. -/
def unknownHome : Fault := .runtime "Could not determine home directory."

/-- The home directory that a first component names, the tilde in front. -/
def Installation.homeOf (i : Installation) (name : String) : Except Fault String :=
  if name = "" then .ok (withoutTrailingSlashes (i.home.getD i.ownHome))
  else if name.toList.contains '\x00' then .error (.value "embedded null byte")
  else
    match Table.find? name i.accounts with
    | some h => .ok (withoutTrailingSlashes h)
    | none => .error unknownHome

/-- The path with a home directory in place of a first component that begins with a tilde. -/
def Installation.expandHome (i : Installation) (p : Path) : Except Fault Path :=
  match p.anchor, p.parts with
  | .here, first :: rest =>
    match first.toList with
    | '~' :: name =>
      match i.homeOf (String.ofList name) with
      | .error f => .error f
      | .ok home =>
        if Text.startsWith "~" home then .error unknownHome
        else .ok ((Path.ofString home).append ⟨.here, rest⟩)
    | _ => .ok p
  | _, _ => .ok p

/-! ### Variables -/

/-- The variable that names the vendor root. -/
def vendorRootVar : String := "CODEX_INFINITY_VENDOR_ROOT"
/-- The variable that names the required groups. -/
def requiredGroupsVar : String := "CODEX_INFINITY_REQUIRED_GROUPS"
/-- The variable that sets the level of the log. -/
def logLevelVar : String := "CODEX_LAUNCHER_LOG_LEVEL"
/-- The variable that names the log file. -/
def logFileVar : String := "CODEX_LAUNCHER_LOG_FILE"
/-- The variable that sets the level of the log file. -/
def logFileLevelVar : String := "CODEX_LAUNCHER_LOG_FILE_LEVEL"

/-- The level of the log when nothing sets it. -/
def defaultLogLevel : String := "WARNING"

/-- The settings of a run. -/
structure Settings where
  vendorRoot : Path
  requiredGroups : Option String
  logLevel : String
  logFile : Option String
  logFileLevel : Option String
  deriving DecidableEq, Repr

/-- The trimmed value of a variable, unless it is absent or blank. -/
def Env.setting? (env : Env) (name : String) : Option String :=
  match Table.find? name env with
  | none => none
  | some v =>
    let v := Text.trim v
    if v = "" then none else some v

/-- The vendor root that an environment names, or the default one. -/
def Installation.vendorRoot (i : Installation) (env : Env) : Except Fault Path :=
  match Env.setting? env vendorRootVar with
  | none => .ok i.defaultRoot
  | some v => i.expandHome (Path.ofString v)

/-- The settings of a run with an environment. -/
def Installation.settings (i : Installation) (env : Env) : Except Fault Settings :=
  match i.vendorRoot env with
  | .error f => .error f
  | .ok root => .ok {
      vendorRoot := root
      requiredGroups := Env.setting? env requiredGroupsVar
      logLevel := (Env.setting? env logLevelVar).getD defaultLogLevel
      logFile := Env.setting? env logFileVar
      logFileLevel := Env.setting? env logFileLevelVar }

/-- The settings as data. -/
def Settings.toData (s : Settings) : Data :=
  let opt := fun (v : Option String) => match v with
    | some t => Data.text t
    | none => Data.null
  .dict [(.text "vendor_root", .text s.vendorRoot.render),
    (.text "required_groups", opt s.requiredGroups), (.text "log_level", .text s.logLevel),
    (.text "log_file", opt s.logFile), (.text "log_file_level", opt s.logFileLevel)]

end VendorLaunch
