import VendorLaunch.Fault
import VendorLaunch.Path
import VendorLaunch.Validation

/-!
# Failures

Why an operation of the library has no result. Six causes are the launcher's own: each of them is
a defect of the environment or the packaging that an operator has to mend, and `isLauncherError`
tells them from the rest. The rest are data that do not fit a model, and faults of the
surroundings that nobody handles.
-/

namespace VendorLaunch

/-- The command that fills a vendor tree. -/
def installCommand : String :=
  "python3 scripts/install_native_deps.py --component codex --component rg"

/-- What is wrong with a catalog file. -/
inductive CatalogDefect where
  /-- No file is there. -/
  | notFound
  /-- The file cannot be read. -/
  | unreadable (cause : Fault)
  /-- The file is not well-formed. -/
  | malformed
  /-- The file holds something else than a mapping. -/
  | notMapping (kindName : String)
  /-- The mapping is no catalog. -/
  | invalid (violations : List Violation)
  deriving DecidableEq, Repr

/-- Why an operation has no result. -/
inductive Failure where
  /-- A catalog file cannot be used. -/
  | catalog (path : Path) (defect : CatalogDefect)
  /-- No rule of the catalog is about this platform. -/
  | unsupportedPlatform (osFamily arch : String)
  /-- None of the triples has a binary under the root. -/
  | missingBinary (triples : List String) (root : Path)
  /-- Only a glibc build is there, on a system without glibc. -/
  | incompatibleLibc (triple : String)
  /-- The system refused to start the binary. -/
  | spawn (binary : Path) (cause : Fault)
  /-- Labels were asked for that no group has. -/
  | unknownGroup (requested valid : List String)
  /-- Data that do not fit the named model. -/
  | invalid (model : String) (violations : List Violation)
  /-- A fault of the surroundings. -/
  | fault (cause : Fault)
  deriving DecidableEq, Repr

/-- The number of violations of a model, in words. -/
def violationCount (model : String) (violations : List Violation) : String :=
  toString violations.length ++ " validation error(s) for " ++ model

/-- What is wrong with the catalog file at `path`, in words. -/
def CatalogDefect.message (path : Path) : CatalogDefect → String
  | notFound => "Target catalog not found: " ++ path.render
  | unreadable cause => "Cannot read " ++ path.render ++ ": " ++ cause.text
  | malformed => "Invalid YAML in " ++ path.render
  | notMapping k => "Expected a YAML mapping in " ++ path.render ++ ", got " ++ k
  | invalid vs =>
    "Invalid target catalog " ++ path.render ++ ": " ++ violationCount "TargetCatalog" vs

namespace Failure

/-- Whether the failure is one of the launcher's own. -/
def isLauncherError : Failure → Bool
  | invalid .. | fault _ => false
  | _ => true

/-- The name of the kind of a failure. -/
def kind : Failure → String
  | catalog .. => "CatalogError"
  | unsupportedPlatform .. => "UnsupportedPlatform"
  | missingBinary .. => "MissingBinary"
  | incompatibleLibc _ => "IncompatibleLibc"
  | spawn .. => "SpawnFailure"
  | unknownGroup .. => "UnknownTargetGroup"
  | invalid .. => "ValidationError"
  | fault f => f.kind

/-- A failure in words. -/
def message : Failure → String
  | catalog path defect => defect.message path
  | unsupportedPlatform os arch => "Unsupported platform: " ++ os ++ " (" ++ arch ++ ")"
  | missingBinary triples root =>
    "No binary found under " ++ root.render ++ ". Tried: " ++ Text.joinWith ", " triples ++
      ". This usually means the package was published without native binaries. " ++
      "Reinstall from a fixed release or ask the publisher to populate vendor/ " ++
      "before publishing (" ++ installCommand ++ ")."
  | incompatibleLibc triple =>
    "This release does not include a musl build of Codex. " ++
      "Your system does not appear to be running glibc, so the bundled GNU binary (" ++ triple ++
      ") will not run. Use a glibc-based Linux distribution or install a musl-compatible build."
  | spawn binary cause => "Failed to start " ++ binary.render ++ ": " ++ cause.text
  | unknownGroup requested valid =>
    "CODEX_INFINITY_REQUIRED_GROUPS did not match known targets (" ++
      Text.joinWith ", " requested ++ "). Valid values: " ++ Text.joinWith ", " valid ++
      " or \"any\"."
  | invalid model violations => violationCount model violations
  | fault f => f.text

/-- The violations that come with a failure. -/
def violations : Failure → List Violation
  | catalog _ (.invalid vs) | invalid _ vs => vs
  | _ => []

end Failure

end VendorLaunch
