import VendorLaunch.CommandLine.Arguments
import VendorLaunch.CommandLine.Help

/-!
# The commands of the operator's tool

The tool has three subcommands: one verifies a vendor tree, one shows the candidate triples for this
platform, and one shows the binary that the launcher would run.
-/

namespace VendorLaunch.Operator

open CommandLine

/-- The options of the tool and its subcommands. -/
inductive Key where
  | version
  | verbose
  | quiet
  | debug
  | vendorRoot
  | required
  | json
  | help
  deriving DecidableEq, Repr

/-- The subcommands. -/
inductive Subcommand where
  | verify
  | targets
  | which
  deriving DecidableEq, Repr

/-- The name of the tool. -/
def name : String := "codex-infinity-vendor"

/-- What the tool says about its version. -/
def versionText : String := name ++ ", version 0.1.0"

/-- The option that asks for help. -/
def helpOption : OptionSpec Key where
  key := .help
  names := ["--help"]
  summary := "Show this message and exit."

/-- The option that asks for JSON. -/
def jsonOption : OptionSpec Key where
  key := .json
  names := ["--json-output", "--json"]
  summary := "Output as JSON."

/-- The option that names the vendor root. -/
def rootOption : OptionSpec Key where
  key := .vendorRoot
  names := ["--vendor-root"]
  valueName := some "DIRECTORY"
  summary := "Vendor tree root (default: the packaged vendor/ directory)."

/-- The option that names the required groups. -/
def requiredOption : OptionSpec Key where
  key := .required
  names := ["--required"]
  valueName := some "TEXT"
  summary := "Comma-separated platform labels, or \"any\" (default: all)."

namespace Subcommand

/-- All subcommands in alphabetic order. -/
def all : List Subcommand := [targets, verify, which]

/-- The name of a subcommand. -/
def name : Subcommand → String
  | verify => "verify"
  | targets => "targets"
  | which => "which"

/-- What a subcommand does. -/
def summary : Subcommand → String
  | verify => "Check that required platform binaries are vendored."
  | targets => "Show the detected platform and its candidate target triples."
  | which => "Show the binary codex-infinity would run."

/-- The options of a subcommand. -/
def options : Subcommand → List (OptionSpec Key)
  | verify => [requiredOption, jsonOption, helpOption]
  | targets | which => [jsonOption, helpOption]

/-- The command line of a subcommand. -/
def command (c : Subcommand) : Command Key where
  name := Operator.name ++ " " ++ c.name
  summary := c.summary
  options := c.options

/-- The subcommand with a name. -/
def ofName? (name : String) : Option Subcommand := all.find? fun c => c.name == name

end Subcommand

/-- The command line of the tool. -/
def tool : Command Key where
  name := name
  summary := "codex-infinity vendor tools — inspect and verify native binaries."
  options := [
    { key := .version, names := ["--version"], summary := "Show the version and exit." },
    { key := .verbose, letter := some 'v', names := ["--verbose"]
      summary := "Enable verbose output." },
    { key := .quiet, letter := some 'q', names := ["--quiet"]
      summary := "Suppress non-essential output." },
    { key := .debug, names := ["--debug"], summary := "Enable debug logging (very verbose)." },
    rootOption, helpOption]
  entries := Subcommand.all.map fun c => ⟨c.name, c.summary⟩

end VendorLaunch.Operator
