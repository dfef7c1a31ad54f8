import VendorLaunch.Catalog.Packaged
import VendorLaunch.Json
import VendorLaunch.Launch
import VendorLaunch.Program.Choices
import VendorLaunch.Program.Session
import VendorLaunch.Verify

/-!
# The operator's tool

Runs of the three subcommands. Each of them prints text or, if asked to, JSON, and ends with the
status 0 or 1; what was asked for and what is the matter decide the status, not the form of the
output. The settings are read and the log is set up when the subcommand is known and before its
own arguments are read.
-/

namespace VendorLaunch.Operator

open CommandLine

/-! ### Output -/

/-- A failure on standard error. -/
def failureLine (e : Failure) : String := "❌ " ++ e.message

/-- Texts as data. -/
def textList (ts : List String) : Data := .list (ts.map .text)

/-- Named fields as data. -/
def record (fields : List (String × Data)) : Data := .dict (fields.map fun f => (.text f.1, f.2))

/-- Prints data as JSON. -/
def printJson (s : Session) (style : Json.Style) (fields : List (String × Data)) : Session :=
  s.print (Json.render style 0 (record fields))

/-- A launcher error, as JSON or as a line; any other failure is not handled. -/
def refuse (s : Session) (json : Bool) (style : Json.Style) (fields : List (String × Data))
    (e : Failure) : Session × Ending :=
  if json then (printJson s style fields, .exit 1) else (s.complain (failureLine e), .exit 1)

/-! ### The subcommands -/

/-- What was verified, as text. -/
def printReport (s : Session) (quiet : Bool) (r : Report) : Session :=
  if r.ok then
    if quiet then s
    else s.print ("✅ Vendor tree complete (" ++ r.mode.name ++ "): " ++
      Text.joinWith ", " r.present)
  else r.explanation.foldl Session.complain s

/-- Verifies the vendor tree at `root`. -/
def verify (root : Path) (required : Option String) (json quiet : Bool) (s : Session) :
    Session × Ending :=
  let verified := Catalog.packaged.verify s.tree root (Selection.parse required)
  let s := s.noteAll (s.reading ++ verified.log)
  match verified.result with
  | .ok r =>
    (if json then s.print (Json.render Json.indentedRaw 0 r.toData) else printReport s quiet r,
      .exit r.status)
  | .error (.unknownGroup requested valid) =>
    let e := Failure.unknownGroup requested valid
    refuse s json Json.indented
      [("ok", .bool false), ("error", .text e.message), ("valid", textList valid)] e
  | .error e => (s, .failed e)

/-- Numbered lines. -/
def numbered (n : Nat) : List String → List String
  | [] => []
  | t :: ts => ("  " ++ toString n ++ ". " ++ t) :: numbered (n + 1) ts

/-- Shows the platform of a host and its candidate triples. -/
def targets (host : Host) (json : Bool) (s : Session) : Session × Ending :=
  let detected := host.detect
  let s := s.noteAll detected.log
  match detected.result with
  | .error e => (s, .failed e)
  | .ok key =>
    let resolved := Catalog.packaged.resolve key
    let s := s.noteAll (s.reading ++ resolved.log)
    match resolved.result with
    | .error e =>
      if e.isLauncherError then
        refuse s json Json.compact [("platform", key.toData), ("error", .text e.message)] e
      else (s, .failed e)
    | .ok triples =>
      (if json then
          printJson s Json.indented [("platform", key.toData), ("targets", textList triples)]
        else (numbered 1 triples).foldl Session.print (s.print ("Platform: " ++ key.render)),
        .exit 0)

/-- The build that the launcher would run on a host. -/
def selectOn (t : FileTree) (host : Host) (root : Path) (reading : List LogRecord) :
    Logged Build := do
  let key ← host.detect
  Logged.noteAll reading
  Catalog.packaged.select t root key

/-- Prints a build; the helper directory counts only if it is there. -/
def printBuild (s : Session) (json : Bool) (e : Build) : Session × Ending :=
  let s := if json then s else s.print e.binary.render
  match e.hasHelpers s.tree with
  | .error f => (s, .failed (.fault f))
  | .ok has =>
    (if json then
        printJson s Json.indented [("ok", .bool true), ("triple", .text e.triple),
          ("binary", .text e.binary.render),
          ("path_dir", if has then .text e.helpers.render else .null)]
      else if has then s.print ("  PATH += " ++ e.helpers.render) else s,
      .exit 0)

/-- Shows the binary that the launcher would run. -/
def which (host : Host) (root : Path) (json : Bool) (s : Session) : Session × Ending :=
  let selected := selectOn s.tree host root s.reading
  let s := s.noteAll selected.log
  match selected.result with
  | .ok e => printBuild s json e
  | .error e =>
    if e.isLauncherError then
      refuse s json Json.indented [("ok", .bool false), ("error", .text e.message)] e
    else (s, .failed e)

/-! ### Runs -/

/-- The exit status of a usage error. -/
def usageStatus : Int := 2

/-- Stops before a subcommand runs. -/
def stop (s : Session) : Stop → Session × Ending
  | .help c => (s.print c.help, .exit 0)
  | .version => (s.print versionText, .exit 0)
  | .nothing c => (s.complain c.help, .exit usageStatus)
  | .usage c e => (s.complain (c.complaint e), .exit usageStatus)
  | .failed e => (s, .failed e)

/-- The level of the log: the most talkative choice, or that of the settings. -/
def GlobalChoices.level (g : GlobalChoices) (settings : Settings) : String :=
  if g.debug then "DEBUG"
  else if g.verbose then "INFO"
  else if g.quiet then "ERROR"
  else settings.logLevel

/-- The vendor root that the subcommands work on. -/
def GlobalChoices.rootOr (g : GlobalChoices) (settings : Settings) : Path :=
  g.root.getD settings.vendorRoot

/-- Runs a subcommand. -/
def runSubcommand (c : Subcommand) (host : Host) (root : Path) (g : GlobalChoices)
    (choices : Choices) (s : Session) : Session × Ending :=
  match c with
  | .verify => verify root choices.required choices.json g.quiet s
  | .targets => targets host choices.json s
  | .which => which host root choices.json s

/-- Reads the settings and sets the log up; gives the vendor root. -/
def prepare (i : Installation) (env : Env) (g : GlobalChoices) (s : Session) :
    Session × Except Fault Path :=
  match i.settings env with
  | .error f => (s, .error f)
  | .ok settings =>
    let request := { settings.logRequest name with level := g.level settings }
    match s.setUp request with
    | (s, .error f) => (s, .error f)
    | (s, .ok ()) => (s, .ok (g.rootOr settings))

/-- A run of the tool. -/
def run (i : Installation) (host : Host) (env : Env) (args : List String) (s : Session) :
    Session × Ending :=
  match readTool s.tree env args with
  | .error e => stop s e
  | .ok (g, rest) =>
    match chooseSubcommand s.tree env rest with
    | .error e => stop s e
    | .ok (c, args) =>
      match prepare i env g s with
      | (s, .error f) => (s, .failed (.fault f))
      | (s, .ok root) =>
        match readSubcommand c env args with
        | .error e => stop s e
        | .ok choices => runSubcommand c host root g choices s

end VendorLaunch.Operator
