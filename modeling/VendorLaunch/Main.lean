import VendorLaunch.Program.Operator

/-!
# The operator's tool on a real system

The outer layer of the tool: it looks at the environment, the host and the files that a run may
depend on, runs the tool on what it has seen, and writes down what the run leaves behind. What the
tool does is decided by `Operator.run` alone.
-/

open VendorLaunch

namespace VendorLaunch.Outside

/-- What an open path is: a directory cannot be read. -/
def kindOf (handle : IO.FS.Handle) : IO Node := do
  try
    let _ ← handle.read 1
    return .file []
  catch _ =>
    return .directory

/-- What stands at a path text; a file is looked at, but its content is not kept. -/
def look (path : String) : IO (Option Node) := do
  try
    return some (← kindOf (← IO.FS.Handle.mk path .read))
  catch _ =>
    return none

/-- Adds what stands at a path text to a tree. -/
def addPath (t : FileTree) (path : String) : IO FileTree := do
  match ← look path with
  | some n => return t.put path n
  | none => return t

/-- The text of a small file, or nothing. -/
def textOf (path : String) : IO String := do
  try
    IO.FS.readFile path
  catch _ =>
    return ""

/-- The environment variables that a run looks at. -/
def environment : IO Env := do
  let names := ["HOME", vendorRootVar, requiredGroupsVar, logLevelVar, logFileVar, logFileLevelVar]
  let bindings ← names.mapM fun n => do return (← IO.getEnv n).map fun v => (n, v)
  return bindings.filterMap id

/-- The home directories in an account file. -/
def homesOf (text : String) : Table String String :=
  (Text.splitOn "\n" text).filterMap fun l =>
    match Text.splitOn ":" l with
    | name :: _ :: _ :: _ :: _ :: home :: _ => some (name, home)
    | _ => none

/-- The dynamic loaders of glibc. -/
def loaders : List String := ["/lib64/ld-linux-x86-64.so.2", "/lib/ld-linux-aarch64.so.1"]

/-- What the system says about itself. -/
def host : IO Host := do
  let system := Text.trim (← textOf "/proc/sys/kernel/ostype")
  let machine := Text.trim (← textOf "/proc/sys/kernel/arch")
  let found ← loaders.filterM fun p => do return (← look p).isSome
  return { system := system, machine := machine, configured := .ok none
           linked := .ok (if found.isEmpty then "" else Host.glibc, "") }

/-- The vendor root that a run works on, as far as it can be known beforehand. -/
def rootOfRun (i : Installation) (env : Env) (args : List String) : Option Path :=
  match Operator.readTool (FileTree.empty []) env args, i.settings env with
  | .ok (choices, _), .ok settings => some (choices.rootOr settings)
  | _, _ => none

/-- The paths below a vendor root that a run looks at. -/
def watched (root : Path) : List String :=
  root.render :: Catalog.packaged.triples.flatMap fun t =>
    let e := Catalog.packaged.build root t
    [e.binary.render, e.helpers.render]

/-- The files that a run may depend on. -/
def snapshot (i : Installation) (env : Env) (args : List String) : IO FileTree := do
  let here := (Path.ofString (← IO.currentDir).toString).parts
  let below := match rootOfRun i env args with
    | some root => watched root
    | none => []
  let log := match Env.setting? env logFileVar with
    | some f => [(Path.mk (Path.ofString f).anchor (Path.ofString f).parts.dropLast).render, f]
    | none => []
  (below ++ log).foldlM addPath (FileTree.empty here)

/-- The first number in a text. -/
def numberIn (text : String) : Int :=
  let digits := (text.toList.dropWhile (!·.isDigit)).takeWhile Char.isDigit
  (String.ofList digits).toInt?.getD 0

/-- The time in seconds: when the system was started, and how long ago that was. -/
def now : IO Int := do
  let started := (Text.splitOn "\n" (← textOf "/proc/stat")).find? (Text.startsWith "btime")
  return numberIn (started.getD "") + numberIn (← textOf "/proc/uptime")

/-- Appends what a run has logged to the log file. -/
def keepLog (env : Env) (t : FileTree) : IO Unit := do
  if let some f := Env.setting? env logFileVar then
    if let some bytes := t.bytesAt? f then
      let handle ← IO.FS.Handle.mk f .append
      handle.write (ByteArray.mk bytes.toArray)

end VendorLaunch.Outside

open VendorLaunch.Outside in
/-- Runs the operator's tool. -/
def main (args : List String) : IO UInt32 := do
  let env ← environment
  let installation : Installation := {
    package := Path.ofString (← IO.appDir).toString
    home := Table.find? "HOME" env
    accounts := homesOf (← textOf "/etc/passwd") }
  let session : Session := {
    tree := ← snapshot installation env args
    seconds := ← now
    process := numberIn (← textOf "/proc/self/stat")
    unread := some installation.catalogFile }
  let (session, ending) := Operator.run installation (← host) env args session
  IO.print session.out
  IO.eprint session.err
  keepLog env session.tree
  match ending with
  | .exit status => return UInt32.ofNat status.toNat
  | .failed e =>
    IO.eprintln (e.kind ++ ": " ++ e.message)
    return 1
