import VendorLaunch.FileTree
import VendorLaunch.Program.Interface
import VendorLaunch.Settings
import VendorLaunch.Text.Word

/-!
# What the operator asks for

The arguments of the tool, read into choices. A request for help or for the version comes before
everything that may be wrong with the values of options. The vendor root and the required groups
can also be given by environment variables, whose text is taken as it is unless it is empty; a
vendor root must not be a regular file.
-/

namespace VendorLaunch.Operator

open CommandLine

/-- Why the tool stops before a subcommand runs. -/
inductive Stop where
  /-- Help was asked for. -/
  | help (c : Command Key)
  /-- The version was asked for. -/
  | version
  /-- Nothing was asked for. -/
  | nothing (c : Command Key)
  /-- The arguments are wrong. -/
  | usage (c : Command Key) (e : UsageError)
  /-- A value cannot be looked at. -/
  | failed (cause : Failure)

/-- The choices for every subcommand. -/
structure GlobalChoices where
  verbose : Bool
  quiet : Bool
  debug : Bool
  root : Option Path
  deriving DecidableEq, Repr

/-- The choices for a subcommand. -/
structure Choices where
  required : Option String
  json : Bool
  deriving DecidableEq, Repr

/-- The text of a variable, unless it is empty. -/
def rawVariable? (env : Env) (name : String) : Option String :=
  match Table.find? name env with
  | some v => if v = "" then none else some v
  | none => none

/-- The value of an option, or of the variable that stands for it. -/
def valueOrVariable? (r : Reading Key) (key : Key) (env : Env) (name : String) : Option String :=
  match r.value? key with
  | some v => some v
  | none => rawVariable? env name

/-- The vendor root that a text names; a regular file is refused. -/
def rootOf (t : FileTree) (text : String) : Except Stop Path :=
  if text.toList.contains '\x00' then .error (.failed (.fault (.value "embedded null byte")))
  else
    match t.status text with
    | .ok (.file _) =>
      .error (.usage tool (.badValue "--vendor-root"
        ("Directory " ++ Text.quoted text ++ " is a file.")))
    | _ => .ok (Path.ofString text)

/-- The request for help or for the version that came first. -/
def firstRequest? (c : Command Key) (r : Reading Key) : Option Stop :=
  match r.firstOf? [.version, .help] with
  | some .version => some .version
  | some _ => some (.help c)
  | none => none

/-- The vendor root that was chosen, by the option or the variable. -/
def chosenRoot (t : FileTree) (env : Env) (r : Reading Key) : Except Stop (Option Path) :=
  match valueOrVariable? r .vendorRoot env vendorRootVar with
  | none => .ok none
  | some text => (rootOf t text).map some

/-- Reads the arguments of the tool; gives the choices and the rest. -/
def readTool (t : FileTree) (env : Env) (args : List String) :
    Except Stop (GlobalChoices × List String) :=
  if args.isEmpty then .error (.nothing tool)
  else
    match tool.read args with
    | .error e => .error (.usage tool e)
    | .ok r =>
      match firstRequest? tool r with
      | some stop => .error stop
      | none =>
        match chosenRoot t env r with
        | .error stop => .error stop
        | .ok root => .ok (⟨r.has .verbose, r.has .quiet, r.has .debug, root⟩, r.rest)

/-- Whether a name begins with a character that is neither a letter nor a number. -/
def looksLikeOption (name : String) : Bool :=
  match name.toList with
  | c :: _ => !Text.isWordChar c || c == '_'
  | [] => false

/-- The subcommand that the first argument names, and the arguments after it. What looks like an
option is read as one before it is refused as a name. -/
def chooseSubcommand (t : FileTree) (env : Env) :
    List String → Except Stop (Subcommand × List String)
  | [] => .error (.usage tool .missingCommand)
  | word :: args =>
    match Subcommand.ofName? word with
    | some c => .ok (c, args)
    | none =>
      let unknown := Stop.usage tool
        (.unknownCommand word (Text.similarWords word (Subcommand.all.map Subcommand.name)))
      if looksLikeOption word then
        match readTool t env (word :: args) with
        | .error stop => .error stop
        | .ok _ => .error unknown
      else .error unknown

/-- Reads the arguments of a subcommand. -/
def readSubcommand (c : Subcommand) (env : Env) (args : List String) : Except Stop Choices :=
  match c.command.read args with
  | .error e => .error (.usage c.command e)
  | .ok r =>
    match firstRequest? c.command r with
    | some stop => .error stop
    | none =>
      if r.rest.isEmpty then
        .ok ⟨valueOrVariable? r .required env requiredGroupsVar, r.has .json⟩
      else .error (.usage c.command (.extraArguments r.rest))

end VendorLaunch.Operator
