import VendorLaunch.CommandLine.Command
import VendorLaunch.CommandLine.UsageError
import VendorLaunch.Text.Similar

/-!
# Reading arguments

Arguments are read from left to right, and the first one that is wrong ends the reading. An
argument of at least two characters that begins with a dash is an option. It is tried as a name
first, up to an equals sign, after which its value may stand; if no option has the name, then after
a single dash the letters of switches may stand together. Two dashes alone end the options.

A command with subcommands stops at the first argument that is no option. Any other command goes on
and collects the arguments that are none.
-/

namespace VendorLaunch.CommandLine

variable {κ : Type}

/-- Options with their values in the order of the command line, and the arguments that are none. -/
structure Reading (κ : Type) where
  given : List (κ × String)
  rest : List String
  deriving Repr

/-- Puts an option in front. -/
def Reading.give (r : Reading κ) (key : κ) (value : String) : Reading κ :=
  { r with given := (key, value) :: r.given }

/-- Puts switches in front. -/
def Reading.giveAll (r : Reading κ) (keys : List κ) : Reading κ :=
  { r with given := keys.map (fun k => (k, "")) ++ r.given }

/-- Puts an argument in front. -/
def Reading.keep (r : Reading κ) (argument : String) : Reading κ :=
  { r with rest := argument :: r.rest }

/-- Whether an argument is an option. -/
def isOption (argument : String) : Bool :=
  match argument.toList with
  | '-' :: _ :: _ => true
  | _ => false

/-- The name of an option and the value after the equals sign. -/
def nameAndValue (argument : String) : String × Option String :=
  match Text.splitOn "=" argument with
  | name :: v :: vs => (name, some (Text.joinWith "=" (v :: vs)))
  | _ => (argument, none)

/-- The keys of the switches with these letters. -/
def Command.switches (c : Command κ) : List Char → Except UsageError (List κ)
  | [] => .ok []
  | l :: ls =>
    match c.lettered? l with
    | none => .error (.unknownOption (String.ofList ['-', l]) [])
    | some o => (switches c ls).map (o.key :: ·)

/-- Reads an argument that no option has as a name. -/
def Command.letters (c : Command κ) (argument : String) : Except UsageError (List κ) :=
  if Text.startsWith "--" argument then
    let name := (nameAndValue argument).1
    .error (.unknownOption name (Text.similarWords name c.optionNames))
  else c.switches argument.toList.tail

/-- Reads arguments. -/
def Command.read (c : Command κ) : List String → Except UsageError (Reading κ)
  | [] => .ok ⟨[], []⟩
  | a :: as =>
    if a = "--" then .ok ⟨[], as⟩
    else if !isOption a then
      if c.isGroup then .ok ⟨[], a :: as⟩ else (read c as).map (·.keep a)
    else
      let (name, value) := nameAndValue a
      match c.named? name with
      | none =>
        match c.letters a with
        | .error e => .error e
        | .ok keys => (read c as).map (·.giveAll keys)
      | some o =>
        match o.takesValue, value with
        | true, some v => (read c as).map (·.give o.key v)
        | true, none =>
          match as with
          | [] => .error (.missingValue name)
          | v :: as => (read c as).map (·.give o.key v)
        | false, some _ => .error (.unexpectedValue name)
        | false, none => (read c as).map (·.give o.key "")

@[simp] theorem Command.read_nil (c : Command κ) : c.read [] = .ok ⟨[], []⟩ := by
  rw [Command.read]

variable [DecidableEq κ]

/-- Whether an option was given. -/
def Reading.has (r : Reading κ) (key : κ) : Bool := r.given.any fun g => g.1 = key

/-- The value that an option was given last. -/
def Reading.value? (r : Reading κ) (key : κ) : Option String :=
  (r.given.reverse.find? fun g => g.1 = key).map Prod.snd

/-- The first option among some keys that was given. -/
def Reading.firstOf? (r : Reading κ) (keys : List κ) : Option κ :=
  (r.given.find? fun g => keys.contains g.1).map Prod.fst

end VendorLaunch.CommandLine
