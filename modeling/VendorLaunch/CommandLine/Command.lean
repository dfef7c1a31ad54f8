/-!
# Commands

A command has a name, a line about what it does, and options. An option is a switch or takes a
value; it is written as a name after two dashes, and a switch may have a letter after one dash. A
command that has subcommands takes the name of one of them as its first argument.

Every option has a key, which is how the program knows it; the spellings are for the command line.
-/

namespace VendorLaunch.CommandLine

/-- An option that the program knows as `key`. -/
structure OptionSpec (κ : Type) where
  key : κ
  /-- The letter of a switch. -/
  letter : Option Char := none
  /-- The names, two dashes in front. -/
  names : List String
  /-- What the value of the option is called; a switch has none. -/
  valueName : Option String := none
  /-- What the option does. -/
  summary : String
  deriving Repr

/-- A subcommand as its command lists it. -/
structure Entry where
  name : String
  summary : String
  deriving Repr

/-- A command. -/
structure Command (κ : Type) where
  /-- The words that call it. -/
  name : String
  /-- What the command does. -/
  summary : String
  options : List (OptionSpec κ)
  /-- The subcommands in alphabetic order. -/
  entries : List Entry := []
  deriving Repr

variable {κ : Type}

/-- Whether the option takes a value. -/
def OptionSpec.takesValue (o : OptionSpec κ) : Bool := o.valueName.isSome

/-- Whether the command has subcommands. -/
def Command.isGroup (c : Command κ) : Bool := !c.entries.isEmpty

/-- The option with a name. -/
def Command.named? (c : Command κ) (name : String) : Option (OptionSpec κ) :=
  c.options.find? fun o => o.names.contains name

/-- The switch with a letter. -/
def Command.lettered? (c : Command κ) (letter : Char) : Option (OptionSpec κ) :=
  c.options.find? fun o => o.letter == some letter && !o.takesValue

/-- The names of all options. -/
def Command.optionNames (c : Command κ) : List String := c.options.flatMap OptionSpec.names

end VendorLaunch.CommandLine
