import VendorLaunch.CommandLine.Command
import VendorLaunch.CommandLine.UsageError

/-!
# Help

The help of a command is laid out for a terminal of eighty columns, of which two stay free. It
shows the usage, what the command does, and a table each of its options and its subcommands. The
second column of a table begins two columns after the longest entry of the first, and a text that
is too long for it goes on below.
-/

namespace VendorLaunch.CommandLine

variable {κ : Type}

/-- The number of columns in use. -/
def helpWidth : Nat := 78

/-- The indentation of a table, and the least distance of its columns. -/
def helpMargin : Nat := 2

/-- Blanks. -/
def blanks (n : Nat) : String := String.ofList (List.replicate n ' ')

/-- Words on lines of at most `width` characters, each as long as it can be. `line` is the line
begun so far. -/
def wrapWords (width : Nat) (line : String) : List String → List String
  | [] => [line]
  | w :: ws =>
    if line.length + 1 + w.length ≤ width then wrapWords width (line ++ " " ++ w) ws
    else line :: wrapWords width w ws

/-- A text on lines of at most `width` characters. -/
def wrapText (width : Nat) (text : String) : List String :=
  match Text.splitOn " " text with
  | [] => []
  | w :: ws => wrapWords width w ws

/-- A row of a table whose second column begins at `start`. -/
def tableRow (start : Nat) (first second : String) : List String :=
  match wrapText (helpWidth - start) second with
  | [] => [blanks helpMargin ++ first]
  | l :: ls =>
    (blanks helpMargin ++ first ++ blanks (start - helpMargin - first.length) ++ l) ::
      ls.map (blanks start ++ ·)

/-- A table under a heading; nothing when it has no rows. -/
def table (heading : String) (rows : List (String × String)) : List String :=
  let start := rows.foldl (fun n r => max n r.1.length) 0 + 2 * helpMargin
  if rows.isEmpty then [] else "" :: heading :: rows.flatMap fun r => tableRow start r.1 r.2

/-- The spellings of an option. -/
def OptionSpec.spellings (o : OptionSpec κ) : String :=
  let letter := match o.letter with
    | some l => [String.ofList ['-', l]]
    | none => []
  Text.joinWith ", " (letter ++ o.names) ++ (match o.valueName with
    | some v => " " ++ v
    | none => "")

/-- How the command is called. -/
def Command.usage (c : Command κ) : String :=
  "Usage: " ++ c.name ++ " [OPTIONS]" ++ (if c.isGroup then " COMMAND [ARGS]..." else "")

/-- The help of a command. -/
def Command.help (c : Command κ) : String :=
  Text.joinWith "\n" ([c.usage, "", blanks helpMargin ++ c.summary] ++
    table "Options:" (c.options.map fun o => (o.spellings, o.summary)) ++
    table "Commands:" (c.entries.map fun e => (e.name, e.summary)))

/-- What is shown for a usage error. -/
def Command.complaint (c : Command κ) (e : UsageError) : String :=
  (if e.showsUsage then
    c.usage ++ "\nTry '" ++ c.name ++ " --help' for help.\n\n" else "") ++
    "Error: " ++ e.message

end VendorLaunch.CommandLine
