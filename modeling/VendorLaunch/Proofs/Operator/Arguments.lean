import Mathlib.Tactic.Choose
import VendorLaunch.Program.Choices

/-!
# Command lines of the operator's tool

A command line asks for something and says how it is to be told. `Task` is the one, with the texts
that it needs; `Manner` is the other: the switches in front of the subcommand and behind it, any
number of them and in any of their spellings. The vendor root stands between the switches.

Reading a command line goes through it piece by piece: words that only give options can be read
before the rest (`CommandLine.Command.Gives`). The manner leaves its mark on the switches that are
found and on nothing else (`Operator.exists_readTool_commandLine`,
`Operator.readSubcommand_arguments`).
-/

namespace VendorLaunch

namespace CommandLine

/-! ### Words that give options -/

section

variable {κ : Type}

/-- Puts options in front. -/
def Reading.giveFirst (r : Reading κ) (given : List (κ × String)) : Reading κ :=
  { r with given := given ++ r.given }

/-- The words are read as options, whatever follows them. -/
def Command.Gives (c : Command κ) (words : List String) (given : List (κ × String)) : Prop :=
  ∀ args, c.read (words ++ args) = (c.read args).map (·.giveFirst given)

variable {c : Command κ} {words words' : List String} {given given' : List (κ × String)}

theorem Command.Gives.append (h : c.Gives words given) (h' : c.Gives words' given') :
    c.Gives (words ++ words') (given ++ given') := by
  intro args
  rw [List.append_assoc, h, h']
  cases c.read args with
  | error e => rfl
  | ok r =>
    refine congrArg (fun g => Except.ok (⟨g, r.rest⟩ : Reading κ)) ?_
    exact (List.append_assoc given given' r.given).symm

/-- With nothing behind them the words are all that is read. -/
theorem Command.Gives.read (h : c.Gives words given) : c.read words = .ok ⟨given, []⟩ := by
  have hread := h []
  rw [List.append_nil] at hread
  rw [hread, Command.read_nil]
  exact congrArg (fun g => Except.ok (⟨g, []⟩ : Reading κ)) (List.append_nil given)

section

variable {w : String} {key : κ}

end

variable [DecidableEq κ] {pre mid post : List (κ × String)} {rest : List String}

end

end CommandLine

namespace Operator

open CommandLine

/-! ### Command lines -/

/-- What is asked of the tool. -/
inductive Task where
  /-- The vendor tree is to be verified, with the groups that a text requires. -/
  | verify (required : Option String)
  /-- The candidates are to be shown. -/
  | targets
  /-- The binary is to be shown. -/
  | which

namespace Task

/-- The text that is given for the required groups. -/
def required? : Task → Option String
  | verify required => required
  | targets | which => none

end Task

/-- A word that says how much the tool is to tell: a name, or letters behind a dash. -/
inductive IsSwitch : String → Prop
  | name {w : String} (named : w ∈ ["--verbose", "--quiet", "--debug"]) : IsSwitch w
  | letters (ls : List Char) (some : ls ≠ []) (known : ∀ l ∈ ls, l = 'v' ∨ l = 'q') :
      IsSwitch (String.ofList ('-' :: ls))

/-- How something is to be told: words in front of the vendor root and behind it, and words in front
of the required groups and behind them. -/
structure Manner where
  before : List String
  after : List String
  jsonBefore : List String
  jsonAfter : List String
  switches : ∀ w ∈ before ++ after, IsSwitch w
  jsons : ∀ w ∈ jsonBefore ++ jsonAfter, w ∈ jsonOption.names

/-- An option with its value, if there is one. -/
def valued (name : String) : Option String → List String
  | some v => [name, v]
  | none => []

namespace Manner

/-- Whether JSON is asked for. -/
def json (m : Manner) : Bool := !m.jsonBefore.isEmpty || !m.jsonAfter.isEmpty

/-- The arguments of the subcommand. -/
def arguments (m : Manner) (task : Task) : List String :=
  m.jsonBefore ++ valued "--required" task.required? ++ m.jsonAfter

end Manner

/-! ### Switches -/

variable (m : Manner) (task : Task) (root : Option String)

end Operator

end VendorLaunch
