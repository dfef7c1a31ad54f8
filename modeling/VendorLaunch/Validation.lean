import VendorLaunch.Data
import VendorLaunch.Number.Literal
import VendorLaunch.Text.Utf8

/-!
# Validation

Reading a model from data gives the model or the complete list of what is wrong, each violation
with the place where it was found. A reader of this kind is a function from data to
`Validated α`; `Validated.and` reads two parts and keeps the violations of both, in order, and a
check that needs the whole model runs only when every part is valid.

The readers are lenient in a fixed way: integers may come as truth values, as floating-point
numbers without a fraction or as text; truth values as the usual words; texts only as texts, or as
bytes that are UTF-8; lists as lists or sets.
-/

namespace VendorLaunch

/-- One step on the way to a value inside data. -/
inductive Step where
  /-- The field of a model. -/
  | field (name : String)
  /-- The place in a list. -/
  | index (i : Nat)
  deriving DecidableEq, Repr

/-- What can be wrong with a value. -/
inductive Complaint where
  /-- A required field is absent. -/
  | missing
  /-- Not a text. -/
  | notText
  /-- A text that is not valid Unicode. -/
  | brokenText
  /-- Not a list. -/
  | notList
  /-- A list that must not be empty is. -/
  | emptyList
  /-- Neither a mapping nor a value of the model. -/
  | notModel (model : String)
  /-- Not an integer. -/
  | notInt
  /-- A text that denotes no integer. -/
  | notIntText
  /-- A number with a fraction where an integer is expected. -/
  | fractional
  /-- An infinity or a NaN. -/
  | notFinite
  /-- None of the allowed words of an enumeration. -/
  | notMember (allowed : List String)
  /-- None of the allowed literal words. -/
  | notLiteral (allowed : List String)
  /-- Not a truth value. -/
  | notBool
  /-- A text or integer that denotes no truth value. -/
  | notBoolText
  /-- Not a path. -/
  | notPath
  /-- The model cannot be changed. -/
  | frozen
  /-- A check of the model failed. -/
  | rejected (reason : String)
  deriving DecidableEq, Repr

/-- A complaint and the place it is about. -/
structure Violation where
  place : List Step
  complaint : Complaint
  deriving DecidableEq, Repr

/-- Words in quotes, separated by commas, the last two by `or`. -/
def alternatives : List String → String
  | [] => ""
  | [a] => Text.quoted a
  | [a, b] => Text.quoted a ++ " or " ++ Text.quoted b
  | a :: as => Text.quoted a ++ ", " ++ alternatives as

namespace Complaint

/-- The short name of a complaint. -/
def code : Complaint → String
  | missing => "missing"
  | notText => "string_type"
  | brokenText => "string_unicode"
  | notList => "list_type"
  | emptyList => "too_short"
  | notModel _ => "model_type"
  | notInt => "int_type"
  | notIntText => "int_parsing"
  | fractional => "int_from_float"
  | notFinite => "finite_number"
  | notMember _ => "enum"
  | notLiteral _ => "literal_error"
  | notBool => "bool_type"
  | notBoolText => "bool_parsing"
  | notPath => "path_type"
  | frozen => "frozen_instance"
  | rejected _ => "value_error"

/-- A complaint in words. -/
def message : Complaint → String
  | missing => "Field required"
  | notText => "Input should be a valid string"
  | brokenText => "Input should be a valid string, unable to parse raw data as a unicode string"
  | notList => "Input should be a valid list"
  | emptyList => "List should have at least 1 item after validation, not 0"
  | notModel m => "Input should be a valid dictionary or instance of " ++ m
  | notInt => "Input should be a valid integer"
  | notIntText => "Input should be a valid integer, unable to parse string as an integer"
  | fractional => "Input should be a valid integer, got a number with a fractional part"
  | notFinite => "Input should be a finite number"
  | notMember ws | notLiteral ws => "Input should be " ++ alternatives ws
  | notBool => "Input should be a valid boolean"
  | notBoolText => "Input should be a valid boolean, unable to interpret input"
  | notPath => "Input is not a valid path for <class 'pathlib.Path'>"
  | frozen => "Instance is frozen"
  | rejected reason => "Value error, " ++ reason

end Complaint

/-- A value, or everything that is wrong with the data. -/
abbrev Validated (α : Type) := Except (List Violation) α

namespace Validated

variable {α β : Type}

/-- A single complaint about the value itself. -/
def complain (c : Complaint) : Validated α := .error [⟨[], c⟩]

/-- Prepends a step to the places of all violations. -/
def within (s : Step) : Validated α → Validated α
  | .ok a => .ok a
  | .error vs => .error (vs.map fun v => { v with place := s :: v.place })

/-- Both parts, or the violations of both. -/
def and (x : Validated α) (y : Validated β) : Validated (α × β) :=
  match x, y with
  | .ok a, .ok b => .ok (a, b)
  | .ok _, .error ws => .error ws
  | .error vs, .ok _ => .error vs
  | .error vs, .error ws => .error (vs ++ ws)

/-- Reads every value of a list, the first standing at place `i`. -/
def each (read : Data → Validated α) (i : Nat) : List Data → Validated (List α)
  | [] => .ok []
  | d :: ds =>
    match and (within (.index i) (read d)) (each read (i + 1) ds) with
    | .ok (a, as) => .ok (a :: as)
    | .error vs => .error vs

/-- The field `name`, which has to be there. -/
def required (name : String) (read : Data → Validated α) (fields : List (Data × Data)) :
    Validated α :=
  within (.field name) (match Data.field? name fields with
    | some d => read d
    | none => complain .missing)

/-- The field `name`, or `default` when it is absent. -/
def optional (name : String) (default : α) (read : Data → Validated α)
    (fields : List (Data × Data)) : Validated α :=
  within (.field name) (match Data.field? name fields with
    | some d => read d
    | none => .ok default)

/-- The fields of a model. -/
def fields (model : String) : Data → Validated (List (Data × Data))
  | .dict fs => .ok fs
  | _ => complain (.notModel model)

/-! ### Readers of plain values -/

/-- Reads a text. -/
def text : Data → Validated String
  | .text s => .ok s
  | .brokenText _ => complain .brokenText
  | .bytes b =>
    match Text.decodeUtf8 b with
    | .ok s => .ok s
    | .error _ => complain .brokenText
  | _ => complain .notText

/-- Reads a list of values. -/
def list (read : Data → Validated α) : Data → Validated (List α)
  | .list xs | .tuple xs | .set xs => each read 0 xs
  | _ => complain .notList

/-- Reads a list of at least one value. -/
def nonEmptyList (read : Data → Validated α) (d : Data) : Validated (List α) :=
  match list read d with
  | .ok [] => complain .emptyList
  | r => r

/-- Reads a value or `null`. -/
def nullable (read : Data → Validated α) : Data → Validated (Option α)
  | .null => .ok none
  | d => (read d).map some

/-- Reads an integer. -/
def int : Data → Validated Int
  | .int i => .ok i
  | .bool b => .ok (if b then 1 else 0)
  | .float x =>
    match x with
    | .finite .. =>
      match x.toInt? with
      | some i => .ok i
      | none => complain .fractional
    | _ => complain .notFinite
  | .text s =>
    match Number.lenientInt? s with
    | some i => .ok i
    | none => complain .notIntText
  | .bytes b =>
    match Text.decodeUtf8 b with
    | .ok s =>
      match Number.lenientInt? s with
      | some i => .ok i
      | none => complain .notIntText
    | .error _ => complain .notIntText
  | .brokenText _ => complain .brokenText
  | _ => complain .notInt

/-- The truth value that a word denotes. -/
def boolWord? (s : String) : Option Bool :=
  let w := s.toList.map Char.toLower
  if ["1", "t", "true", "y", "yes", "on"].any (·.toList == w) then some true
  else if ["0", "f", "false", "n", "no", "off"].any (·.toList == w) then some false
  else none

/-- Reads a truth value. -/
def bool : Data → Validated Bool
  | .bool b => .ok b
  | .int i => if i = 0 then .ok false else if i = 1 then .ok true else complain .notBoolText
  | .float x =>
    match x.toInt? with
    | some 0 => .ok false
    | some 1 => .ok true
    | _ => complain .notBool
  | .text s =>
    match boolWord? s with
    | some b => .ok b
    | none => complain .notBoolText
  | .brokenText _ => complain .brokenText
  | _ => complain .notBool

/-- Reads one of the words of an enumeration. -/
def member (words : List (String × α)) : Data → Validated α
  | .text s =>
    match words.find? fun w => w.1 = s with
    | some w => .ok w.2
    | none => complain (.notMember (words.map Prod.fst))
  | _ => complain (.notMember (words.map Prod.fst))

/-- Reads one of a few literal words. -/
def literal (words : List (String × α)) : Data → Validated α
  | .text s =>
    match words.find? fun w => w.1 = s with
    | some w => .ok w.2
    | none => complain (.notLiteral (words.map Prod.fst))
  | _ => complain (.notLiteral (words.map Prod.fst))

/-- The only step of a check that looks at the whole model. -/
def check (problem : α → Option String) (x : Validated α) : Validated α :=
  match x with
  | .ok a =>
    match problem a with
    | some reason => complain (.rejected reason)
    | none => .ok a
  | .error vs => .error vs

end Validated

end VendorLaunch
