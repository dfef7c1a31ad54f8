import VendorLaunch.Text.Quoted
import VendorLaunch.Text.Split

/-!
# Templates of log lines

A template is text with fields in it. A field is a percent sign, the name of the field between
parentheses, and how to write it: flags, a width, a precision and a letter. Two percent signs are
one. Rendering fails on a field that is not known or cannot be written as asked.
-/

namespace VendorLaunch.Log

/-- The value of a field. -/
inductive FieldValue where
  | text (s : String)
  | number (n : Int)
  deriving DecidableEq, Repr

/-- The fields of a line by name. -/
abbrev Fields := List (String × FieldValue)

/-- How a field is written. -/
structure FieldStyle where
  left : Bool := false
  zeros : Bool := false
  plus : Bool := false
  space : Bool := false
  width : Nat := 0
  precision : Option Nat := none
  deriving Repr

/-- The name of a field up to its closing parenthesis, and the rest. `opened` counts
the parentheses that are open. -/
def takeName (opened : Nat) (acc : List Char) : List Char → Option (String × List Char)
  | [] => none
  | ')' :: s =>
    if opened = 0 then some (String.ofList acc.reverse, s) else takeName (opened - 1) (')' :: acc) s
  | '(' :: s => takeName (opened + 1) ('(' :: acc) s
  | c :: s => takeName opened (c :: acc) s

/-- The flags of a field. -/
def takeFlags (st : FieldStyle) : List Char → FieldStyle × List Char
  | '-' :: s => takeFlags { st with left := true } s
  | '0' :: s => takeFlags { st with zeros := true } s
  | '+' :: s => takeFlags { st with plus := true } s
  | ' ' :: s => takeFlags { st with space := true } s
  | '#' :: s => takeFlags st s
  | s => (st, s)

/-- A number at the head of a text, zero when there is none. -/
def takeWidth (s : List Char) : Nat × List Char :=
  let ds := s.takeWhile Char.isDigit
  (ds.foldl (fun n d => n * 10 + (d.toNat - 48)) 0, s.drop ds.length)

/-- The style of a field and the text after it. -/
def takeStyle (s : List Char) : FieldStyle × List Char :=
  let (st, s) := takeFlags {} s
  let (width, s) := takeWidth s
  let st := { st with width := width }
  match s with
  | '.' :: s =>
    let (precision, s) := takeWidth s
    ({ st with precision := some precision }, s)
  | _ => (st, s)

/-- The text filled up to the width of a field. -/
def FieldStyle.pad (st : FieldStyle) (fill : Char) (s : List Char) : List Char :=
  let filling := List.replicate (st.width - s.length) fill
  if st.left then s ++ List.replicate (st.width - s.length) ' ' else filling ++ s

/-- A text written as a field. -/
def FieldStyle.text (st : FieldStyle) (s : List Char) : List Char :=
  st.pad ' ' (match st.precision with
    | some p => s.take p
    | none => s)

/-- A number written as a field. -/
def FieldStyle.number (st : FieldStyle) (n : Int) : List Char :=
  let sign : List Char :=
    if n < 0 then ['-'] else if st.plus then ['+'] else if st.space then [' '] else []
  let digits := (toString n.natAbs).toList
  let digits := List.replicate (st.precision.getD 0 - digits.length) '0' ++ digits
  if st.zeros && !st.left then
    sign ++ List.replicate (st.width - sign.length - digits.length) '0' ++ digits
  else st.pad ' ' (sign ++ digits)

/-- A value written as a letter asks for. -/
def FieldStyle.write (st : FieldStyle) (letter : Char) : FieldValue → Option (List Char)
  | .text s =>
    if letter = 's' then some (st.text s.toList)
    else if letter = 'r' then some (st.text (Text.quoted s).toList)
    else none
  | .number n =>
    if letter = 'd' ∨ letter = 'i' ∨ letter = 'u' then some (st.number n)
    else if letter = 's' ∨ letter = 'r' then some (st.text (toString n).toList)
    else none

/-- The value of a field by its name. -/
def Fields.find? (fields : Fields) (name : String) : Option FieldValue :=
  (List.find? (fun f => f.1 == name) fields).map Prod.snd

/-- Writes the field after a percent sign; gives the text and the rest of the template. -/
def writeField (fields : Fields) : List Char → Option (List Char × List Char)
  | '%' :: s => some (['%'], s)
  | '(' :: s => do
    let (name, s) ← takeName 0 [] s
    let (st, s) := takeStyle s
    match s with
    | letter :: s =>
      let v ← fields.find? name
      let text ← st.write letter v
      return (text, s)
    | [] => none
  | _ => none

/-- Writes a template; the first argument bounds the number of steps. -/
def renderFrom (fields : Fields) : Nat → List Char → Option (List Char)
  | _, [] => some []
  | 0, _ => none
  | n + 1, '%' :: s => do
    let (text, s) ← writeField fields s
    let rest ← renderFrom fields n s
    return text ++ rest
  | n + 1, c :: s => (renderFrom fields n s).map (c :: ·)

/-- A template with its fields written. -/
def renderTemplate (template : String) (fields : Fields) : Option String :=
  (renderFrom fields template.toList.length template.toList).map String.ofList

end VendorLaunch.Log
