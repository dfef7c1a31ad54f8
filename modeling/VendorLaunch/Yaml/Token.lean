import VendorLaunch.Text.Utf8
import VendorLaunch.Yaml.Scalar

/-!
# Tokens of YAML

The words of a YAML text: markers of documents and collections, the marks before entries, keys and
values, and nodes with their properties. This module holds the tokens, and the readers of those
that are names: anchors, tags and directives.
-/

namespace VendorLaunch.Yaml

/-- A line that begins with a percent sign. -/
inductive Directive where
  /-- The version of the language. -/
  | version (major minor : Nat)
  /-- A handle and what it stands for at the beginning of a tag. -/
  | tag (handle stem : String)
  /-- Any other directive. -/
  | other
  deriving DecidableEq, Repr

/-- A word of a text. -/
inductive Token where
  | streamEnd
  | directive (d : Directive)
  | documentStart
  | documentEnd
  | blockSequenceStart
  | blockMappingStart
  | blockEnd
  | flowSequenceStart
  | flowMappingStart
  | flowSequenceEnd
  | flowMappingEnd
  | blockEntry
  | flowEntry
  | key
  | value
  | alias (name : String)
  | anchor (name : String)
  /-- A tag: its handle, if it has one, and what follows. -/
  | tag (handle : Option String) (suffix : String)
  /-- A scalar, and whether it is plain. -/
  | scalar (codes : List Nat) (plain : Bool)
  /-- No word can be read here. -/
  | flaw (f : Flaw)
  deriving DecidableEq, Repr

/-! ### Names -/

/-- Reads a name of at least one character. -/
def scanName (c : Cursor) : Scan String :=
  let (run, c) := c.takeRun isNameChar
  if run.isEmpty then malformed else .ok (String.ofList run, c)

/-- Whether an anchor or alias may end before a character. -/
def endsAnchor (c : Char) : Bool :=
  endsWord c || "?:,]\x7d%@\x60".toList.contains c

/-- Reads the name of an anchor or alias after its sign. -/
def scanAnchor (c : Cursor) : Scan String :=
  match scanName c.next with
  | .error f => .error f
  | .ok (name, c) => if endsAnchor c.head then .ok (name, c) else malformed

/-! ### Tags -/

/-- Whether a character may stand in a tag. -/
def isTagChar (c : Char) : Bool :=
  c.isAlphanum || "-;/?:@&=+$,_.!~*'()[]%".toList.contains c

/-- Reads percent escapes as bytes. -/
def tagBytes : Nat → List UInt8 → Cursor → Scan (List UInt8)
  | 0, acc, c => .ok (acc.reverse, c)
  | n + 1, acc, c =>
    if c.head == '%' then
      let digits := c.next.ahead 2
      if digits.length = 2 ∧ digits.all isHexChar then
        tagBytes n (UInt8.ofNat (hexNumber digits) :: acc) (c.advance 3)
      else malformed
    else .ok (acc.reverse, c)

/-- Reads percent escapes, which encode text. -/
def tagEscapes (c : Cursor) : Scan (List Char) :=
  match tagBytes c.steps [] c with
  | .error f => .error f
  | .ok (bytes, c) =>
    match Text.decodeUtf8 bytes with
    | .ok s => .ok (s.toList, c)
    | .error _ => malformed

/-- Reads the characters of a tag. -/
def tagChars : Nat → List Char → Cursor → Scan (List Char)
  | 0, acc, c => .ok (acc.reverse, c)
  | n + 1, acc, c =>
    if c.head == '%' then
      match tagEscapes c with
      | .error f => .error f
      | .ok (s, c) => tagChars n (s.reverse ++ acc) c
    else if isTagChar c.head then tagChars n (c.head :: acc) c.next
    else .ok (acc.reverse, c)

/-- Reads at least one character of a tag. -/
def scanTagText (c : Cursor) : Scan String :=
  match tagChars c.steps [] c with
  | .error f => .error f
  | .ok (s, c) => if s.isEmpty then malformed else .ok (String.ofList s, c)

/-- Reads a handle: an exclamation mark, or a name between two. -/
def scanHandle (c : Cursor) : Scan String :=
  if c.head != '!' then malformed
  else if c.peek 1 == ' ' then .ok ("!", c.next)
  else
    let (name, c) := c.next.takeRun isNameChar
    if c.head == '!' then .ok (String.ofList ('!' :: name ++ ['!']), c.next) else malformed

/-- Whether another exclamation mark comes before the end of the word. -/
def hasHandle : List Char → Bool
  | [] => false
  | c :: s => if endsMark c then false else c == '!' || hasHandle s

/-- Reads a tag: its handle, if it has one, and what follows. -/
def scanTagParts (c : Cursor) : Scan (Option String × String) :=
  let ch := c.peek 1
  if ch == '<' then
    match scanTagText (c.advance 2) with
    | .error f => .error f
    | .ok (s, c) => if c.head == '>' then .ok ((none, s), c.next) else malformed
  else if endsWord ch then .ok ((none, "!"), c.next)
  else
    let handle : Scan String :=
      if hasHandle (c.rest.drop 1) then scanHandle c else .ok ("!", c.next)
    match handle with
    | .error f => .error f
    | .ok (handle, c) =>
      match scanTagText c with
      | .error f => .error f
      | .ok (s, c) => .ok ((some handle, s), c)

/-- Reads a tag, which a space or the end of the line has to follow. -/
def scanTag (c : Cursor) : Scan Token :=
  match scanTagParts c with
  | .error f => .error f
  | .ok ((handle, s), c) => if endsMark c.head then .ok (.tag handle s, c) else malformed

/-! ### Directives -/

/-- Reads a number. -/
def scanNumber (c : Cursor) : Scan Nat :=
  let (digits, c) := c.takeRun Char.isDigit
  if digits.isEmpty then malformed
  else .ok (digits.foldl (fun n d => n * 10 + (d.toNat - 48)) 0, c)

/-- Reads the two numbers of a version. -/
def scanVersion (c : Cursor) : Scan Directive :=
  match scanNumber c.skipSpaces with
  | .error f => .error f
  | .ok (major, c) =>
    if c.head == '.' then
      match scanNumber c.next with
      | .error f => .error f
      | .ok (minor, c) => if endsMark c.head then .ok (.version major minor, c) else malformed
    else malformed

/-- Reads a handle and what it stands for. -/
def scanTagDirective (c : Cursor) : Scan Directive :=
  match scanHandle c.skipSpaces with
  | .error f => .error f
  | .ok (handle, c) =>
    if c.head == ' ' then
      match scanTagText c.skipSpaces with
      | .error f => .error f
      | .ok (stem, c) => if endsMark c.head then .ok (.tag handle stem, c) else malformed
    else malformed

/-- Reads a directive after its percent sign, up to the end of the line. -/
def scanDirective (c : Cursor) : Scan Token :=
  match scanName c.next with
  | .error f => .error f
  | .ok (name, c) =>
    if endsMark c.head then
      let parts : Scan Directive :=
        if name = "YAML" then scanVersion c
        else if name = "TAG" then scanTagDirective c
        else .ok (.other, c.skipLine)
      match parts with
      | .error f => .error f
      | .ok (d, c) =>
        match skipRestOfLine c with
        | .error f => .error f
        | .ok c => .ok (.directive d, c)
    else malformed

end VendorLaunch.Yaml
