import VendorLaunch.Fault

/-!
# Places in a YAML text

A cursor is the rest of a text with the number of characters before it and with its line and
column. The end of the text reads as the character NUL, which a text never holds, so every test of
the next character is a test of a character.

A byte order mark takes no column.
-/

namespace VendorLaunch.Yaml

/-- Why a text cannot be read. -/
inductive Flaw where
  /-- The text is not well-formed. -/
  | malformed
  /-- A scalar does not denote the value that it should. -/
  | fault (cause : Fault)
  deriving DecidableEq, Repr

/-- What the end of a text reads as. -/
def endMark : Char := '\x00'

/-- Whether a character may stand in a text. -/
def isAllowed (c : Char) : Bool :=
  let n := c.toNat
  n == 9 || n == 10 || n == 13 || (0x20 ≤ n && n ≤ 0x7e) || n == 0x85 || (0xa0 ≤ n && n ≤ 0xd7ff) ||
    (0xe000 ≤ n && n ≤ 0xfffd) || 0x10000 ≤ n

/-- Whether a character breaks a line. -/
def isBreak (c : Char) : Bool :=
  c == '\n' || c == '\r' || c == '\x85' || c == '\u2028' || c == '\u2029'

/-- Whether a line ends here. -/
def endsLine (c : Char) : Bool := c == endMark || isBreak c

/-- Whether a line ends or a space stands here. -/
def endsMark (c : Char) : Bool := c == ' ' || endsLine c

/-- Whether a line ends or a space or tab stands here. -/
def endsWord (c : Char) : Bool := c == ' ' || c == '\t' || endsLine c

/-- Whether a character may stand in a name: an ASCII letter or digit, a hyphen or an
underscore. -/
def isNameChar (c : Char) : Bool :=
  c.isAlphanum || c == '-' || c == '_'

/-- Whether a character is a hexadecimal digit. -/
def isHexChar (c : Char) : Bool :=
  c.isDigit || ('a' ≤ c && c ≤ 'f') || ('A' ≤ c && c ≤ 'F')

/-- A place in a text. -/
structure Cursor where
  rest : List Char
  index : Nat := 0
  line : Nat := 0
  column : Nat := 0

namespace Cursor

/-- The character `n` places ahead. -/
def peek (c : Cursor) (n : Nat) : Char := c.rest.getD n endMark

/-- The next character. -/
def head (c : Cursor) : Char := c.rest.headD endMark

/-- The next `n` characters. -/
def ahead (c : Cursor) (n : Nat) : List Char := c.rest.take n

/-- Goes past one character. -/
def next (c : Cursor) : Cursor :=
  match c.rest with
  | [] => c
  | ch :: r =>
    if ch == '\r' && r.headD endMark == '\n' then ⟨r, c.index + 1, c.line, c.column + 1⟩
    else if isBreak ch then ⟨r, c.index + 1, c.line + 1, 0⟩
    else if ch == '\ufeff' then ⟨r, c.index + 1, c.line, c.column⟩
    else ⟨r, c.index + 1, c.line, c.column + 1⟩

/-- Goes past `n` characters. -/
def advance (c : Cursor) : Nat → Cursor
  | 0 => c
  | n + 1 => c.next.advance n

/-- The longest run of characters that `p` holds of, and the place after it. -/
def takeRun (c : Cursor) (p : Char → Bool) : List Char × Cursor :=
  let run := c.rest.takeWhile p
  (run, c.advance run.length)

/-- Goes past the longest run of characters that `p` holds of. -/
def skipRun (c : Cursor) (p : Char → Bool) : Cursor := (c.takeRun p).2

/-- Goes past spaces. -/
def skipSpaces (c : Cursor) : Cursor := c.skipRun (· == ' ')

/-- Goes to the end of the line. -/
def skipLine (c : Cursor) : Cursor := c.skipRun fun ch => !endsLine ch

/-- The line break at this place, as it is read, and the place after it. A carriage return with
or without a line feed and a next-line character read as a line feed. -/
def lineBreak? (c : Cursor) : Option (Char × Cursor) :=
  let ch := c.head
  if ch == '\r' || ch == '\n' || ch == '\x85' then
    some ('\n', if ch == '\r' && c.peek 1 == '\n' then c.advance 2 else c.next)
  else if ch == '\u2028' || ch == '\u2029' then some (ch, c.next)
  else none

/-- Goes past a line break, if there is one. -/
def skipBreak (c : Cursor) : Cursor :=
  match c.lineBreak? with
  | some (_, c) => c
  | none => c

/-- Whether a document marker made of three characters `ch` stands here. -/
def atMarker (c : Cursor) (ch : Char) : Bool :=
  c.ahead 3 == [ch, ch, ch] && endsWord (c.peek 3)

/-- Whether the line begins with a marker that ends a document. -/
def atDocumentMarker (c : Cursor) : Bool := c.atMarker '-' || c.atMarker '.'

/-- More than the number of steps that any reading from here can take. -/
def steps (c : Cursor) : Nat := c.rest.length + 2

end Cursor

/-- A result with the place after it. -/
abbrev Scan (α : Type) := Except Flaw (α × Cursor)

/-- Ends a reading, because the text is not well-formed. -/
def malformed {α : Type} : Except Flaw α := .error .malformed

/-- Code points as a text; surrogates are replaced. -/
def textOfCodes (codes : List Nat) : String := String.ofList (codes.map Char.ofNat)

/-- The code points of characters. -/
def codesOf (s : List Char) : List Nat := s.map Char.toNat

end VendorLaunch.Yaml
