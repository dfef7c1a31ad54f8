import VendorLaunch.Yaml.Cursor

/-!
# Scalars of YAML

The three ways to write a scalar: plain, between quotes, and as an indented block. Each reader
starts at the first character of the scalar and gives its content as code points, for an escape
may name a surrogate, and the place after it.

Lines are folded by one rule throughout: a single line feed between two lines is a space, and
line breaks beyond the first are kept.
-/

namespace VendorLaunch.Yaml

/-! ### Plain scalars -/

/-- Whether a plain scalar ends before the character at `c`, of which `after` is the next. -/
def endsPlain (inFlow : Bool) (c after : Char) : Bool :=
  endsWord c ||
    (c == ':' && (endsWord after ||
      (inFlow && (after == ',' || after == '[' || after == ']' ||
        after == '\x7b' || after == '\x7d')))) ||
    (inFlow && (c == ',' || c == '?' || c == '[' || c == ']' || c == '\x7b' || c == '\x7d'))

/-- The number of characters before the end of a plain run. -/
def plainRun (inFlow : Bool) : List Char → Nat
  | [] => 0
  | c :: s => if endsPlain inFlow c (s.headD endMark) then 0 else plainRun inFlow s + 1

/-- Line breaks and the spaces between them; nothing when a document marker follows a break. -/
def plainBreaks : Nat → List Char → Cursor → Option (List Char) × Cursor
  | 0, breaks, c => (some breaks.reverse, c)
  | n + 1, breaks, c =>
    if c.head == ' ' then plainBreaks n breaks c.next
    else
      match c.lineBreak? with
      | some (b, c) =>
        if c.atDocumentMarker then (none, c) else plainBreaks n (b :: breaks) c
      | none => (some breaks.reverse, c)

/-- What a first line break and the breaks after it stand for. -/
def foldBreaks (first : Char) (breaks : List Char) : List Char :=
  if first != '\n' then first :: breaks
  else if breaks.isEmpty then [' ']
  else breaks

/-- The white space after a plain run: what it stands for, whether it breaks the line, and the
place after it. -/
def plainSpaces (c : Cursor) : List Char × Bool × Cursor :=
  let (spaces, c) := c.takeRun (· == ' ')
  match c.lineBreak? with
  | none => (spaces, false, c)
  | some (first, c) =>
    if c.atDocumentMarker then ([], true, c)
    else
      match plainBreaks c.steps [] c with
      | (none, c) => ([], true, c)
      | (some breaks, c) => (foldBreaks first breaks, true, c)

/-- Reads the runs of a plain scalar. `acc` holds what has been read, backwards, `spaces` the
white space before the next run. Also says whether a line break was passed after the last run. -/
def plainRuns (inFlow : Bool) (indent : Nat) :
    Nat → List Char → List Char → Bool → Cursor → List Char × Bool × Cursor
  | 0, acc, _, broke, c => (acc.reverse, broke, c)
  | n + 1, acc, spaces, broke, c =>
    let length := if c.head == '#' then 0 else plainRun inFlow c.rest
    if length = 0 then (acc.reverse, broke, c)
    else
      let acc := (c.ahead length).reverse ++ spaces.reverse ++ acc
      let (spaces, broke, c) := plainSpaces (c.advance length)
      if spaces.isEmpty || c.head == '#' || (!inFlow && c.column < indent) then
        (acc.reverse, broke, c)
      else plainRuns inFlow indent n acc spaces broke c

/-- Reads a plain scalar; also says whether a line break was passed at its end. -/
def plainScalar (inFlow : Bool) (indent : Nat) (c : Cursor) : List Nat × Bool × Cursor :=
  let (s, broke, c) := plainRuns inFlow indent c.steps [] [] false c
  (codesOf s, broke, c)

/-! ### Quoted scalars -/

/-- The characters that a backslash and a letter stand for. -/
def escapes : List (Char × Nat) :=
  [('0', 0), ('a', 7), ('b', 8), ('t', 9), ('\t', 9), ('n', 10), ('v', 11), ('f', 12), ('r', 13),
    ('e', 0x1b), (' ', 0x20), ('"', 0x22), ('\\', 0x5c), ('/', 0x2f), ('N', 0x85), ('_', 0xa0),
    ('L', 0x2028), ('P', 0x2029)]

/-- The letters that introduce a code point, with the number of its digits. -/
def codeEscapes : List (Char × Nat) := [('x', 2), ('u', 4), ('U', 8)]

/-- The value of a hexadecimal digit. -/
def hexValue (c : Char) : Nat :=
  if c.isDigit then c.toNat - 48 else if 'a' ≤ c then c.toNat - 87 else c.toNat - 55

/-- The value of hexadecimal digits. -/
def hexNumber (s : List Char) : Nat := s.foldl (fun n c => n * 16 + hexValue c) 0

/-- The code point with a number. -/
def codePoint (n : Nat) : Except Flaw Nat :=
  if n < 0x110000 then .ok n
  else if n < 0x80000000 then .error (.fault (.value "chr() arg not in range(0x110000)"))
  else .error (.fault (.named "OverflowError" "Python int too large to convert to C int"))

/-- Line breaks inside quotes, with the white space around them dropped. -/
def quotedBreaks : Nat → List Char → Cursor → Except Flaw (List Char × Cursor)
  | 0, breaks, c => .ok (breaks.reverse, c)
  | n + 1, breaks, c =>
    if c.atDocumentMarker then malformed
    else
      let c := c.skipRun fun ch => ch == ' ' || ch == '\t'
      match c.lineBreak? with
      | some (b, c) => quotedBreaks n (b :: breaks) c
      | none => .ok (breaks.reverse, c)

/-- Whether a character between quotes has to be looked at. -/
def isQuotedStop (c : Char) : Bool := c == '\'' || c == '"' || c == '\\' || endsWord c

/-- What the escape after a backslash stands for. -/
def quotedEscape (c : Cursor) : Scan (List Nat) :=
  match escapes.find? fun e => e.1 == c.head with
  | some e => .ok ([e.2], c.next)
  | none =>
    match codeEscapes.find? fun e => e.1 == c.head with
    | some e =>
      let c := c.next
      let digits := c.ahead e.2
      if digits.length = e.2 ∧ digits.all isHexChar then
        match codePoint (hexNumber digits) with
        | .ok n => .ok ([n], c.advance e.2)
        | .error f => .error f
      else malformed
    | none =>
      match c.lineBreak? with
      | some (_, c) =>
        match quotedBreaks c.steps [] c with
        | .ok (breaks, c) => .ok (codesOf breaks, c)
        | .error f => .error f
      | none => malformed

/-- Reads characters between quotes up to white space or the closing quote. `acc` holds what has
been read, backwards. -/
def quotedRun (double : Bool) : Nat → List Nat → Cursor → Scan (List Nat)
  | 0, acc, c => .ok (acc, c)
  | n + 1, acc, c =>
    let (run, c) := c.takeRun fun ch => !isQuotedStop ch
    let acc := (codesOf run).reverse ++ acc
    let ch := c.head
    if !double && ch == '\'' && c.peek 1 == '\'' then quotedRun double n (39 :: acc) (c.advance 2)
    else if (double && ch == '\'') || (!double && (ch == '"' || ch == '\\')) then
      quotedRun double n (ch.toNat :: acc) c.next
    else if double && ch == '\\' then
      match quotedEscape c.next with
      | .ok (codes, c) => quotedRun double n (codes.reverse ++ acc) c
      | .error f => .error f
    else .ok (acc, c)

/-- What the white space between quotes stands for. -/
def quotedSpaces (c : Cursor) : Scan (List Nat) :=
  let (spaces, c) := c.takeRun fun ch => ch == ' ' || ch == '\t'
  if c.head == endMark then malformed
  else
    match c.lineBreak? with
    | none => .ok (codesOf spaces, c)
    | some (first, c) =>
      match quotedBreaks c.steps [] c with
      | .ok (breaks, c) => .ok (codesOf (foldBreaks first breaks), c)
      | .error f => .error f

/-- Reads up to the closing quote. -/
def quotedParts (quote : Char) : Nat → List Nat → Cursor → Scan (List Nat)
  | 0, _, _ => malformed
  | n + 1, acc, c =>
    if c.head == quote then .ok (acc.reverse, c.next)
    else
      match quotedSpaces c with
      | .error f => .error f
      | .ok (spaces, c) =>
        match quotedRun (quote == '"') c.steps (spaces.reverse ++ acc) c with
        | .error f => .error f
        | .ok (acc, c) => quotedParts quote n acc c

/-- Reads a scalar between quotes. -/
def quotedScalar (c : Cursor) : Scan (List Nat) :=
  let quote := c.head
  match quotedRun (quote == '"') c.steps [] c.next with
  | .error f => .error f
  | .ok (acc, c) => quotedParts quote c.steps acc c

/-! ### Block scalars -/

/-- What becomes of the line breaks at the end of a block. -/
inductive Chomping where
  /-- One is kept. -/
  | clip
  /-- None is kept. -/
  | strip
  /-- All are kept. -/
  | keep
  deriving DecidableEq, Repr

/-- The indentation digit at this place; zero is refused. -/
def indentDigit (c : Cursor) : Scan (Option Nat) :=
  let ch := c.head
  if ch == '0' then malformed
  else if ch.isDigit then .ok (some (ch.toNat - 48), c.next)
  else .ok (none, c)

/-- The chomping sign at this place. -/
def chompSign (c : Cursor) : Chomping × Cursor :=
  if c.head == '+' then (.keep, c.next)
  else if c.head == '-' then (.strip, c.next)
  else (.clip, c)

/-- The header of a block: a chomping sign and an indentation digit in either order. -/
def blockHeader (c : Cursor) : Scan (Chomping × Option Nat) :=
  let (chomp, c) := chompSign c
  match indentDigit c with
  | .error f => .error f
  | .ok (digit, c) =>
    let (chomp, c) := if chomp = .clip ∧ digit.isSome then chompSign c else (chomp, c)
    if endsMark c.head then .ok ((chomp, digit), c) else malformed

/-- Goes past spaces, a comment and a line break, which have to fill the line. -/
def skipRestOfLine (c : Cursor) : Except Flaw Cursor :=
  let c := c.skipSpaces
  let c := if c.head == '#' then c.skipLine else c
  if endsLine c.head then .ok c.skipBreak else malformed

/-- The line breaks before the first line of a block, and the widest indentation among them. -/
def blockIndent : Nat → List Char → Nat → Cursor → List Char × Nat × Cursor
  | 0, breaks, widest, c => (breaks.reverse, widest, c)
  | n + 1, breaks, widest, c =>
    if c.head == ' ' then
      let c := c.next
      blockIndent n breaks (max widest c.column) c
    else
      match c.lineBreak? with
      | some (b, c) => blockIndent n (b :: breaks) widest c
      | none => (breaks.reverse, widest, c)

/-- Goes past spaces as far as column `indent`. -/
def skipIndent (indent : Nat) : Nat → Cursor → Cursor
  | 0, c => c
  | n + 1, c => if c.column < indent && c.head == ' ' then skipIndent indent n c.next else c

/-- The line breaks before a line of a block with a known indentation. -/
def blockBreaks (indent : Nat) : Nat → List Char → Cursor → List Char × Cursor
  | 0, breaks, c => (breaks.reverse, c)
  | n + 1, breaks, c =>
    let c := skipIndent indent c.steps c
    match c.lineBreak? with
    | some (b, c) => blockBreaks indent n (b :: breaks) c
    | none => (breaks.reverse, c)

/-- Whether another line of the block begins here. -/
def atBlockLine (indent : Nat) (c : Cursor) : Bool := c.column == indent && c.head != endMark

/-- The lines of a block, the last line break and the breaks after it. `acc` holds what has been
read, backwards. -/
def blockLines (folded : Bool) (indent : Nat) :
    Nat → List Char → List Char → Cursor → List Char × List Char × List Char × Cursor
  | 0, acc, breaks, c => (acc, [], breaks, c)
  | n + 1, acc, breaks, c =>
    if atBlockLine indent c then
      let indented := c.head == ' ' || c.head == '\t'
      let (line, c) := c.takeRun fun ch => !endsLine ch
      let acc := line.reverse ++ breaks.reverse ++ acc
      let (last, c) := match c.lineBreak? with
        | some (b, c) => ([b], c)
        | none => ([], c)
      let (breaks, c) := blockBreaks indent c.steps [] c
      if atBlockLine indent c then
        if folded && last == ['\n'] && !indented && !(c.head == ' ' || c.head == '\t') then
          blockLines folded indent n (if breaks.isEmpty then ' ' :: acc else acc) breaks c
        else blockLines folded indent n (last ++ acc) breaks c
      else (acc, last, breaks, c)
    else (acc, [], breaks, c)

/-- Reads a block scalar inside a block indented by `indent` columns, or by none for `-1`. -/
def blockScalar (indent : Int) (c : Cursor) : Scan (List Nat) :=
  let folded := c.head == '>'
  match blockHeader c.next with
  | .error f => .error f
  | .ok ((chomp, digit), c) =>
    match skipRestOfLine c with
    | .error f => .error f
    | .ok c =>
      let least := max 1 (indent + 1).toNat
      let (breaks, width, c) := match digit with
        | none =>
          let (breaks, widest, c) := blockIndent c.steps [] 0 c
          (breaks, max least widest, c)
        | some d =>
          let width := least + d - 1
          let (breaks, c) := blockBreaks width c.steps [] c
          (breaks, width, c)
      let (acc, last, breaks, c) := blockLines folded width c.steps [] breaks c
      let acc := if chomp = .strip then acc else last ++ acc
      let acc := if chomp = .keep then breaks.reverse ++ acc else acc
      .ok (codesOf acc.reverse, c)

end VendorLaunch.Yaml
