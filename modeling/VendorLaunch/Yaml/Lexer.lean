import VendorLaunch.Table
import VendorLaunch.Yaml.Token

/-!
# Cutting a YAML text into tokens

In block style a key shows only at the colon after it, so the lexer remembers where one may have
begun and, when the colon comes, puts the mark of the key in front of what it has read since. Such
a key ends on its line and is at most 1024 characters long. Where a key has to come, because the
text stands at the indentation of a mapping, a missing colon is an error.

Indentation opens and closes block collections: the lexer keeps a stack of columns, and a line
further to the left closes every collection to the right of it.

What cannot be read ends the list of tokens with a `flaw`. A token that still waits for its colon
is not handed out before the flaw is met.
-/

namespace VendorLaunch.Yaml

/-- A place where a key may have begun: the number of its first token, and whether it has to be a
key. -/
structure SimpleKey where
  token : Nat
  required : Bool
  index : Nat
  line : Nat
  column : Nat

/-- What the lexer knows: the place, the open collections, the places of possible keys by the
level of flow collections, and the tokens so far. -/
structure Lexer where
  cursor : Cursor
  flow : Nat := 0
  indent : Int := -1
  indents : List Int := []
  keyAllowed : Bool := true
  keys : Table Nat SimpleKey := []
  tokens : Array Token := #[]
  done : Bool := false

namespace Lexer

/-- The longest key in block style. -/
def keyLimit : Nat := 1024

/-- Adds a token. -/
def push (s : Lexer) (t : Token) : Lexer := { s with tokens := s.tokens.push t }

/-- Adds a token in front of token number `i`. -/
def insertAt (s : Lexer) (i : Nat) (t : Token) : Lexer :=
  { s with tokens := (s.tokens.extract 0 i).push t ++ s.tokens.extract i s.tokens.size }

/-- Goes past `n` characters. -/
def forward (s : Lexer) (n : Nat) : Lexer := { s with cursor := s.cursor.advance n }

/-- Whether a place is too far back for a key. -/
def isStale (c : Cursor) (k : SimpleKey) : Bool := k.line != c.line || keyLimit < c.index - k.index

/-- Gives up the keys that are too far back. -/
def dropStaleKeys (s : Lexer) : Except Flaw Lexer :=
  if s.keys.any fun k => isStale s.cursor k.2 && k.2.required then malformed
  else .ok { s with keys := s.keys.filter fun k => !isStale s.cursor k.2 }

/-- Gives up the possible key of this level. -/
def removeKey (s : Lexer) : Except Flaw Lexer :=
  match Table.find? s.flow s.keys with
  | some k => if k.required then malformed else .ok { s with keys := Table.erase s.flow s.keys }
  | none => .ok s

/-- Remembers that a key may begin here. -/
def saveKey (s : Lexer) : Except Flaw Lexer :=
  if s.keyAllowed then
    match s.removeKey with
    | .error f => .error f
    | .ok s =>
      let c := s.cursor
      let k : SimpleKey :=
        ⟨s.tokens.size, s.flow == 0 && s.indent == c.column, c.index, c.line, c.column⟩
      .ok { s with keys := Table.insert s.flow k s.keys }
  else .ok s

/-- Closes the block collections to the right of a column. -/
def unwindFrom (column : Int) (s : Lexer) : List Int → Lexer
  | [] => s
  | outer :: rest =>
    if column < s.indent then
      unwindFrom column ({ s with indent := outer, indents := rest }.push .blockEnd) rest
    else s

/-- Closes the block collections to the right of a column; inside flow style none is open. -/
def unwind (s : Lexer) (column : Int) : Lexer :=
  if s.flow = 0 then unwindFrom column s s.indents else s

/-- Opens a block collection at a column further to the right; says whether it did. -/
def openIndent (s : Lexer) (column : Nat) : Bool × Lexer :=
  if s.indent < column then
    (true, { s with indents := s.indent :: s.indents, indent := column })
  else (false, s)

/-- Opens a block collection at this column with the token `t`, if there is need to. -/
def openBlock (s : Lexer) (t : Token) : Lexer :=
  match s.openIndent s.cursor.column with
  | (true, s) => s.push t
  | (false, s) => s

/-- Goes past spaces, comments and line breaks. A new line allows a key in block style. -/
def skipToToken : Nat → Lexer → Lexer
  | 0, s => s
  | n + 1, s =>
    let c := s.cursor.skipSpaces
    let c := if c.head == '#' then c.skipLine else c
    match c.lineBreak? with
    | some (_, c) =>
      skipToToken n { s with cursor := c, keyAllowed := s.keyAllowed || s.flow == 0 }
    | none => { s with cursor := c }

/-- Goes past a byte order mark at the beginning of the text. -/
def skipMark (s : Lexer) : Lexer :=
  if s.cursor.index = 0 ∧ s.cursor.head = '\ufeff' then s.forward 1 else s

/-! ### The kinds of tokens -/

/-- The end of the text. -/
def fetchEnd (s : Lexer) : Except Flaw Lexer := do
  let s ← (s.unwind (-1)).removeKey
  return { s.push .streamEnd with keyAllowed := false, keys := [], done := true }

/-- A directive. -/
def fetchDirective (s : Lexer) : Except Flaw Lexer := do
  let s ← (s.unwind (-1)).removeKey
  let (t, c) ← scanDirective s.cursor
  return { s.push t with keyAllowed := false, cursor := c }

/-- A marker of the beginning or the end of a document. -/
def fetchMarker (s : Lexer) (t : Token) : Except Flaw Lexer := do
  let s ← (s.unwind (-1)).removeKey
  return { (s.forward 3).push t with keyAllowed := false }

/-- The beginning of a flow collection. -/
def fetchFlowStart (s : Lexer) (t : Token) : Except Flaw Lexer := do
  let s ← s.saveKey
  return { (s.forward 1).push t with flow := s.flow + 1, keyAllowed := true }

/-- The end of a flow collection. -/
def fetchFlowEnd (s : Lexer) (t : Token) : Except Flaw Lexer := do
  let s ← s.removeKey
  return { (s.forward 1).push t with flow := s.flow - 1, keyAllowed := false }

/-- The comma between the entries of a flow collection. -/
def fetchFlowEntry (s : Lexer) : Except Flaw Lexer := do
  let s ← { s with keyAllowed := true }.removeKey
  return (s.forward 1).push .flowEntry

/-- The hyphen before an entry of a block sequence. -/
def fetchBlockEntry (s : Lexer) : Except Flaw Lexer := do
  if s.flow = 0 ∧ !s.keyAllowed then malformed
  else
    let s := if s.flow = 0 then s.openBlock .blockSequenceStart else s
    let s ← { s with keyAllowed := true }.removeKey
    return (s.forward 1).push .blockEntry

/-- The question mark before a key. -/
def fetchKey (s : Lexer) : Except Flaw Lexer := do
  if s.flow = 0 ∧ !s.keyAllowed then malformed
  else
    let s := if s.flow = 0 then s.openBlock .blockMappingStart else s
    let s ← { s with keyAllowed := s.flow == 0 }.removeKey
    return (s.forward 1).push .key

/-- The mark of a key in front of what has been read since the place of the key. -/
def markKey (s : Lexer) (k : SimpleKey) : Lexer :=
  let s := { s with keys := Table.erase s.flow s.keys }.insertAt k.token .key
  let s := if s.flow = 0 then
      match s.openIndent k.column with
      | (true, s) => s.insertAt k.token .blockMappingStart
      | (false, s) => s
    else s
  { s with keyAllowed := false }

/-- The colon before a value. -/
def fetchValue (s : Lexer) : Except Flaw Lexer := do
  match Table.find? s.flow s.keys with
  | some k => return ((s.markKey k).forward 1).push .value
  | none =>
    if s.flow = 0 ∧ !s.keyAllowed then malformed
    else
      let s := if s.flow = 0 then s.openBlock .blockMappingStart else s
      let s ← { s with keyAllowed := s.flow == 0 }.removeKey
      return (s.forward 1).push .value

/-- A token that can begin a key, read by `scan`. -/
def fetchNode (s : Lexer) (scan : Cursor → Scan Token) : Except Flaw Lexer := do
  let s ← s.saveKey
  let (t, c) ← scan s.cursor
  return { s.push t with keyAllowed := false, cursor := c }

/-- A block scalar. -/
def fetchBlockScalar (s : Lexer) : Except Flaw Lexer := do
  let s ← { s with keyAllowed := true }.removeKey
  let (codes, c) ← blockScalar s.indent s.cursor
  return { s.push (.scalar codes false) with cursor := c }

/-- A plain scalar. -/
def fetchPlain (s : Lexer) : Except Flaw Lexer := do
  let s ← s.saveKey
  let (codes, broke, c) := plainScalar (s.flow != 0) (s.indent + 1).toNat s.cursor
  return { s.push (.scalar codes true) with keyAllowed := broke, cursor := c }

/-- Whether a plain scalar can begin here. -/
def startsPlain (s : Lexer) : Bool :=
  let ch := s.cursor.head
  !(endsWord ch || "-?:,[]\x7b\x7d#&*!|>'\"%@\x60".toList.contains ch) ||
    (!endsWord (s.cursor.peek 1) && (ch == '-' || (s.flow == 0 && (ch == '?' || ch == ':'))))

/-- Reads the token that begins here. -/
def fetchHere (s : Lexer) : Except Flaw Lexer :=
  let c := s.cursor
  let ch := c.head
  let marks := endsWord (c.peek 1)
  if ch == endMark then s.fetchEnd
  else if ch == '%' && c.column == 0 then s.fetchDirective
  else if c.column == 0 && c.atMarker '-' then s.fetchMarker .documentStart
  else if c.column == 0 && c.atMarker '.' then s.fetchMarker .documentEnd
  else if ch == '[' then s.fetchFlowStart .flowSequenceStart
  else if ch == '\x7b' then s.fetchFlowStart .flowMappingStart
  else if ch == ']' then s.fetchFlowEnd .flowSequenceEnd
  else if ch == '\x7d' then s.fetchFlowEnd .flowMappingEnd
  else if ch == ',' then s.fetchFlowEntry
  else if ch == '-' && marks then s.fetchBlockEntry
  else if ch == '?' && (s.flow != 0 || marks) then s.fetchKey
  else if ch == ':' && (s.flow != 0 || marks) then s.fetchValue
  else if ch == '*' then s.fetchNode fun c => (scanAnchor c).map fun r => (.alias r.1, r.2)
  else if ch == '&' then s.fetchNode fun c => (scanAnchor c).map fun r => (.anchor r.1, r.2)
  else if ch == '!' then s.fetchNode scanTag
  else if (ch == '|' || ch == '>') && s.flow == 0 then s.fetchBlockScalar
  else if ch == '\'' || ch == '"' then
    s.fetchNode fun c => (quotedScalar c).map fun r => (.scalar r.1 false, r.2)
  else if s.startsPlain then s.fetchPlain
  else malformed

/-- Reads the next token. -/
def fetch (s : Lexer) : Except Flaw Lexer := do
  let s ← s.dropStaleKeys
  let s ← (skipToToken s.cursor.steps s.skipMark).dropStaleKeys
  (s.unwind s.cursor.column).fetchHere

/-- The tokens that do not wait for a colon. -/
def settled (s : Lexer) : Array Token :=
  s.tokens.extract 0 (s.keys.foldl (fun n k => min n k.2.token) s.tokens.size)

/-- Reads tokens up to the end of the text or a flaw. -/
def run : Nat → Lexer → Array Token
  | 0, s => s.tokens.push (.flaw .malformed)
  | n + 1, s =>
    match s.fetch with
    | .error f => s.settled.push (.flaw f)
    | .ok s => if s.done then s.tokens else run n s

end Lexer

/-- The tokens of a text, the last of which is `streamEnd` or a flaw. -/
def tokensOf (text : String) : List Token :=
  let c : Cursor := { rest := text.toList }
  ((Lexer.mk c 0 (-1) [] true [] #[] false).run c.steps).toList

end VendorLaunch.Yaml
