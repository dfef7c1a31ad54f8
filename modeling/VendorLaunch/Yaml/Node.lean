import VendorLaunch.Yaml.Lexer
import VendorLaunch.Yaml.Resolution

/-!
# Nodes of YAML

The tree that tokens describe: scalars, sequences and mappings with their tags. Reading follows
the grammar of tokens from left to right without going back. A node may carry an anchor, which an
alias further on repeats; an alias inside the very node that it names becomes a leaf `enclosing`.

Each function of the grammar takes a number of steps that bounds how deep it goes; `document`
starts it with more than the tokens can use up.
-/

namespace VendorLaunch.Yaml

/-- A node with its tag. -/
inductive Node where
  | scalar (tag : String) (codes : List Nat)
  | sequence (tag : String) (items : List Node)
  | mapping (tag : String) (entries : List (Node × Node))
  /-- A node around this one, a mapping or a sequence. -/
  | enclosing (isMapping : Bool)
  deriving Repr

/-- What the grammar reads: the tokens that are left, and the anchors so far, with nothing for a
node that is still being read. -/
structure Reading where
  tokens : List Token
  anchors : Table String (Option Node)
  /-- Whether each open node is a mapping. -/
  kinds : Table String Bool := []

/-- What the handles of tags stand for. -/
abbrev Handles := Table String String

/-- The handles that are always there. -/
def defaultHandles : Handles := [("!", "!"), ("!!", coreTag "")]

namespace Reading

/-- The next token. -/
def head (r : Reading) : Token := r.tokens.headD (.flaw .malformed)

/-- Goes past the next token. -/
def next (r : Reading) : Reading := { r with tokens := r.tokens.tail }

/-- Ends a reading at the next token, which does not fit. -/
def unexpected {α : Type} (r : Reading) : Except Flaw α :=
  match r.head with
  | .flaw f => .error f
  | _ => malformed

/-- Records that the node of an anchor begins. -/
def openAnchor (r : Reading) (anchor : Option String) (isMapping : Bool) : Except Flaw Reading :=
  match anchor with
  | none => .ok r
  | some a =>
    if (Table.find? a r.anchors).isSome then malformed
    else .ok { r with
      anchors := Table.insert a none r.anchors, kinds := Table.insert a isMapping r.kinds }

/-- Records the node of an anchor. -/
def closeAnchor (r : Reading) (anchor : Option String) (n : Node) : Reading :=
  match anchor with
  | none => r
  | some a => { r with anchors := Table.insert a (some n) r.anchors }

/-- The node that an alias repeats. -/
def alias? (r : Reading) (name : String) : Except Flaw Node :=
  match Table.find? name r.anchors with
  | some (some n) => .ok n
  | some none => .ok (.enclosing ((Table.find? name r.kinds).getD false))
  | none => malformed

end Reading

/-- The properties before a node: an anchor and a tag in either order. -/
def properties (r : Reading) : Option String × Option (Option String × String) × Reading :=
  match r.tokens with
  | .anchor a :: .tag h s :: ts => (some a, some (h, s), { r with tokens := ts })
  | .tag h s :: .anchor a :: ts => (some a, some (h, s), { r with tokens := ts })
  | .anchor a :: ts => (some a, none, { r with tokens := ts })
  | .tag h s :: ts => (none, some (h, s), { r with tokens := ts })
  | _ => (none, none, r)

/-- The tag that a handle and a suffix make up. -/
def expandTag (handles : Handles) : Option (Option String × String) → Except Flaw (Option String)
  | none => .ok none
  | some (none, s) => .ok (some s)
  | some (some h, s) =>
    match Table.find? h handles with
    | some stem => .ok (some (stem ++ s))
    | none => malformed

/-- The tag of a scalar: the one it has, the one of its shape, or the one of text. -/
def scalarTag (tag : Option String) (codes : List Nat) (plain : Bool) : String :=
  let shaped := implicitTag (codes.map Char.ofNat)
  match tag with
  | none => if plain then shaped else coreTag "str"
  | some t => if t = "!" then shaped else t

/-- The tag of a collection. -/
def collectionTag (tag : Option String) (kind : String) : String :=
  match tag with
  | none => coreTag kind
  | some t => if t = "!" then coreTag kind else t

/-- A node that is left out. -/
def emptyNode : Node := .scalar (coreTag "null") []

/-- A scalar with its anchor. -/
def readScalar (anchor tag : Option String) (codes : List Nat) (plain : Bool) (r : Reading) :
    Except Flaw (Node × Reading) := do
  let r ← r.openAnchor anchor false
  let n := Node.scalar (scalarTag tag codes plain) codes
  return (n, r.closeAnchor anchor n)

/-- Whether an entry of a block sequence is left out. -/
def endsBlockEntry : Token → Bool
  | .blockEntry | .blockEnd => true
  | _ => false

/-- Whether an entry of a sequence that is not indented is left out. -/
def endsBareEntry : Token → Bool
  | .blockEntry | .key | .value | .blockEnd => true
  | _ => false

/-- Whether a key or value of a block mapping is left out. -/
def endsBlockField : Token → Bool
  | .key | .value | .blockEnd => true
  | _ => false

/-- Whether a key of a flow collection, or the value of a single pair, is left out. -/
def endsFlowField (close : Token) (isKey : Bool) (t : Token) : Bool :=
  t == close || t == .flowEntry || (isKey && t == .value)

mutual

/-- Reads a node; `block` allows block collections, and `bare` a block sequence that is not
indented. -/
def readNode (handles : Handles) (block bare : Bool) :
    Nat → Reading → Except Flaw (Node × Reading)
  | 0, _ => malformed
  | n + 1, r =>
    match r.head with
    | .alias name => do
      let node ← r.alias? name
      return (node, r.next)
    | _ => do
      let (anchor, tag, r) := properties r
      let tag ← expandTag handles tag
      match r.head with
      | .scalar codes plain => readScalar anchor tag codes plain r.next
      | .flowSequenceStart => do
        let r ← r.next.openAnchor anchor false
        let (items, r) ← readFlowItems handles true n r
        let node := Node.sequence (collectionTag tag "seq") items
        return (node, r.closeAnchor anchor node)
      | .flowMappingStart => do
        let r ← r.next.openAnchor anchor true
        let (entries, r) ← readFlowFields handles true n r
        let node := Node.mapping (collectionTag tag "map") entries
        return (node, r.closeAnchor anchor node)
      | .blockSequenceStart =>
        if block then do
          let r ← r.next.openAnchor anchor false
          let (items, r) ← readBlockItems handles n r
          let node := Node.sequence (collectionTag tag "seq") items
          return (node, r.closeAnchor anchor node)
        else readNothing anchor tag r
      | .blockMappingStart =>
        if block then do
          let r ← r.next.openAnchor anchor true
          let (entries, r) ← readBlockFields handles n r
          let node := Node.mapping (collectionTag tag "map") entries
          return (node, r.closeAnchor anchor node)
        else readNothing anchor tag r
      | .blockEntry =>
        if bare then do
          let r ← r.openAnchor anchor false
          let (items, r) ← readBareItems handles n r
          let node := Node.sequence (collectionTag tag "seq") items
          return (node, r.closeAnchor anchor node)
        else readNothing anchor tag r
      | _ => readNothing anchor tag r
where
  /-- A node of properties alone. -/
  readNothing (anchor tag : Option String) (r : Reading) : Except Flaw (Node × Reading) :=
    match r.head with
    | .flaw f => .error f
    | _ =>
      if anchor.isSome || tag.isSome then readScalar anchor tag [] (tag.isNone) r
      else malformed

/-- Reads a node, unless it is left out. -/
def readOr (handles : Handles) (block bare : Bool) (omitted : Token → Bool) :
    Nat → Reading → Except Flaw (Node × Reading)
  | 0, _ => malformed
  | n + 1, r => if omitted r.head then .ok (emptyNode, r) else readNode handles block bare n r

/-- Reads the entries of a block sequence. -/
def readBlockItems (handles : Handles) : Nat → Reading → Except Flaw (List Node × Reading)
  | 0, _ => malformed
  | n + 1, r =>
    match r.head with
    | .blockEntry => do
      let (item, r) ← readOr handles true false endsBlockEntry n r.next
      let (items, r) ← readBlockItems handles n r
      return (item :: items, r)
    | .blockEnd => .ok ([], r.next)
    | _ => r.unexpected

/-- Reads the entries of a block sequence that is not indented. -/
def readBareItems (handles : Handles) : Nat → Reading → Except Flaw (List Node × Reading)
  | 0, _ => malformed
  | n + 1, r =>
    match r.head with
    | .blockEntry => do
      let (item, r) ← readOr handles true false endsBareEntry n r.next
      let (items, r) ← readBareItems handles n r
      return (item :: items, r)
    | _ => .ok ([], r)

/-- Reads the fields of a block mapping. -/
def readBlockFields (handles : Handles) :
    Nat → Reading → Except Flaw (List (Node × Node) × Reading)
  | 0, _ => malformed
  | n + 1, r =>
    match r.head with
    | .key => do
      let (k, r) ← readOr handles true true endsBlockField n r.next
      let (v, r) ← match r.head with
        | .value => readOr handles true true endsBlockField n r.next
        | _ => .ok (emptyNode, r)
      let (fields, r) ← readBlockFields handles n r
      return ((k, v) :: fields, r)
    | .blockEnd => .ok ([], r.next)
    | _ => r.unexpected

/-- Reads the entries of a flow sequence; `first` says that none has been read. -/
def readFlowItems (handles : Handles) (first : Bool) :
    Nat → Reading → Except Flaw (List Node × Reading)
  | 0, _ => malformed
  | n + 1, r =>
    if r.head == .flowSequenceEnd then .ok ([], r.next)
    else if !first && r.head != .flowEntry then r.unexpected
    else
      let r := if first then r else r.next
      match r.head with
      | .flowSequenceEnd => .ok ([], r.next)
      | .key => do
        let (k, r) ← readOr handles false false (endsFlowField .flowSequenceEnd true) n r.next
        let (v, r) ← readFlowValue handles .flowSequenceEnd n r
        let (items, r) ← readFlowItems handles false n r
        return (.mapping (coreTag "map") [(k, v)] :: items, r)
      | _ => do
        let (item, r) ← readNode handles false false n r
        let (items, r) ← readFlowItems handles false n r
        return (item :: items, r)

/-- Reads the value after a key of a flow collection. -/
def readFlowValue (handles : Handles) (close : Token) :
    Nat → Reading → Except Flaw (Node × Reading)
  | 0, _ => malformed
  | n + 1, r =>
    match r.head with
    | .value => readOr handles false false (endsFlowField close false) n r.next
    | _ => .ok (emptyNode, r)

/-- Reads the fields of a flow mapping; `first` says that none has been read. -/
def readFlowFields (handles : Handles) (first : Bool) :
    Nat → Reading → Except Flaw (List (Node × Node) × Reading)
  | 0, _ => malformed
  | n + 1, r =>
    if r.head == .flowMappingEnd then .ok ([], r.next)
    else if !first && r.head != .flowEntry then r.unexpected
    else
      let r := if first then r else r.next
      match r.head with
      | .flowMappingEnd => .ok ([], r.next)
      | .key => do
        let (k, r) ← readOr handles false false (endsFlowField .flowMappingEnd true) n r.next
        let (v, r) ← readFlowValue handles .flowMappingEnd n r
        let (fields, r) ← readFlowFields handles false n r
        return ((k, v) :: fields, r)
      | _ => do
        let (k, r) ← readNode handles false false n r
        let (fields, r) ← readFlowFields handles false n r
        return ((k, emptyNode) :: fields, r)

end

/-! ### Documents -/

/-- Reads the directives before a document: the version, if it was given, and the handles. -/
def readDirectives (versioned : Bool) (handles : Handles) :
    List Token → Except Flaw (Handles × List Token)
  | .directive (.version major _) :: ts =>
    if versioned || major != 1 then malformed else readDirectives true handles ts
  | .directive (.tag h stem) :: ts =>
    if (Table.find? h handles).isSome then malformed
    else readDirectives versioned (handles ++ [(h, stem)]) ts
  | .directive .other :: ts => readDirectives versioned handles ts
  | ts => .ok (handles, ts)

/-- The handles of a document: its own, and the ones that are always there. -/
def allHandles (own : Handles) : Handles :=
  own ++ defaultHandles.filter fun h => (Table.find? h.1 own).isNone

/-- Whether a document without content ends here. -/
def endsDocument : Token → Bool
  | .directive _ | .documentStart | .documentEnd | .streamEnd => true
  | _ => false

/-- Accepts the end of the text after a document, and nothing else. -/
def readEnd (r : Reading) : Except Flaw Unit := do
  let rest := r.tokens.dropWhile (· == .documentEnd)
  match rest with
  | .streamEnd :: _ => return ()
  | _ =>
    let (_, rest) ← readDirectives false [] rest
    { r with tokens := rest }.unexpected

/-- The node of the only document among tokens, or nothing when there is no document. -/
def document (tokens : List Token) : Except Flaw (Option Node) := do
  let steps := 4 * tokens.length + 8
  match tokens.head? with
  | some .streamEnd => return none
  | some (.directive _) | some .documentStart =>
    let (own, rest) ← readDirectives false [] tokens
    let r : Reading := { tokens := rest, anchors := [] }
    match r.head with
    | .documentStart =>
      let (node, r) ← readOr (allHandles own) true false endsDocument steps r.next
      readEnd r
      return some node
    | _ => r.unexpected
  | _ =>
    let (node, r) ← readNode defaultHandles true false steps { tokens := tokens, anchors := [] }
    readEnd r
    return some node

end VendorLaunch.Yaml
