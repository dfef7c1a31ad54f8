import VendorLaunch.Data
import VendorLaunch.Text.Case
import VendorLaunch.Yaml.Node
import VendorLaunch.Yaml.Timestamp

/-!
# The values of YAML nodes

A node denotes data by its tag. Scalars are converted where they stand. A collection is made empty
first and filled in later: all collections of one round are filled, from left to right, and the
ones found inside them make up the next round. So the flaw that is reported is the first one of
the first round that has any. A collection is no key of a mapping, whatever it holds.

Before a mapping is filled, the mappings under its merge keys are put in front of its own fields,
which thereby replace them.
-/

namespace VendorLaunch.Yaml

/-! ### Scalars -/

/-- A text, or a broken one when it holds surrogates. -/
def textValue (codes : List Nat) : Data :=
  if codes.any fun n => 0xd800 ≤ n && n < 0xe000 then .brokenText codes
  else .text (textOfCodes codes)

/-- The words for truth values, in lower case. -/
def truthWords : List (String × Bool) :=
  [("yes", true), ("no", false), ("true", true), ("false", false), ("on", true), ("off", false)]

/-- The truth value of a word. -/
def boolValue (s : String) : Except Fault Data :=
  let w := Text.lower s
  match truthWords.find? fun t => t.1 == w with
  | some t => .ok (.bool t.2)
  | none => .error (.named "KeyError" w)

/-- The fault of a number without a first character. -/
def noFirstChar : Fault := .named "IndexError" "string index out of range"

/-- Takes off a sign: whether the number is negative, and the rest. -/
def takeSign : List Char → Except Fault (Bool × List Char)
  | [] => .error noFirstChar
  | '-' :: s => .ok (true, s)
  | '+' :: s => .ok (false, s)
  | s => .ok (false, s)

/-- The value of groups in base sixty. -/
def sixties (parts : List Int) : Int := parts.foldl (fun n p => n * 60 + p) 0

/-- The value of an unsigned integer: binary, hexadecimal, octal, in base sixty or decimal. -/
def unsignedInt (s : List Char) : Except Fault Int :=
  match s with
  | [] => .error noFirstChar
  | ['0'] => .ok 0
  | '0' :: 'b' :: r => Number.readInt 2 (String.ofList r)
  | '0' :: 'x' :: r => Number.readInt 16 (String.ofList r)
  | '0' :: _ => Number.readInt 8 (String.ofList s)
  | _ =>
    if s.contains ':' then
      ((Text.splitChars [':'] s).mapM fun p => Number.readInt 10 (String.ofList p)).map sixties
    else Number.readInt 10 (String.ofList s)

/-- The value of an integer. -/
def intValue (s : String) : Except Fault Data := do
  let (negative, r) ← takeSign (s.toList.filter (· != '_'))
  let n ← unsignedInt r
  return .int (if negative then -n else n)

/-- The value of floating-point groups in base sixty, the last one first, each with its weight. -/
def floatSixties (weight : Nat) (sum : Binary64) : List Binary64 → Binary64
  | [] => sum
  | x :: xs => floatSixties (weight * 60) (sum.add (x.mulNat weight)) xs

/-- The value of an unsigned floating-point number in lower case. -/
def unsignedFloat (s : List Char) : Except Fault Binary64 :=
  if s == ".inf".toList then .ok (.infinite false)
  else if s == ".nan".toList then .ok .nan
  else if s.contains ':' then
    ((Text.splitChars [':'] s).mapM fun p => Number.readFloat (String.ofList p)).map fun ps =>
      floatSixties 1 (.finite false 0 0) ps.reverse
  else Number.readFloat (String.ofList s)

/-- The value of a floating-point number. -/
def floatValue (s : String) : Except Fault Data := do
  let (negative, r) ← takeSign (Text.lower (String.ofList (s.toList.filter (· != '_')))).toList
  let x ← unsignedFloat r
  return .float (if negative then x.neg else x)

/-- The value of a character in base 64. -/
def base64Digit? (c : Char) : Option Nat :=
  if 'A' ≤ c && c ≤ 'Z' then some (c.toNat - 65)
  else if 'a' ≤ c && c ≤ 'z' then some (c.toNat - 71)
  else if c.isDigit then some (c.toNat + 4)
  else if c == '+' then some 62
  else if c == '/' then some 63
  else none

/-- Reads base 64. `place` digits of a group of four have been read and `left` are the bits of
the last one that are still to be written; `pads` padding characters stand before this place.
Characters that belong to no group are passed over. -/
def base64From (place left pads : Nat) : List Char → Option (List UInt8)
  | [] => if place = 0 then some [] else none
  | c :: s =>
    if c == '=' then
      if 2 ≤ place then
        if 4 ≤ place + pads + 1 then some [] else base64From place left (pads + 1) s
      else base64From place left pads s
    else
      match base64Digit? c with
      | none => base64From place left pads s
      | some d =>
        if place = 0 then base64From 1 d 0 s
        else if place = 1 then
          (base64From 2 (d % 16) 0 s).map (UInt8.ofNat (left * 4 + d / 16) :: ·)
        else if place = 2 then
          (base64From 3 (d % 4) 0 s).map (UInt8.ofNat (left * 16 + d / 4) :: ·)
        else (base64From 0 0 0 s).map (UInt8.ofNat (left * 64 + d) :: ·)

/-- The bytes of a text in base 64. -/
def bytesValue (codes : List Nat) : Except Flaw Data :=
  if codes.all (· < 128) then
    match base64From 0 0 0 (codes.map Char.ofNat) with
    | some b => .ok (.bytes b)
    | none => malformed
  else malformed

/-- The value of a day or a point of time. -/
def timeValue (s : String) : Except Fault Data := do
  let t ← readTimestamp s.toList
  return match t.clock with
    | none => .date t.year t.month t.day
    | some _ => .time s

/-- Turns a fault into a flaw. -/
def flawed (r : Except Fault Data) : Except Flaw Data :=
  match r with
  | .ok d => .ok d
  | .error f => .error (.fault f)

/-- The conversions of scalars by tag. -/
def scalarValue? (tag : String) (codes : List Nat) : Option (Except Flaw Data) :=
  let s := textOfCodes codes
  if tag = coreTag "str" then some (.ok (textValue codes))
  else if tag = coreTag "null" then some (.ok .null)
  else if tag = coreTag "bool" then some (flawed (boolValue s))
  else if tag = coreTag "int" then some (flawed (intValue s))
  else if tag = coreTag "float" then some (flawed (floatValue s))
  else if tag = coreTag "binary" then some (bytesValue codes)
  else if tag = coreTag "timestamp" then some (flawed (timeValue s))
  else none

/-! ### Collections -/

/-- The tag of a node. -/
def Node.tag : Node → String
  | .scalar t _ | .sequence t _ | .mapping t _ => t
  | .enclosing isMapping => coreTag (if isMapping then "map" else "seq")

/-- The scalar content of a node: its own, or that of the value under the key `=`. -/
def Node.content? : Node → Option (List Nat)
  | .scalar _ codes => some codes
  | .mapping _ entries => contentIn? entries
  | _ => none
where
  /-- The content of the value under the first key `=`. -/
  contentIn? : List (Node × Node) → Option (List Nat)
    | [] => none
    | (k, v) :: rest =>
      if k.tag = coreTag "value" then v.content? else contentIn? rest

/-- The depth of a node. -/
def Node.depth : Node → Nat
  | .scalar .. | .enclosing _ => 1
  | .sequence _ items => depthAll items + 1
  | .mapping _ entries => depthEntries entries + 1
where
  /-- The largest depth in a list. -/
  depthAll : List Node → Nat
    | [] => 0
    | x :: xs => max x.depth (depthAll xs)
  /-- The largest depth among keys and values. -/
  depthEntries : List (Node × Node) → Nat
    | [] => 0
    | (k, v) :: es => max (max k.depth v.depth) (depthEntries es)

/-- Whether a key merges the mappings under it. -/
def isMergeKey (k : Node) : Bool := k.tag == coreTag "merge"

/-- A key `=` is read as text. -/
def plainKey (k : Node) : Node :=
  match k with
  | .scalar t codes => if t = coreTag "value" then .scalar (coreTag "str") codes else k
  | _ => k

mutual

/-- The fields of a mapping: the merged ones, and its own. -/
def mergeFields : List (Node × Node) → Except Flaw (List (Node × Node) × List (Node × Node))
  | [] => .ok ([], [])
  | (k, v) :: rest =>
    if isMergeKey k then
      match mergedFrom v with
      | .error f => .error f
      | .ok fields =>
        match mergeFields rest with
        | .error f => .error f
        | .ok (merged, own) => .ok (fields ++ merged, own)
    else
      match mergeFields rest with
      | .error f => .error f
      | .ok (merged, own) => .ok (merged, (plainKey k, v) :: own)

/-- The fields that a merge key brings: those of a mapping, or of several, the first of which
wins. -/
def mergedFrom : Node → Except Flaw (List (Node × Node))
  | .mapping _ entries =>
    match mergeFields entries with
    | .error f => .error f
    | .ok (merged, own) => .ok (merged ++ own)
  | .sequence _ items => (mergedItems items).map fun fs => fs.reverse.flatten
  | .scalar .. => malformed
  | .enclosing _ => .ok []

/-- The fields of several mappings. -/
def mergedItems : List Node → Except Flaw (List (List (Node × Node)))
  | [] => .ok []
  | .mapping _ entries :: rest =>
    match mergeFields entries with
    | .error f => .error f
    | .ok (merged, own) => (mergedItems rest).map ((merged ++ own) :: ·)
  | .enclosing _ :: rest => (mergedItems rest).map ([] :: ·)
  | _ :: _ => malformed

end

/-- What becomes of a node: its value, the flaw met where it stands, and the flaws met in the
rounds after that. -/
structure Built where
  value : Data
  now : Option Flaw := none
  later : List (Option Flaw) := []

/-- The first flaw of each round. -/
def mergeRounds : List (Option Flaw) → List (Option Flaw) → List (Option Flaw)
  | [], ys => ys
  | xs, [] => xs
  | x :: xs, y :: ys => x.or y :: mergeRounds xs ys

/-- The first flaw among some. -/
def firstFlaw (fs : List (Option Flaw)) : Option Flaw := fs.foldr Option.or none

/-- The rounds of several nodes. -/
def allRounds (bs : List Built) : List (Option Flaw) :=
  bs.foldr (fun b rounds => mergeRounds b.later rounds) []

/-- A value that stands at once, or a flaw. -/
def Built.ofScalar : Except Flaw Data → Built
  | .ok d => { value := d }
  | .error f => { value := .null, now := some f }

/-- A node that cannot be converted. -/
def Built.bad : Built := Built.ofScalar malformed

/-- A collection that cannot be filled. -/
def Built.unfillable (empty : Data) : Built :=
  { value := empty, later := [some .malformed] }

/-- A sequence of built items. -/
def Built.ofItems (items : List Built) : Built where
  value := .list (items.map Built.value)
  later := firstFlaw (items.map Built.now) :: allRounds items

/-- Puts a field into a mapping. -/
def putField (fields : List (Data × Data)) (k v : Data) : List (Data × Data) :=
  if fields.any fun f => f.1.sameKey k then
    fields.map fun f => if f.1.sameKey k then (f.1, v) else f
  else fields ++ [(k, v)]

/-- The flaw of a key that cannot be one. -/
def keyFlaw (k : Built) : Option Flaw :=
  k.now.or (if k.value.hashable then none else some .malformed)

/-- A mapping of built fields, with the value that its fields make up. -/
def Built.ofFields (fields : List (Built × Built)) (make : List (Data × Data) → Data) : Built where
  value := make (fields.foldl (fun fs f => putField fs f.1.value f.2.value) [])
  later := firstFlaw (fields.map fun f => (keyFlaw f.1).or f.2.now) ::
    allRounds (fields.map Prod.snd)

/-- A list of built pairs, with what is wrong with its items in their order. -/
def Built.ofPairs (pairs : List (Except Flaw (Built × Built))) : Built :=
  let parts := pairs.filterMap fun
    | .ok p => some p
    | .error _ => none
  { value := .list (parts.map fun p => .tuple [p.1.value, p.2.value])
    later := firstFlaw (pairs.map fun
      | .ok p => p.1.now.or p.2.now
      | .error f => some f) :: allRounds (parts.flatMap fun p => [p.1, p.2]) }

/-- The tags of lists of pairs. -/
def isPairsTag (tag : String) : Bool := tag == coreTag "omap" || tag == coreTag "pairs"

/-- Converts a node whose depth is at most the number of steps. -/
def build : Nat → Node → Built
  | 0, _ => Built.bad
  | n + 1, node =>
    let tag := node.tag
    if (scalarValue? tag []).isSome then
      match node.content? with
      | some codes => Built.ofScalar ((scalarValue? tag codes).getD malformed)
      | none => Built.bad
    else
      match node with
      | .enclosing isMapping => { value := if isMapping then .dict [] else .list [] }
      | _ =>
        if tag = coreTag "seq" then
          match node with
          | .sequence _ items => Built.ofItems (items.map (build n))
          | _ => Built.unfillable (.list [])
        else if isPairsTag tag then
          match node with
          | .sequence _ items => Built.ofPairs (items.map fun
              | .mapping _ [(k, v)] => .ok (build n k, build n v)
              | _ => malformed)
          | _ => Built.unfillable (.list [])
        else if tag = coreTag "map" ∨ tag = coreTag "set" then
          let make : List (Data × Data) → Data := fun fs =>
            if tag = coreTag "map" then .dict fs else .set (fs.map Prod.fst)
          match node with
          | .mapping _ entries =>
            match mergeFields entries with
            | .ok (merged, own) =>
              Built.ofFields ((merged ++ own).map fun f => (build n f.1, build n f.2)) make
            | .error f => { value := make [], later := [some f] }
          | _ => Built.unfillable (make [])
        else Built.bad

/-- The data that a node denotes. -/
def Node.value (node : Node) : Except Flaw Data :=
  let b := build node.depth node
  match b.now.or (firstFlaw b.later) with
  | some f => .error f
  | none => .ok b.value

end VendorLaunch.Yaml
