import VendorLaunch.Yaml.Cursor

/-!
# The tags of plain scalars

A plain scalar without a tag gets one from its shape: the words for truth values and nothing, the
forms of integers, floating-point numbers and points of time, and the two marks `<<` and `=`. Every
other scalar is text.

The forms are written as small matchers on characters. A matcher gives what is left after what it
matches; a form matches when nothing is left.
-/

namespace VendorLaunch.Yaml

/-- The beginning of the tags of the language itself. -/
def coreTag (name : String) : String := "tag:yaml.org,2002:" ++ name

/-! ### Matchers -/

/-- Goes past an optional sign. -/
def optionalSign : List Char → List Char
  | '+' :: s | '-' :: s => s
  | s => s

/-- Goes past at least one character that `p` holds of. -/
def some? (p : Char → Bool) (s : List Char) : Option (List Char) :=
  match s with
  | c :: r => if p c then some (r.dropWhile p) else none
  | [] => none

/-- Goes past a character. -/
def char? (c : Char) : List Char → Option (List Char)
  | d :: s => if c == d then some s else none
  | [] => none

/-- Whether a character is a digit of a base up to ten or an underscore. -/
def isDigitOr_ (base : Nat) (c : Char) : Bool :=
  c == '_' || (c.isDigit && c.toNat - 48 < base)

/-- Goes past a number of exactly one or two digits. -/
def oneOrTwo? (s : List Char) : Option (List Char) :=
  match s with
  | c :: d :: r => if c.isDigit then (if d.isDigit then some r else some (d :: r)) else none
  | [c] => if c.isDigit then some [] else none
  | [] => none

/-- Goes past `n` digits. -/
def digits? : Nat → List Char → Option (List Char)
  | 0, s => some s
  | n + 1, c :: s => if c.isDigit then digits? n s else none
  | _ + 1, [] => none

/-- Whether the rest is one or more groups of a colon and a number below sixty. -/
def isSixties : Nat → List Char → Bool
  | 0, _ => false
  | n + 1, ':' :: c :: d :: s =>
    if c.isDigit && c ≤ '5' && d.isDigit then s.isEmpty || isSixties n s
    else c.isDigit && isSixties n (d :: s)
  | _ + 1, [':', c] => c.isDigit
  | _ + 1, _ => false

/-! ### Forms -/

/-- A digit other than zero, then digits and underscores. -/
def positive? : List Char → Option (List Char)
  | c :: s => if c.isDigit && c != '0' then some (s.dropWhile (isDigitOr_ 10)) else none
  | [] => none

/-- Whether a text has the form of an integer. -/
def isInt (s : List Char) : Bool :=
  let s := optionalSign s
  match s with
  | '0' :: 'b' :: r => some? (isDigitOr_ 2) r == some []
  | '0' :: 'x' :: r => some? (fun c => c == '_' || isHexChar c) r == some []
  | ['0'] => true
  | '0' :: r => some? (isDigitOr_ 8) r == some []
  | _ =>
    match positive? s with
    | some [] => true
    | some r => isSixties r.length r
    | none => false

/-- Whether the rest is nothing or a signed exponent. -/
def isExponent (s : List Char) : Bool :=
  match s with
  | [] => true
  | e :: sign :: r =>
    (e == 'e' || e == 'E') && (sign == '+' || sign == '-') && some? Char.isDigit r == some []
  | _ => false

/-- Whether the rest is groups below sixty, a point, and digits. -/
def isSixtiesFraction (s : List Char) : Bool :=
  let whole := s.takeWhile (· != '.')
  match s.drop whole.length with
  | '.' :: r => isSixties whole.length whole && r.all (isDigitOr_ 10)
  | _ => false

/-- The words for an infinity after a point. -/
def infinityWords : List (List Char) := ["inf".toList, "Inf".toList, "INF".toList]

/-- The words for what is not a number after a point. -/
def nanWords : List (List Char) := ["nan".toList, "NaN".toList, "NAN".toList]

/-- Digits and underscores after a first digit. -/
def wholePart? : List Char → Option (List Char)
  | c :: s => if c.isDigit then some (s.dropWhile (isDigitOr_ 10)) else none
  | [] => none

/-- Whether a text has the form of a floating-point number. -/
def isFloat (s : List Char) : Bool :=
  let unsigned := optionalSign s
  let pointed := match s with
    | '.' :: r =>
      nanWords.contains r || (match wholePart? r with
        | some r => isExponent r
        | none => false)
    | _ => false
  let whole := match wholePart? unsigned with
    | some ('.' :: r) => isExponent (r.dropWhile (isDigitOr_ 10))
    | some r => isSixtiesFraction r
    | none => false
  let infinite := match unsigned with
    | '.' :: r => infinityWords.contains r
    | _ => false
  pointed || whole || infinite

/-- Whether the rest is nothing or a time zone. -/
def isZone (s : List Char) : Bool :=
  let r := s.dropWhile fun c => c == ' ' || c == '\t'
  match r with
  | [] => s.isEmpty
  | ['Z'] => true
  | sign :: r =>
    (sign == '+' || sign == '-') && (match oneOrTwo? r with
      | some [] => true
      | some (':' :: r) => digits? 2 r == some []
      | _ => false)

/-- Whether the rest is nothing or a fraction of a second, then nothing or a time zone. -/
def isFraction : List Char → Bool
  | '.' :: s => isZone (s.dropWhile Char.isDigit)
  | s => isZone s

/-- Goes past what stands between a day and an hour. -/
def dayEnd? : List Char → Option (List Char)
  | 'T' :: s | 't' :: s => some s
  | s => some? (fun c => c == ' ' || c == '\t') s

/-- Whether the rest is a time of day. -/
def isClock (s : List Char) : Bool :=
  match (dayEnd? s).bind oneOrTwo? |>.bind (char? ':') |>.bind (digits? 2) |>.bind (char? ':')
    |>.bind (digits? 2) with
  | some r => isFraction r
  | none => false

/-- Whether a text has the form of a day or a point of time. -/
def isTimestamp (s : List Char) : Bool :=
  match (digits? 4 s).bind (char? '-') with
  | none => false
  | some r =>
    (match (digits? 2 r).bind (char? '-') |>.bind (digits? 2) with
      | some [] => true
      | _ => false) ||
    (match (oneOrTwo? r).bind (char? '-') |>.bind oneOrTwo? with
      | some r => isClock r
      | none => false)

/-- The words for truth values. -/
def boolWords : List (List Char) :=
  ["yes", "Yes", "YES", "no", "No", "NO", "true", "True", "TRUE", "false", "False", "FALSE", "on",
    "On", "ON", "off", "Off", "OFF"].map String.toList

/-- The words for nothing. -/
def nullWords : List (List Char) := ["~", "null", "Null", "NULL", ""].map String.toList

/-- The tag that a plain scalar gets from its shape. -/
def implicitTag (s : List Char) : String :=
  if boolWords.contains s then coreTag "bool"
  else if isFloat s then coreTag "float"
  else if isInt s then coreTag "int"
  else if s == ['<', '<'] then coreTag "merge"
  else if nullWords.contains s then coreTag "null"
  else if isTimestamp s then coreTag "timestamp"
  else if s == ['='] then coreTag "value"
  else if s == ['!'] || s == ['&'] || s == ['*'] then coreTag "yaml"
  else coreTag "str"

end VendorLaunch.Yaml
