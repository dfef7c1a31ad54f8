import VendorLaunch.Number.Binary64
import VendorLaunch.Text.Blank
import VendorLaunch.Text.Case
import VendorLaunch.Text.Digit

/-!
# Number literals

Three readers of number texts.

* `lenientInt?` reads the integers that data may give as text: a sign, digits with single
  underscores between them, and a fraction of zeros, with white space around.
* `intOfBase?` reads an integer of a given base: a sign, a base mark, digits of any script with
  single underscores between them, with white space around.
* `floatOf?` reads a decimal number, an infinity or a NaN, with white space around.
-/

namespace VendorLaunch.Number

open VendorLaunch.Text

/-! ### White space -/

/-- White space of Unicode: a blank other than the separators U+001C to U+001F. -/
def isSpace (c : Char) : Bool := isBlank c && !(0x1c ≤ c.toNat && c.toNat ≤ 0x1f)

/-- The text without white space at its ends. -/
def stripSpace (s : List Char) : List Char :=
  ((s.dropWhile isSpace).reverse.dropWhile isSpace).reverse

/-! ### Integers in data -/

/-- The value of a digit of the scripts used in base 36. -/
def asciiDigit? (c : Char) : Option Nat :=
  if '0' ≤ c && c ≤ '9' then some (c.toNat - 48)
  else if 'a' ≤ c && c ≤ 'z' then some (c.toNat - 87)
  else if 'A' ≤ c && c ≤ 'Z' then some (c.toNat - 55)
  else none

/-- Reads digits with single underscores between them, after digits of value `n`; `pending` says
that a digit has to come next. -/
def digitsFrom? (digit? : Char → Option Nat) (base : Nat) (pending : Bool) (n : Nat) :
    List Char → Option Nat
  | [] => if pending then none else some n
  | c :: s =>
    if c = '_' then
      if pending then none else digitsFrom? digit? base true n s
    else
      match digit? c with
      | some d => if d < base then digitsFrom? digit? base false (n * base + d) s else none
      | none => none

/-- Reads at least one digit, with single underscores between digits. -/
def digits? (digit? : Char → Option Nat) (base : Nat) : List Char → Option Nat
  | [] => none
  | s => digitsFrom? digit? base true 0 s

/-- Drops a fraction that consists of zeros. -/
def dropZeroFraction (s : List Char) : List Char :=
  let whole := s.takeWhile (· ≠ '.')
  match s.drop whole.length with
  | [] => s
  | _ :: fraction => if fraction.all (· = '0') then whole else s

/-- Drops leading zeros, and underscores between them, before a digit. The last zero stays when
nothing but a fraction follows. -/
def dropLeadingZeros (last : Char) : List Char → Option (List Char)
  | [] => some [last]
  | c :: s =>
    if c = '0' || c = '_' then dropLeadingZeros c s
    else if c = '.' then some (last :: c :: s)
    else if '1' ≤ c && c ≤ '9' then some (c :: s)
    else none

/-- The value of the digits of a lenient integer. -/
def lenientNat? (s : List Char) : Option Nat :=
  digits? (fun c => if '0' ≤ c && c ≤ '9' then asciiDigit? c else none) 10 (dropZeroFraction s)

/-- An integer given as text in data. -/
def lenientInt? (text : String) : Option Int :=
  let s := stripSpace text.toList
  match s with
  | '-' :: r => (lenientNat? r).map fun n => -(n : Int)
  | _ =>
    let r := match s with
      | '+' :: r => r
      | _ => s
    match r with
    | '0' :: r => (dropLeadingZeros '0' r).bind fun r => (lenientNat? r).map Int.ofNat
    | _ => (lenientNat? r).map Int.ofNat

/-! ### Integers of a base -/

/-- The value of a digit of any script or of a letter. -/
def digitOf? (c : Char) : Option Nat :=
  match asciiDigit? c with
  | some d => some d
  | none => digitValue? c

/-- The letters that may mark a base. -/
def baseMark (base : Nat) : List Char :=
  match base with
  | 16 => ['x', 'X']
  | 8 => ['o', 'O']
  | 2 => ['b', 'B']
  | _ => []

/-- Drops a base mark and one underscore after it. -/
def dropBaseMark (base : Nat) : List Char → List Char
  | '0' :: c :: s =>
    if (baseMark base).contains c then
      match s with
      | '_' :: r => r
      | _ => s
    else '0' :: c :: s
  | s => s

/-- The integer of base `base` that a text denotes. -/
def intOfBase? (base : Nat) (text : String) : Option Int :=
  match stripSpace text.toList with
  | '-' :: s => (digits? digitOf? base (dropBaseMark base s)).map fun n => -(n : Int)
  | '+' :: s => (digits? digitOf? base (dropBaseMark base s)).map Int.ofNat
  | s => (digits? digitOf? base (dropBaseMark base s)).map Int.ofNat

/-! ### Decimal numbers -/

/-- The digits of a number at the head of a text, underscores dropped between digits: their value,
their count and the rest. -/
def takeDigits (n count : Nat) : List Char → Nat × Nat × List Char
  | [] => (n, count, [])
  | '_' :: c :: s =>
    match digitValue? c with
    | some d =>
      if count = 0 then (n, count, '_' :: c :: s) else takeDigits (n * 10 + d) (count + 1) s
    | none => (n, count, '_' :: c :: s)
  | c :: s =>
    match digitValue? c with
    | some d => takeDigits (n * 10 + d) (count + 1) s
    | none => (n, count, c :: s)

/-- A signed exponent, or nothing when the text is empty. -/
def exponentOf? (s : List Char) : Option Int :=
  match s with
  | [] => some 0
  | c :: r =>
    if c = 'e' || c = 'E' then
      let (negative, r) := match r with
        | '-' :: r => (true, r)
        | '+' :: r => (false, r)
        | _ => (false, r)
      match takeDigits 0 0 r with
      | (n, count, []) => if count = 0 then none else some (if negative then -(n : Int) else n)
      | _ => none
    else none

/-- An unsigned decimal number. -/
def unsignedFloat? (negative : Bool) (s : List Char) : Option Binary64 :=
  let word := lower (String.ofList s)
  if word = "inf" || word = "infinity" then some (.infinite negative)
  else if word = "nan" then some .nan
  else
    let (n, count, r) := takeDigits 0 0 s
    let (n, places, r) := match r with
      | '.' :: r =>
        let (m, k, r) := takeDigits 0 0 r
        (n * Nat.pow 10 k + m, k, r)
      | _ => (n, 0, r)
    if count + places = 0 then none
    else (exponentOf? r).map fun e => Binary64.ofDecimal negative n (e - places)

/-- The number that a text denotes. -/
def floatOf? (text : String) : Option Binary64 :=
  match stripSpace text.toList with
  | '-' :: s => unsignedFloat? true s
  | '+' :: s => unsignedFloat? false s
  | s => unsignedFloat? false s

end VendorLaunch.Number
