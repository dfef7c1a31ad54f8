import VendorLaunch.Text.CaseTable

/-!
# Lower and upper case

The case maps of Unicode for whole texts. A letter goes to its simple image, with three additions:
the capital I with a dot goes to an i and a combining dot, a capital sigma goes to the final sigma
at the end of a word, and the upper case of some letters is several letters.

A word ends at a sigma when a cased character stands before it and none after it, case-ignorable
characters being skipped on both sides.
-/

namespace VendorLaunch.Text

/-- The image of a code point under a list of runs. -/
def runImage? (runs : List (Nat × Nat × Nat × Nat)) (n : Nat) : Option Nat :=
  (runs.find? fun r => r.1 ≤ n && n ≤ r.2.1 && (n - r.1) % r.2.2.1 == 0).map
    fun r => r.2.2.2 + (n - r.1)

/-- The character itself when no run holds it. -/
def mapRun (runs : List (Nat × Nat × Nat × Nat)) (c : Char) : Char :=
  match runImage? runs c.toNat with
  | some n => Char.ofNat n
  | none => c

/-- Whether a character is cased and not case-ignorable. -/
def isCased (c : Char) : Bool := casedRanges.has c.toNat

/-- Whether a character is skipped when looking for the end of a word. -/
def isCaseIgnorable (c : Char) : Bool := caseIgnorableRanges.has c.toNat

/-- Whether the first character that is not case-ignorable is cased. -/
def meetsCased : List Char → Bool
  | [] => false
  | c :: s => if isCaseIgnorable c then meetsCased s else isCased c

/-- The lower case of a capital sigma between `before`, read backwards, and `after`. -/
def lowerSigma (before after : List Char) : Char :=
  if meetsCased before && !meetsCased after then 'ς' else 'σ'

/-- The lower case of a character between its neighbours. -/
def lowerAt (before : List Char) (c : Char) (after : List Char) : List Char :=
  if c = 'Σ' then [lowerSigma before after]
  else if c = 'İ' then ['i', '\u0307']
  else [mapRun lowerRuns c]

/-- The lower case of a text that `before`, read backwards, precedes. -/
def lowerFrom (before : List Char) : List Char → List Char
  | [] => []
  | c :: s => lowerAt before c s ++ lowerFrom (c :: before) s

/-- The lower case of a text. -/
def lower (s : String) : String := String.ofList (lowerFrom [] s.toList)

/-- The upper case of a character. -/
def upperChar (c : Char) : List Char :=
  match upperExpansions.find? fun e => e.1 == c.toNat with
  | some e => e.2.map Char.ofNat
  | none => [mapRun upperRuns c]

/-- The upper case of a text. -/
def upper (s : String) : String := String.ofList (s.toList.flatMap upperChar)

end VendorLaunch.Text
