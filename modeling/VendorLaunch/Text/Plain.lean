/-!
# Text without terminal styles

A terminal takes an escape character, an opening bracket, parameters and a letter for a change of
style. Output that does not go to a terminal leaves such sequences out.
-/

namespace VendorLaunch.Text

/-- What may stand between the bracket and the letter. -/
def isStyleParameter (c : Char) : Bool := c == ';' || c == '?' || c.isDigit

/-- The text after the style sequence that `s` begins with, the escape character being read. -/
def afterStyle? : List Char → Option (List Char)
  | '[' :: s =>
    match s.dropWhile isStyleParameter with
    | c :: rest => if c.isAlpha then some rest else none
    | [] => none
  | _ => none

/-- Leaves out as many characters as `skip` says, and then the style sequences. -/
def plainFrom : Nat → List Char → List Char
  | _, [] => []
  | skip + 1, _ :: s => plainFrom skip s
  | 0, c :: s =>
    if c = '\x1b' then
      match afterStyle? s with
      | some rest => plainFrom (s.length - rest.length) s
      | none => c :: plainFrom 0 s
    else c :: plainFrom 0 s

/-- The text without style sequences. -/
def plain (s : String) : String := String.ofList (plainFrom 0 s.toList)

end VendorLaunch.Text
