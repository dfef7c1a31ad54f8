import VendorLaunch.Fault
import VendorLaunch.Number.Literal

/-!
# Number texts that have to be numbers

Readers of number texts that say what is wrong with a text that denotes none.
-/

namespace VendorLaunch.Number

/-- The largest number of decimal digits that is read. -/
def digitLimit : Nat := 4300

/-- The number of digits in a text. -/
def digitCount (text : String) : Nat := text.toList.countP fun c => (digitOf? c).isSome

/-- The integer of base `base` that a text denotes. Decimal texts of enormous length are
refused. -/
def readInt (base : Nat) (text : String) : Except Fault Int :=
  match intOfBase? base text with
  | some i =>
    if base = 10 ∧ digitLimit < digitCount text then
      .error (.value ("Exceeds the limit (4300 digits) for integer string conversion: value has " ++
        toString (digitCount text) ++
        " digits; use sys.set_int_max_str_digits() to increase the limit"))
    else .ok i
  | none => .error (.value ("invalid literal for int() with base " ++ toString base ++ ": " ++
      String.ofList ((Text.quoted text).toList.take 200)))

/-- The number that a text denotes. -/
def readFloat (text : String) : Except Fault Binary64 :=
  match floatOf? text with
  | some x => .ok x
  | none => .error (.value ("could not convert string to float: " ++ Text.quoted text))

end VendorLaunch.Number
