import VendorLaunch.Text.Quoted

/-!
# Reading UTF-8

`decodeUtf8` reads bytes as UTF-8 and says, when they are not, which bytes are at fault. A byte
that starts no character is an invalid start; a sequence that is cut short by the end of the data
ends unexpectedly; otherwise the byte after the well-formed beginning of a sequence is an invalid
continuation. The range of faulty bytes is that beginning.
-/

namespace VendorLaunch.Text

/-- Why bytes are not UTF-8. -/
inductive Utf8Reason where
  /-- No character starts with this byte. -/
  | invalidStart
  /-- A byte that does not continue the character begun before it. -/
  | invalidContinuation
  /-- The data end inside a character. -/
  | unexpectedEnd
  deriving DecidableEq, Repr

/-- Faulty bytes: where they start, how many there are, the first of them, and the reason. -/
structure Utf8Fault where
  start : Nat
  count : Nat
  byte : Nat
  reason : Utf8Reason
  deriving DecidableEq, Repr

/-- The reason in words. -/
def Utf8Reason.message : Utf8Reason → String
  | .invalidStart => "invalid start byte"
  | .invalidContinuation => "invalid continuation byte"
  | .unexpectedEnd => "unexpected end of data"

/-- The fault in words. -/
def Utf8Fault.message (f : Utf8Fault) : String :=
  if f.count = 1 then
    "'utf-8' codec can't decode byte 0x" ++ String.ofList (hexDigits 2 f.byte) ++
      " in position " ++ toString f.start ++ ": " ++ f.reason.message
  else
    "'utf-8' codec can't decode bytes in position " ++ toString f.start ++ "-" ++
      toString (f.start + f.count - 1) ++ ": " ++ f.reason.message

/-- What a first byte announces: the number of bytes that follow, the range of the next one, and
the bits it contributes itself. -/
def utf8Lead? (b : Nat) : Option (Nat × Nat × Nat × Nat) :=
  if b < 0x80 then some (0, 0, 0, b)
  else if b < 0xc2 then none
  else if b < 0xe0 then some (1, 0x80, 0xbf, b - 0xc0)
  else if b = 0xe0 then some (2, 0xa0, 0xbf, 0)
  else if b = 0xed then some (2, 0x80, 0x9f, 0xd)
  else if b < 0xf0 then some (2, 0x80, 0xbf, b - 0xe0)
  else if b = 0xf0 then some (3, 0x90, 0xbf, 0)
  else if b < 0xf4 then some (3, 0x80, 0xbf, b - 0xf0)
  else if b = 0xf4 then some (3, 0x80, 0x8f, 4)
  else none

/-- Reads `more` continuation bytes, the next of them between `lo` and `hi`. `seen` bytes of the
character have been read and `bits` is their value. Gives the code point, or the number of
well-formed bytes and the reason. -/
def utf8Tail (lo hi : Nat) : Nat → Nat → Nat → List UInt8 → Except (Nat × Utf8Reason) Nat
  | 0, _, bits, _ => .ok bits
  | _ + 1, seen, _, [] => .error (seen, .unexpectedEnd)
  | more + 1, seen, bits, b :: bs =>
    if lo ≤ b.toNat ∧ b.toNat ≤ hi then
      utf8Tail 0x80 0xbf more (seen + 1) (bits * 64 + (b.toNat - 0x80)) bs
    else .error (seen, .invalidContinuation)

/-- Reads the bytes from position `pos`, of which the first `skip` have been read already. -/
def decodeUtf8From (pos : Nat) : Nat → List UInt8 → Except Utf8Fault (List Char)
  | _, [] => .ok []
  | skip + 1, _ :: bs => decodeUtf8From (pos + 1) skip bs
  | 0, b :: bs =>
    match utf8Lead? b.toNat with
    | none => .error ⟨pos, 1, b.toNat, .invalidStart⟩
    | some (more, lo, hi, bits) =>
      match utf8Tail lo hi more 1 bits bs with
      | .error (seen, reason) => .error ⟨pos, seen, b.toNat, reason⟩
      | .ok n => (decodeUtf8From (pos + 1) more bs).map (Char.ofNat n :: ·)

/-- The text that bytes encode. -/
def decodeUtf8 (bs : List UInt8) : Except Utf8Fault String :=
  (decodeUtf8From 0 0 bs).map String.ofList

/-- The bytes of a text. -/
def encodeUtf8 (s : String) : List UInt8 := s.toUTF8.data.toList

theorem length_encodeUtf8 (s : String) : (encodeUtf8 s).length = s.utf8ByteSize := rfl

end VendorLaunch.Text
