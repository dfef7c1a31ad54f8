import VendorLaunch.Data
import VendorLaunch.Text.Quoted
import VendorLaunch.Text.Split

/-!
# Writing JSON

Data as JSON text, in one of two layouts: on one line with a space after each comma and colon, or
on lines indented by two spaces for each level. Texts are written in ASCII with escapes for
everything else, or as they are but for quotes, backslashes and controls.

JSON has no bytes, dates and non-finite numbers; they are written as `null`, and no model of the
library holds one.
-/

namespace VendorLaunch.Json

open VendorLaunch.Text

/-- How JSON text is written. -/
structure Style where
  /-- Whether characters outside ASCII are escaped. -/
  ascii : Bool
  /-- Whether each entry has a line of its own. -/
  lines : Bool

/-- One UTF-16 unit as an escape. -/
def unitEscape (n : Nat) : List Char := '\\' :: 'u' :: hexDigits 4 n

/-- A character inside quotes. -/
def escapeChar (ascii : Bool) (c : Char) : List Char :=
  let n := c.toNat
  if c = '"' then ['\\', '"']
  else if c = '\\' then ['\\', '\\']
  else if n = 8 then ['\\', 'b']
  else if n = 9 then ['\\', 't']
  else if n = 10 then ['\\', 'n']
  else if n = 12 then ['\\', 'f']
  else if n = 13 then ['\\', 'r']
  else if n < 32 then unitEscape n
  else if n < 127 || !ascii then [c]
  else if n < 0x10000 then unitEscape n
  else unitEscape (0xd800 + (n - 0x10000) / 0x400) ++ unitEscape (0xdc00 + (n - 0x10000) % 0x400)

/-- What a backslash and a character stand for. -/
def shortForms : List (Char × Char) :=
  [('"', '"'), ('\\', '\\'), ('b', '\x08'), ('t', '\t'), ('n', '\n'), ('f', '\x0c'), ('r', '\r')]

/-- A character is written in a short form, as itself, or as one UTF-16 unit or two. -/
theorem escapeChar_cases (ascii : Bool) (c : Char) :
    (∃ e, (e, c) ∈ shortForms ∧ escapeChar ascii c = ['\\', e]) ∨
      (c ≠ '"' ∧ c ≠ '\\' ∧ 32 ≤ c.toNat ∧ escapeChar ascii c = [c]) ∨
      (c.toNat < 0x10000 ∧ escapeChar ascii c = unitEscape c.toNat) ∨
      (0x10000 ≤ c.toNat ∧ escapeChar ascii c =
        unitEscape (0xd800 + (c.toNat - 0x10000) / 0x400) ++
          unitEscape (0xdc00 + (c.toNat - 0x10000) % 0x400)) := by
  have hshort : ∀ (e d : Char), c.toNat = d.toNat → (e, d) ∈ shortForms → (e, c) ∈ shortForms := by
    intro e d h hd
    rwa [← Char.ofNat_toNat c, h, Char.ofNat_toNat]
  generalize hcs : escapeChar ascii c = cs
  have hite : ∀ {p : Prop} [Decidable p] {s u : List Char},
      (if p then s else u) = cs → p ∧ cs = s ∨ ¬p ∧ u = cs := by
    intro p _ s u h
    split at h
    · next hp => exact Or.inl ⟨hp, h.symm⟩
    · next hp => exact Or.inr ⟨hp, h⟩
  unfold escapeChar at hcs
  obtain ⟨h, hcs⟩ | ⟨hquote, hcs⟩ := hite hcs
  · exact Or.inl ⟨'"', hshort '"' '"' (congrArg Char.toNat h) (by decide), hcs⟩
  obtain ⟨h, hcs⟩ | ⟨hslash, hcs⟩ := hite hcs
  · exact Or.inl ⟨'\\', hshort '\\' '\\' (congrArg Char.toNat h) (by decide), hcs⟩
  obtain ⟨h, hcs⟩ | ⟨-, hcs⟩ := hite hcs
  · exact Or.inl ⟨'b', hshort 'b' '\x08' h (by decide), hcs⟩
  obtain ⟨h, hcs⟩ | ⟨-, hcs⟩ := hite hcs
  · exact Or.inl ⟨'t', hshort 't' '\t' h (by decide), hcs⟩
  obtain ⟨h, hcs⟩ | ⟨-, hcs⟩ := hite hcs
  · exact Or.inl ⟨'n', hshort 'n' '\n' h (by decide), hcs⟩
  obtain ⟨h, hcs⟩ | ⟨-, hcs⟩ := hite hcs
  · exact Or.inl ⟨'f', hshort 'f' '\x0c' h (by decide), hcs⟩
  obtain ⟨h, hcs⟩ | ⟨-, hcs⟩ := hite hcs
  · exact Or.inl ⟨'r', hshort 'r' '\r' h (by decide), hcs⟩
  obtain ⟨h, hcs⟩ | ⟨hcontrol, hcs⟩ := hite hcs
  · exact Or.inr (Or.inr (Or.inl ⟨by omega, hcs⟩))
  obtain ⟨-, hcs⟩ | ⟨-, hcs⟩ := hite hcs
  · exact Or.inr (Or.inl ⟨hquote, hslash, Nat.le_of_not_lt hcontrol, hcs⟩)
  obtain ⟨h, hcs⟩ | ⟨h, hcs⟩ := hite hcs
  · exact Or.inr (Or.inr (Or.inl ⟨h, hcs⟩))
  · exact Or.inr (Or.inr (Or.inr ⟨Nat.le_of_not_lt h, hcs.symm⟩))

/-- A text in quotes. -/
def quote (ascii : Bool) (s : String) : String :=
  String.ofList ('"' :: s.toList.flatMap (escapeChar ascii) ++ ['"'])

/-- A line break and the indentation of a level, or nothing. -/
def Style.break (st : Style) (level : Nat) : String :=
  if st.lines then "\n" ++ String.ofList (List.replicate (2 * level) ' ') else ""

/-- Entries between brackets. -/
def Style.enclose (st : Style) (level : Nat) (left right : String) : List String → String
  | [] => left ++ right
  | es =>
    let sep := if st.lines then "," ++ st.break (level + 1) else ", "
    left ++ st.break (level + 1) ++ joinWith sep es ++ st.break level ++ right

mutual

/-- The JSON text of data at an indentation level. -/
def render (st : Style) (level : Nat) : Data → String
  | .bool b => if b then "true" else "false"
  | .int i => toString i
  | .text s => quote st.ascii s
  | .list xs => st.enclose level "[" "]" (renderAll st (level + 1) xs)
  | .tuple xs => st.enclose level "[" "]" (renderAll st (level + 1) xs)
  | .set xs => st.enclose level "[" "]" (renderAll st (level + 1) xs)
  | .dict fs => st.enclose level "\x7b" "\x7d" (renderFields st (level + 1) fs)
  | _ => "null"

/-- The JSON texts of the entries of a list. -/
def renderAll (st : Style) (level : Nat) : List Data → List String
  | [] => []
  | x :: xs => render st level x :: renderAll st level xs

/-- The JSON texts of the fields of a mapping. -/
def renderFields (st : Style) (level : Nat) : List (Data × Data) → List String
  | [] => []
  | (.text k, v) :: fs =>
    (quote st.ascii k ++ ": " ++ render st level v) :: renderFields st level fs
  | (_, v) :: fs => ("null: " ++ render st level v) :: renderFields st level fs

end

/-- On one line, in ASCII. -/
def compact : Style := ⟨true, false⟩

/-- On several lines, in ASCII. -/
def indented : Style := ⟨true, true⟩

/-- On several lines, with all characters as they are. -/
def indentedRaw : Style := ⟨false, true⟩

end VendorLaunch.Json
