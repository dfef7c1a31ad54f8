import VendorLaunch.Text.WordTable

/-!
# Word characters

Letters and numbers of every script and the underscore make up words. `startsWordWith w s` looks
for an occurrence of `w` that no word character precedes; it finds one just when there is one at any
place of the text (`startsWordWith_iff`).
-/

namespace VendorLaunch.Text

/-- A letter, a number or the underscore. -/
def isWordChar (c : Char) : Bool := c == '_' || wordRanges.has c.toNat

/-- Whether `w` occurs in `s` with no word character directly before it, `before` being the
character in front of `s`. -/
def hasWordStart (w : List Char) (before : Option Char) : List Char → Bool
  | [] => w.isEmpty && !before.any isWordChar
  | c :: s => (w.isPrefixOf (c :: s) && !before.any isWordChar) || hasWordStart w (some c) s

/-- Whether a word that begins with `w` begins somewhere in `s`. -/
def startsWordWith (w s : String) : Bool := hasWordStart w.toList none s.toList

/-- The character in front of what comes after `front`. -/
theorem getLast?_cons_or (c : Char) (front : List Char) (before : Option Char) :
    (c :: front).getLast?.or before = front.getLast?.or (some c) := by
  rw [List.getLast?_cons]
  cases front.getLast? <;> rfl

/-- The search passes over places where the word is not, or where it continues another word. -/
theorem hasWordStart_iff {w : List Char} {before : Option Char} {s : List Char} :
    hasWordStart w before s = true ↔
      ∃ front rest, s = front ++ w ++ rest ∧
        (front.getLast?.or before).any isWordChar = false := by
  induction s generalizing before with
  | nil =>
    rw [hasWordStart, Bool.and_eq_true, List.isEmpty_iff, Bool.not_eq_true']
    constructor
    · rintro ⟨rfl, hbefore⟩
      exact ⟨[], [], rfl, hbefore⟩
    · rintro ⟨front, rest, hs, hbefore⟩
      obtain ⟨hfront, -⟩ := List.append_eq_nil_iff.mp hs.symm
      obtain ⟨rfl, rfl⟩ := List.append_eq_nil_iff.mp hfront
      exact ⟨rfl, hbefore⟩
  | cons c s ih =>
    rw [hasWordStart, Bool.or_eq_true, Bool.and_eq_true, List.isPrefixOf_iff_prefix,
      Bool.not_eq_true', ih]
    constructor
    · rintro (⟨⟨rest, hrest⟩, hbefore⟩ | ⟨front, rest, hs, hbefore⟩)
      · exact ⟨[], rest, hrest.symm, hbefore⟩
      · exact ⟨c :: front, rest, congrArg (c :: ·) hs, by rwa [getLast?_cons_or]⟩
    · rintro ⟨front, rest, hs, hbefore⟩
      cases front with
      | nil => exact Or.inl ⟨⟨rest, hs.symm⟩, hbefore⟩
      | cons d front =>
        obtain ⟨rfl, htail⟩ := List.cons.inj hs
        exact Or.inr ⟨front, rest, htail, by rwa [getLast?_cons_or] at hbefore⟩

/-- A word is found where the text has it, at the start or after a character that is part of no
word. -/
theorem startsWordWith_iff {w s : String} :
    startsWordWith w s = true ↔
      ∃ front rest, s.toList = front ++ w.toList ++ rest ∧
        ∀ c ∈ front.getLast?, isWordChar c = false := by
  rw [startsWordWith, hasWordStart_iff]
  simp only [Option.or_none, Option.any_eq_false, Option.mem_def]

end VendorLaunch.Text
