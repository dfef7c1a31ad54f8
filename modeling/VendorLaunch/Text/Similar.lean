/-!
# Similar words

How similar two words are is measured by the characters that they share: the longest block that
occurs in both, and then, in the same way, what stands before it and what stands after it. Words
are similar when at least three fifths of their characters are in such blocks. `similarWords` gives
the words of a list that are most similar to a given one, three at most, in alphabetic order; it is
how a message proposes a name for one that is unknown.
-/

namespace VendorLaunch.Text

/-- A block that two lists share: its length and where it starts in each of them. -/
structure Block where
  size : Nat
  left : Nat
  right : Nat
  deriving DecidableEq, Repr

/-- The length of the longest common beginning. -/
def commonStart : List Char → List Char → Nat
  | a :: s, b :: t => if a = b then commonStart s t + 1 else 0
  | _, _ => 0

/-- The larger block; of two that are as large, the first. -/
def Block.larger (b c : Block) : Block := if b.size < c.size then c else b

/-- The largest block that starts at the beginning of `s`, which is at `left`. -/
def blockAt (left : Nat) (s : List Char) (right : Nat) : List Char → Block
  | [] => ⟨0, left, right⟩
  | b :: t => (Block.mk (commonStart s (b :: t)) left right).larger (blockAt left s (right + 1) t)

/-- The largest block that two lists share, the first one in `s` and then in `t`. -/
def largestBlock (left : Nat) (t : List Char) : List Char → Block
  | [] => ⟨0, left, 0⟩
  | a :: s => (blockAt left (a :: s) 0 t).larger (largestBlock (left + 1) t s)

/-- The number of characters in shared blocks. -/
def sharedCount (s t : List Char) : Nat :=
  match largestBlock 0 t s with
  | ⟨n, i, j⟩ =>
    if _h : 0 < n ∧ i + n ≤ s.length then
      n + sharedCount (s.take i) (t.take j) + sharedCount (s.drop (i + n)) (t.drop (j + n))
    else 0
termination_by s.length
decreasing_by all_goals (simp only [List.length_take, List.length_drop]; omega)

/-- A word with the numbers of its shared characters and of all characters of both words. -/
structure Likeness where
  word : String
  shared : Nat
  total : Nat

/-- How similar `word` is to the word `wanted`. -/
def Likeness.of (wanted word : String) : Likeness :=
  ⟨word, sharedCount word.toList wanted.toList, word.length + wanted.length⟩

/-- Whether three fifths of the characters are shared. -/
def Likeness.isClose (l : Likeness) : Bool := 3 * l.total ≤ 10 * l.shared

/-- Whether a likeness is greater, or as great with a word that comes later. -/
def Likeness.exceeds (l m : Likeness) : Bool :=
  m.shared * l.total < l.shared * m.total ||
    (m.shared * l.total == l.shared * m.total && decide (m.word < l.word))

/-- The words most similar to `wanted`, three at most, in alphabetic order. -/
def similarWords (wanted : String) (words : List String) : List String :=
  let close := (words.map (Likeness.of wanted)).filter Likeness.isClose
  let best := (close.mergeSort fun l m => !m.exceeds l).take 3
  (best.map Likeness.word).mergeSort fun a b => !decide (b < a)

end VendorLaunch.Text
