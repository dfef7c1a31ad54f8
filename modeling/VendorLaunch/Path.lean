import VendorLaunch.Text.Split

/-!
# Paths

A path is an anchor and a list of components. Reading a text drops empty components and `.`, so
repeated and trailing slashes leave no trace; `..` is kept, for a link may stand before it. A text
that begins with exactly two slashes keeps both.

`append` continues a path by another, which replaces it when it is absolute
(`append_of_absolute`); `join` reads the other path from a text.
-/

namespace VendorLaunch

/-- Where a path starts. -/
inductive Anchor where
  /-- At the current directory. -/
  | here
  /-- At the root. -/
  | root
  /-- At the root, written with two slashes. -/
  | doubleRoot
  deriving DecidableEq, Repr

/-- A path: its anchor and the components after it. -/
structure Path where
  anchor : Anchor
  parts : List String
  deriving DecidableEq, Repr

namespace Path

/-- The anchor that a text begins with. -/
def anchorOf (s : List Char) : Anchor :=
  match (s.takeWhile (· = '/')).length with
  | 0 => .here
  | 2 => .doubleRoot
  | _ => .root

/-- The components of a text: the pieces between slashes, without the empty ones and `.`. -/
def components (s : String) : List String :=
  (Text.splitOn "/" s).filter fun p => p ≠ "" && p ≠ "."

/-- The path that a text denotes. -/
def ofString (s : String) : Path := ⟨anchorOf s.toList, components s⟩

/-- The text of an anchor. -/
def anchorText : Anchor → String
  | .here => ""
  | .root => "/"
  | .doubleRoot => "//"

/-- The text of a path; the current directory is written as a dot. -/
def render (p : Path) : String :=
  let s := anchorText p.anchor ++ Text.joinWith "/" p.parts
  if s = "" then "." else s

instance : ToString Path := ⟨render⟩

/-- Continues a path by another; an absolute one replaces it. -/
def append (p q : Path) : Path :=
  match q.anchor with
  | .here => ⟨p.anchor, p.parts ++ q.parts⟩
  | _ => q

/-- Continues a path by the path that a text denotes. -/
def join (p : Path) (s : String) : Path := p.append (ofString s)

/-- Whether the path starts at the root. -/
def isAbsolute (p : Path) : Bool := p.anchor ≠ .here

@[simp] theorem append_of_here {p q : Path} (h : q.anchor = .here) :
    p.append q = ⟨p.anchor, p.parts ++ q.parts⟩ := by
  simp [append, h]

/-- An absolute path replaces what stands before it. -/
theorem append_of_absolute {p q : Path} (h : q.isAbsolute = true) : p.append q = q := by
  cases hq : q.anchor <;> simp_all [append, isAbsolute]

end Path

end VendorLaunch
