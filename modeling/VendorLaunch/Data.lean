import VendorLaunch.Number.Binary64

/-!
# Data

The values that structured data hold before anything is known of their meaning: what a JSON text
can say, and what a YAML file can say beyond that (bytes, dates, sets, pairs). Every model of the
library is read from such a value.

Texts that are not valid Unicode (a lone surrogate written as an escape) are kept apart as
`brokenText`, for no model accepts them.
-/

namespace VendorLaunch

/-- A value of structured data. -/
inductive Data where
  /-- No value. -/
  | null
  /-- A truth value. -/
  | bool (b : Bool)
  /-- An integer of any size. -/
  | int (i : Int)
  /-- A floating-point number. -/
  | float (x : Binary64)
  /-- A text. -/
  | text (s : String)
  /-- A text with surrogates in it, as code points. -/
  | brokenText (codes : List Nat)
  /-- Bytes. -/
  | bytes (b : List UInt8)
  /-- A calendar day. -/
  | date (year month day : Nat)
  /-- A point of time, written out. -/
  | time (stamp : String)
  /-- A list. -/
  | list (xs : List Data)
  /-- A fixed tuple of values. -/
  | tuple (xs : List Data)
  /-- A set, in the order of insertion. -/
  | set (xs : List Data)
  /-- A mapping, in the order of insertion. -/
  | dict (fields : List (Data × Data))
  deriving Repr

namespace Data

/-- The name of the kind of a value, as messages show it. -/
def kindName : Data → String
  | null => "NoneType"
  | bool _ => "bool"
  | int _ => "int"
  | float _ => "float"
  | text _ | brokenText _ => "str"
  | bytes _ => "bytes"
  | date .. => "date"
  | time _ => "datetime"
  | list _ => "list"
  | tuple _ => "tuple"
  | set _ => "set"
  | dict _ => "dict"

/-- Whether a value counts as true: empty texts and collections, zeros and `null` do not. -/
def truthy : Data → Bool
  | null => false
  | bool b => b
  | int i => i != 0
  | float x => !x.isZero
  | text s => s != ""
  | brokenText cs => !cs.isEmpty
  | bytes b => !b.isEmpty
  | date .. | time _ => true
  | list xs | tuple xs | set xs => !xs.isEmpty
  | dict fs => !fs.isEmpty

/-- The number that a value is as a key: truth values are zero and one, and a number with an
integral value is that integer. -/
def numeric? : Data → Option (Int ⊕ Binary64)
  | bool b => some (.inl (if b then 1 else 0))
  | int i => some (.inl i)
  | float x => some (match x.toInt? with
    | some i => .inl i
    | none => .inr x)
  | _ => none

/-- Whether two keys are the same key. -/
def sameKey : Data → Data → Bool
  | text s, text t => s == t
  | brokenText s, brokenText t => s == t
  | bytes s, bytes t => s == t
  | null, null => true
  | date y m d, date y' m' d' => y == y' && m == m' && d == d'
  | time s, time t => s == t
  | tuple xs, tuple ys => sameKeys xs ys
  | x, y =>
    match numeric? x, numeric? y with
    | some a, some b => a == b && a != .inr .nan
    | _, _ => false
where
  /-- Whether two lists of keys agree entry by entry. -/
  sameKeys : List Data → List Data → Bool
    | [], [] => true
    | x :: xs, y :: ys => sameKey x y && sameKeys xs ys
    | _, _ => false

/-- Whether a value can be a key: collections other than tuples of such values cannot. -/
def hashable : Data → Bool
  | list _ | set _ | dict _ => false
  | tuple xs => allHashable xs
  | _ => true
where
  /-- Whether all values of a list can be keys. -/
  allHashable : List Data → Bool
    | [] => true
    | x :: xs => hashable x && allHashable xs

/-- The value of the field `name`; the last one when it is given twice. -/
def field? (name : String) (fields : List (Data × Data)) : Option Data :=
  fields.foldl (fun found f => match f.1 with
    | text s => if s = name then some f.2 else found
    | _ => found) none

end Data

end VendorLaunch
