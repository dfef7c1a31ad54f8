import VendorLaunch.Text.Blank
import VendorLaunch.Text.Split
import VendorLaunch.Validation

/-!
# What a verification requires

A verification requires every group of the catalog, or the groups with some labels, or any binary
at all. The requirement is written as labels between commas; blanks around a label and empty
pieces are ignored, no label means every group, and the single word `any` means any binary.
-/

namespace VendorLaunch

/-- What a verification requires. -/
inductive Mode where
  /-- Every group. -/
  | default
  /-- The groups with the given labels. -/
  | override
  /-- Any binary. -/
  | any
  deriving DecidableEq, Repr

/-- The name of a mode. -/
def Mode.name : Mode → String
  | default => "default"
  | override => "override"
  | any => "any"

/-- The modes by name. -/
def Mode.words : List (String × Mode) :=
  [(default.name, default), (override.name, override), (any.name, any)]

/-- A mode, and the labels for the mode that has some. -/
structure Selection where
  mode : Mode
  labels : List String
  deriving DecidableEq, Repr

namespace Selection

/-- Every group is required. -/
def everything : Selection := ⟨.default, []⟩

/-- The word for any binary. -/
def anyWord : String := "any"

/-- The labels between commas, trimmed, without the empty ones. -/
def labelsOf (raw : String) : List String :=
  ((Text.splitOn "," raw).map Text.trim).filter (· ≠ "")

/-- The requirement that a list of labels expresses. -/
def ofLabels (labels : List String) : Selection :=
  if labels = [] then everything
  else if labels = [anyWord] then ⟨.any, []⟩
  else ⟨.override, labels⟩

/-- The requirement that a text expresses. -/
def parse (raw : Option String) : Selection :=
  match raw with
  | none => everything
  | some s => ofLabels (labelsOf s)

/-- The name of the model. -/
def model : String := "RequiredSelection"

/-- Reads a requirement from data. -/
def ofData (d : Data) : Validated Selection := do
  let fs ← Validated.fields model d
  let (mode, labels) ←
    (Validated.optional "mode" Mode.default (Validated.literal Mode.words) fs).and
      (Validated.optional "labels" [] (Validated.list Validated.text) fs)
  return ⟨mode, labels⟩

/-- The requirement as data. -/
def toData (s : Selection) : Data :=
  .dict [(.text "mode", .text s.mode.name), (.text "labels", .list (s.labels.map .text))]

end Selection

end VendorLaunch
