import VendorLaunch.Platform

/-!
# Target catalogs

A catalog says which builds there are. Its rules name, for each platform, the triples of the
builds that can run there; its groups name, for each label, the triples of which one has to be
present in a complete vendor tree.

A rule names either one triple or a pair of builds that differ in the C library; `Rule.problem`
says what is wrong with any other shape. A pair is ordered by the C library of the platform, glibc
first only where it is known to be in use, and no candidate is ever dropped.
-/

namespace VendorLaunch

/-- The builds for one architecture on some families of systems. -/
structure Rule where
  os : List String
  arch : String
  triple : Option String
  gnu : Option String
  musl : Option String
  deriving DecidableEq, Repr

/-- A label and the triples of which one satisfies it. -/
structure Group where
  label : String
  triples : List String
  deriving DecidableEq, Repr

/-- Every build there is. -/
structure Catalog where
  version : Int
  binaryDir : String
  binaryName : String
  rules : List Rule
  groups : List Group
  deriving DecidableEq, Repr

/-- Whether an optional text is there and not empty. -/
def isSet (s : Option String) : Bool :=
  match s with
  | some t => t != ""
  | none => false

namespace Rule

/-- What is wrong with the shape of a rule. -/
def problem (r : Rule) : Option String :=
  if isSet r.triple && (r.gnu.isSome || r.musl.isSome) then
    some (r.arch ++ ": use either 'triple' or 'gnu'/'musl', not both")
  else if !isSet r.triple && !(isSet r.gnu && isSet r.musl) then
    some (r.arch ++ ": 'gnu' and 'musl' must both be set")
  else none

/-- Whether the rule is about a platform. -/
def isAbout (r : Rule) (osFamily arch : String) : Bool :=
  r.os.contains osFamily && arch == r.arch

/-- The texts among these that are there and not empty. -/
def present (ts : List (Option String)) : List String :=
  (ts.filter isSet).filterMap id

/-- The triples of the rule, most preferred first. -/
def triplesFor (r : Rule) (libc : Option Libc) : List String :=
  match r.triple with
  | some t => if t != "" then [t] else pair
  | none => pair
where
  /-- The two builds, glibc first where it is in use. -/
  pair : List String :=
    if libc = some .gnu then present [r.gnu, r.musl] else (present [r.gnu, r.musl]).reverse

/-- The name of the model. -/
def model : String := "TargetRule"

/-- Reads a rule from data. -/
def ofData (d : Data) : Validated Rule :=
  Validated.check problem do
    let fs ← Validated.fields model d
    let opt := fun name => Validated.optional name none (Validated.nullable Validated.text) fs
    let ((((os, arch), triple), gnu), musl) ←
      ((((Validated.required "os" (Validated.list Validated.text) fs).and
        (Validated.required "arch" Validated.text fs)).and (opt "triple")).and (opt "gnu")).and
        (opt "musl")
    return ⟨os, arch, triple, gnu, musl⟩

/-- The rule as data. -/
def toData (r : Rule) : Data :=
  .dict [(.text "os", .list (r.os.map .text)), (.text "arch", .text r.arch),
    (.text "triple", Platform.optionText r.triple), (.text "gnu", Platform.optionText r.gnu),
    (.text "musl", Platform.optionText r.musl)]

end Rule

namespace Group

/-- The name of the model. -/
def model : String := "TargetGroup"

/-- Reads a group from data. -/
def ofData (d : Data) : Validated Group := do
  let fs ← Validated.fields model d
  let (label, triples) ← (Validated.required "label" Validated.text fs).and
    (Validated.required "triples" (Validated.nonEmptyList Validated.text) fs)
  return ⟨label, triples⟩

/-- The group as data. -/
def toData (g : Group) : Data :=
  .dict [(.text "label", .text g.label), (.text "triples", .list (g.triples.map .text))]

end Group

namespace Catalog

/-- The first rule about a platform. -/
def rule? (c : Catalog) (osFamily arch : String) : Option Rule :=
  c.rules.find? fun r => r.isAbout osFamily arch

/-- The first group with a label. -/
def group? (c : Catalog) (label : String) : Option Group :=
  c.groups.find? fun g => g.label == label

/-- The labels of the groups. -/
def labels (c : Catalog) : List String := c.groups.map Group.label

/-- Each text once, in the order of first occurrence; `seen` have occurred before. -/
def distinct (seen : List String) : List String → List String
  | [] => []
  | t :: ts => if seen.contains t then distinct seen ts else t :: distinct (t :: seen) ts

/-- The triples that some group names, each once. -/
def triples (c : Catalog) : List String := distinct [] (c.groups.flatMap Group.triples)

/-- The file name of the binary for a triple. -/
def binaryFor (c : Catalog) (triple : String) : String :=
  if Text.contains "windows" triple then c.binaryName ++ ".exe" else c.binaryName

/-- The name of the model. -/
def model : String := "TargetCatalog"

/-- Reads a catalog from data. -/
def ofData (d : Data) : Validated Catalog := do
  let fs ← Validated.fields model d
  let ((((version, dir), name), rules), groups) ←
    ((((Validated.optional "version" 1 Validated.int fs).and
      (Validated.optional "binary_dir" "codex" Validated.text fs)).and
      (Validated.optional "binary_name" "codex" Validated.text fs)).and
      (Validated.optional "targets" [] (Validated.list Rule.ofData) fs)).and
      (Validated.optional "groups" [] (Validated.list Group.ofData) fs)
  return ⟨version, dir, name, rules, groups⟩

/-- The catalog as data. -/
def toData (c : Catalog) : Data :=
  .dict [(.text "version", .int c.version), (.text "binary_dir", .text c.binaryDir),
    (.text "binary_name", .text c.binaryName), (.text "targets", .list (c.rules.map Rule.toData)),
    (.text "groups", .list (c.groups.map Group.toData))]

end Catalog

end VendorLaunch
