import Mathlib.Data.List.Forall2
import VendorLaunch.Proofs.Catalog.Resolving

/-!
# Catalogs written as data

A dump writes every field of a catalog, of its rules and of its groups, and null where a text is not
set (`Catalog.Dump`). The order of the fields does not matter, nor does anything else that the data
hold.

What was read from data passes the checks of the models, and these look at nothing that a dump does
not keep: an empty text stays an empty text and null stays null. So every dump of a catalog that was
read is read again, as the same catalog (`Catalog.Dump.ofData_eq`, `Catalog.round_trip`), however
loosely typed the data were that it came from. The catalogs that can be read are the valid ones.
-/

namespace VendorLaunch

/-! ### Values that are written and read -/

namespace Validated

variable {α : Type} {name : String} {fs : List (Data × Data)} {read : Data → Validated α}

theorem required_of_field? {d : Data} {a : α} (hfield : Data.field? name fs = some d)
    (hread : read d = .ok a) : required name read fs = .ok a := by
  rw [required, hfield]
  exact congrArg (within (.field name)) hread

theorem optional_of_field? {d : Data} {default a : α} (hfield : Data.field? name fs = some d)
    (hread : read d = .ok a) : optional name default read fs = .ok a := by
  rw [optional, hfield]
  exact congrArg (within (.field name)) hread

/-- A list is read when each of its values is. -/
theorem list_of_forall₂ {as : List α} {ds : List Data}
    (h : List.Forall₂ (fun a d => read d = .ok a) as ds) : list read (.list ds) = .ok as := by
  have heach : ∀ i, each read i ds = .ok as := by
    induction h with
    | nil => exact fun _ => rfl
    | cons hd _ ih =>
      intro i
      rw [each, hd, ih (i + 1)]
      rfl
  exact heach 0

theorem list_text (ss : List String) : list text (.list (ss.map .text)) = .ok ss :=
  list_of_forall₂ (List.forall₂_map_right_iff.mpr (List.forall₂_same.mpr fun _ _ => rfl))

theorem nonEmptyList_text {ss : List String} (hne : ss ≠ []) :
    nonEmptyList text (.list (ss.map .text)) = .ok ss := by
  cases ss with
  | nil => exact absurd rfl hne
  | cons s ss => rw [nonEmptyList, list_text]

theorem nullable_text (s : Option String) : nullable text (Platform.optionText s) = .ok s := by
  cases s <;> rfl

end Validated

/-! ### Dumps -/

open Validated

/-- Every field of the rule is written, null for a text that is not set. -/
inductive Rule.Dump (r : Rule) : Data → Prop where
  | intro {fs : List (Data × Data)}
      (os : Data.field? "os" fs = some (.list (r.os.map .text)))
      (arch : Data.field? "arch" fs = some (.text r.arch))
      (triple : Data.field? "triple" fs = some (Platform.optionText r.triple))
      (gnu : Data.field? "gnu" fs = some (Platform.optionText r.gnu))
      (musl : Data.field? "musl" fs = some (Platform.optionText r.musl)) : r.Dump (.dict fs)

/-- Both fields of the group are written. -/
inductive Group.Dump (g : Group) : Data → Prop where
  | intro {fs : List (Data × Data)}
      (label : Data.field? "label" fs = some (.text g.label))
      (triples : Data.field? "triples" fs = some (.list (g.triples.map .text))) : g.Dump (.dict fs)

/-- Every field of the catalog is written, and so is every field of its rules and its groups. -/
inductive Catalog.Dump (c : Catalog) : Data → Prop where
  | intro {fs : List (Data × Data)} {rules groups : List Data}
      (version : Data.field? "version" fs = some (.int c.version))
      (dir : Data.field? "binary_dir" fs = some (.text c.binaryDir))
      (name : Data.field? "binary_name" fs = some (.text c.binaryName))
      (targets : Data.field? "targets" fs = some (.list rules))
      (eachRule : List.Forall₂ Rule.Dump c.rules rules)
      (groupList : Data.field? "groups" fs = some (.list groups))
      (eachGroup : List.Forall₂ Group.Dump c.groups groups) : c.Dump (.dict fs)

theorem Rule.dump_toData (r : Rule) : r.Dump r.toData := .intro rfl rfl rfl rfl rfl

theorem Group.dump_toData (g : Group) : g.Dump g.toData := .intro rfl rfl

theorem Catalog.dump_toData (c : Catalog) : c.Dump c.toData :=
  .intro rfl rfl rfl rfl
    (List.forall₂_map_right_iff.mpr (List.forall₂_same.mpr fun r _ => r.dump_toData)) rfl
    (List.forall₂_map_right_iff.mpr (List.forall₂_same.mpr fun g _ => g.dump_toData))

/-- All that a dump leaves to decide about a rule is its shape. -/
theorem Rule.Dump.ofData_eq {r : Rule} {d : Data} (h : r.Dump d) :
    Rule.ofData d = Validated.check Rule.problem (.ok r) := by
  cases h with
  | intro hos harch htriple hgnu hmusl =>
    have hreads : Rule.Reads _ r := {
      os := required_of_field? hos (list_text r.os)
      arch := required_of_field? harch rfl
      triple := optional_of_field? htriple (nullable_text r.triple)
      gnu := optional_of_field? hgnu (nullable_text r.gnu)
      musl := optional_of_field? hmusl (nullable_text r.musl) }
    exact hreads.ofData_eq

theorem Group.Dump.ofData_eq {g : Group} {d : Data} (h : g.Dump d) (hne : g.triples ≠ []) :
    Group.ofData d = .ok g := by
  cases h with
  | @intro fs hlabel htriples =>
    have hlabel : required "label" text fs = .ok g.label := required_of_field? hlabel rfl
    have htriples : required "triples" (nonEmptyList text) fs = .ok g.triples :=
      required_of_field? htriples (nonEmptyList_text hne)
    rw [Group.ofData, Validated.fields, Logged.ok_bind, hlabel, htriples]
    rfl

namespace Catalog

variable {c : Catalog} {d : Data}

/-- Any dump of a valid catalog is read as that catalog. -/
theorem Dump.ofData_eq (h : c.Dump d) (hvalid : c.Valid) : Catalog.ofData d = .ok c := by
  cases h with
  | @intro fs rules groups hversion hdir hname hrules hdumpRules hgroups hdumpGroups =>
    have hreadRules : List.Forall₂ (fun r d => Rule.ofData d = .ok r) c.rules rules :=
      ((List.forall₂_and_left _ _).mpr ⟨hvalid.rules, hdumpRules⟩).imp fun r d h =>
        h.2.ofData_eq.trans (check_ok_eq_ok_iff.mpr ⟨rfl, h.1⟩)
    have hreadGroups : List.Forall₂ (fun g d => Group.ofData d = .ok g) c.groups groups :=
      ((List.forall₂_and_left _ _).mpr ⟨hvalid.groups, hdumpGroups⟩).imp fun g d h =>
        h.2.ofData_eq h.1
    have hversion : optional "version" 1 int fs = .ok c.version :=
      optional_of_field? hversion rfl
    have hdir : optional "binary_dir" "codex" text fs = .ok c.binaryDir :=
      optional_of_field? hdir rfl
    have hname : optional "binary_name" "codex" text fs = .ok c.binaryName :=
      optional_of_field? hname rfl
    have hrules : optional "targets" [] (list Rule.ofData) fs = .ok c.rules :=
      optional_of_field? hrules (list_of_forall₂ hreadRules)
    have hgroups : optional "groups" [] (list Group.ofData) fs = .ok c.groups :=
      optional_of_field? hgroups (list_of_forall₂ hreadGroups)
    rw [Catalog.ofData, Validated.fields, Logged.ok_bind, hversion, hdir, hname, hrules, hgroups]
    rfl

/-- The catalogs that can be read are the valid ones. -/
theorem exists_ofData_iff : (∃ d, Catalog.ofData d = .ok c) ↔ c.Valid :=
  ⟨fun ⟨_, h⟩ => valid_of_ofData h, fun h => ⟨_, c.dump_toData.ofData_eq h⟩⟩

/-- Two catalogs answer every question about them alike. -/
structure Alike (c c' : Catalog) : Prop where
  labels : c'.labels = c.labels
  triples : c'.triples = c.triples
  rule? : ∀ os arch, c'.rule? os arch = c.rule? os arch
  group? : ∀ label, c'.group? label = c.group? label
  binaryFor : ∀ triple, c'.binaryFor triple = c.binaryFor triple

theorem Alike.refl (c : Catalog) : c.Alike c :=
  ⟨rfl, rfl, fun _ _ => rfl, fun _ => rfl, fun _ => rfl⟩

/-- Whatever data a catalog was read from, it has a dump, and every dump of it is read, as the same
catalog, which answers all questions alike. So a catalog can be read from some data exactly when it
is valid, and then from its own dump. -/
theorem round_trip :
    (∀ d c, Catalog.ofData d = .ok c → c.Dump c.toData ∧
      ∀ d', c.Dump d' → Catalog.ofData d' = .ok c ∧
        ∀ c', Catalog.ofData d' = .ok c' → c.Alike c') ∧
    ∀ c, (∃ d, Catalog.ofData d = .ok c) ↔ c.Valid := by
  refine ⟨fun d c h => ⟨c.dump_toData, fun d' hdump => ?_⟩, fun _ => exists_ofData_iff⟩
  have hread : Catalog.ofData d' = .ok c := hdump.ofData_eq (valid_of_ofData h)
  refine ⟨hread, fun c' hread' => ?_⟩
  obtain rfl := Except.ok.inj (hread.symm.trans hread')
  exact Alike.refl c

/-- A loosely typed catalog: the version as a text with blanks and zeros, one name as bytes and the
other one not there, an empty triple beside a pair, and fields that no model has. -/
def looseData : Data :=
  .dict [(.text "note", .null), (.text "version", .text " 02.0 "),
    (.text "binary_name", .bytes [0x63, 0x78]),
    (.text "targets", .list [.dict [(.text "musl", .text "x64-musl"),
      (.text "gnu", .text "x64-gnu"), (.text "triple", .text ""), (.text "arch", .text "x64"),
      (.text "os", .list [.text "linux"]), (.int 7, .bool true)]]),
    (.text "groups", .list [.dict [(.text "label", .text "linux"),
      (.text "triples", .list [.text "x64-musl", .text "x64-musl"])]])]

/-- The catalog that it describes. -/
def loose : Catalog where
  version := 2
  binaryDir := "codex"
  binaryName := "cx"
  rules := [emptyTriplePair]
  groups := [⟨"linux", ["x64-musl", "x64-musl"]⟩]

/-- The catalog is read again from its dump, the empty triple beside the pair included. -/
theorem round_trip_loose :
    Catalog.ofData looseData = .ok loose ∧ Catalog.ofData loose.toData = .ok loose ∧
    loose.Alike loose ∧ loose.Valid := by
  obtain ⟨hdumps, hvalid⟩ := round_trip
  have hread : Catalog.ofData looseData = .ok loose := by rfl
  obtain ⟨hdump, hall⟩ := hdumps _ _ hread
  obtain ⟨hagain, halike⟩ := hall _ hdump
  exact ⟨hread, hagain, halike _ hagain, (hvalid _).mp ⟨_, hread⟩⟩

end Catalog

end VendorLaunch
