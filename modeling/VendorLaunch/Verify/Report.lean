import VendorLaunch.Failure
import VendorLaunch.Settings
import VendorLaunch.Verify.Selection

/-!
# Reports

The outcome of a verification: what was checked, what of it is present and what is missing. A
report that is not in order comes with lines for an operator.
-/

namespace VendorLaunch

/-- The outcome of a verification. -/
structure Report where
  ok : Bool
  mode : Mode
  vendorRoot : Path
  checked : List String
  present : List String
  missing : List String
  deriving DecidableEq, Repr

namespace Report

/-- The status that a verification ends with. -/
def status (r : Report) : Int := if r.ok then 0 else 1

/-- The lines that every failed verification ends with. -/
def advice (r : Report) : List String :=
  ["Expected codex binaries under: " ++ r.vendorRoot.render, "Populate vendor/ before publishing:",
    "  " ++ installCommand, "Note: this requires the GitHub CLI (gh) and network access."]

/-- The lines about a failed verification; none when all is in order. -/
def explanation (r : Report) : List String :=
  if r.ok then []
  else if r.mode = .any then "Missing native binaries for any supported target." :: r.advice
  else
    ("Missing native binaries for: " ++ Text.joinWith ", " r.missing) :: r.advice ++
      ["To publish a subset, set " ++ requiredGroupsVar ++
        "=linux-x64 (or comma-separated labels)."]

/-- The name of the model. -/
def model : String := "VerifyReport"

/-- Reads a path from data. -/
def pathOfData : Data → Validated Path
  | .text s => .ok (Path.ofString s)
  | _ => Validated.complain .notPath

/-- Reads a report from data. -/
def ofData (d : Data) : Validated Report := do
  let fs ← Validated.fields model d
  let texts := fun name => Validated.optional name [] (Validated.list Validated.text) fs
  let (((((ok, mode), root), checked), present), missing) ←
    (((((Validated.required "ok" Validated.bool fs).and
      (Validated.required "mode" (Validated.literal Mode.words) fs)).and
      (Validated.required "vendor_root" pathOfData fs)).and (texts "checked")).and
      (texts "present")).and (texts "missing")
  return ⟨ok, mode, root, checked, present, missing⟩

/-- The report as data. -/
def toData (r : Report) : Data :=
  .dict [(.text "ok", .bool r.ok), (.text "mode", .text r.mode.name),
    (.text "vendor_root", .text r.vendorRoot.render),
    (.text "checked", .list (r.checked.map .text)), (.text "present", .list (r.present.map .text)),
    (.text "missing", .list (r.missing.map .text))]

end Report

end VendorLaunch
