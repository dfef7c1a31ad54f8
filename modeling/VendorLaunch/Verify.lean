import VendorLaunch.Vendor
import VendorLaunch.Verify.Report

/-!
# Verification of a vendor tree

A vendor tree is complete when every required group has a binary. A group is satisfied by the
first of its triples whose binary exists; the ones after it are not looked at. In the mode that
requires any binary, every triple of the catalog is looked at. Labels that no group has are
refused before the tree is touched.
-/

namespace VendorLaunch

/-- The name under which the verification writes to the log. -/
def verifyLogger : String := "codex_launcher.core.services.verifier"

/-- Whether the build has a binary, or else what `next` says. -/
def Build.presentOr (e : Build) (t : FileTree) (next : Except Fault Bool) : Except Fault Bool :=
  match e.present t with
  | .error f => .error f
  | .ok true => .ok true
  | .ok false => next

/-- Whether one of the triples has a binary. -/
def Catalog.somePresent (c : Catalog) (t : FileTree) (root : Path) :
    List String → Except Fault Bool
  | [] => .ok false
  | triple :: rest => (c.build root triple).presentOr t (somePresent c t root rest)

/-- Whether a group has a binary. -/
def Catalog.satisfied (c : Catalog) (t : FileTree) (root : Path) (g : Group) :
    Except Fault Bool := c.somePresent t root g.triples

/-- Puts the triple of the build in front of those that `next` gives, if it has a binary. -/
def Build.addPresent (e : Build) (t : FileTree) (next : Except Fault (List String)) :
    Except Fault (List String) :=
  match e.present t with
  | .error f => .error f
  | .ok has =>
    match next with
    | .error f => .error f
    | .ok ts => .ok (if has then e.triple :: ts else ts)

/-- The triples that have a binary. -/
def Catalog.presentTriples (c : Catalog) (t : FileTree) (root : Path) :
    List String → Except Fault (List String)
  | [] => .ok []
  | triple :: rest => (c.build root triple).addPresent t (presentTriples c t root rest)

/-- The labels of the groups that have a binary, and of those that have none. -/
def Catalog.sortGroups (c : Catalog) (t : FileTree) (root : Path) :
    List Group → Except Fault (List String × List String)
  | [] => .ok ([], [])
  | g :: rest =>
    match c.satisfied t root g with
    | .error f => .error f
    | .ok has =>
      match sortGroups c t root rest with
      | .error f => .error f
      | .ok (present, missing) =>
        .ok (if has then (g.label :: present, missing) else (present, g.label :: missing))

/-- The groups that a selection requires. -/
def Catalog.required (c : Catalog) (s : Selection) : Except Failure (List Group) :=
  match s.mode with
  | .override =>
    let unknown := s.labels.filter fun l => (c.group? l).isNone
    if unknown.isEmpty then .ok (c.groups.filter fun g => s.labels.contains g.label)
    else .error (.unknownGroup unknown c.labels)
  | _ => .ok c.groups

/-- The report when any binary will do. -/
def Catalog.verifyAny (c : Catalog) (t : FileTree) (root : Path) : Logged Report := do
  let present ← Logged.ofFault (c.presentTriples t root c.triples)
  Logged.note (.debug verifyLogger
    ("any-mode: " ++ toString present.length ++ " binaries present under " ++ root.render))
  return ⟨!present.isEmpty, .any, root, c.triples, present, []⟩

/-- The report on required groups. -/
def Catalog.verifyGroups (c : Catalog) (t : FileTree) (root : Path) (s : Selection) :
    Logged Report := do
  let groups ← Logged.ofExcept (c.required s)
  let (present, missing) ← Logged.ofFault (c.sortGroups t root groups)
  if !missing.isEmpty then
    Logged.note (.info verifyLogger ("Missing vendor groups: " ++ Text.joinWith ", " missing))
  return ⟨missing.isEmpty, s.mode, root, groups.map Group.label, present, missing⟩

/-- The report on the vendor tree at `root`. -/
def Catalog.verify (c : Catalog) (t : FileTree) (root : Path) (s : Selection) : Logged Report :=
  match s.mode with
  | .any => c.verifyAny t root
  | _ => c.verifyGroups t root s

end VendorLaunch
