import VendorLaunch.Catalog.Resolution
import VendorLaunch.FileTree

/-!
# Vendor trees

A vendor tree holds, under its root, a directory for each triple with the binary and, if there is
any, a directory of helper executables. `discover` picks the first of some triples whose binary
exists; `ensureLoadable` refuses a glibc build where glibc is not in use, for the dynamic loader
would fail with a message that helps nobody.
-/

namespace VendorLaunch

/-- The name under which the launcher writes to the log. -/
def launchLogger : String := "codex_launcher.core.services.launcher"

/-- Where the build for a triple is expected. -/
structure Build where
  triple : String
  root : Path
  binary : Path
  helpers : Path
  deriving DecidableEq, Repr

/-- The place of a triple in the vendor tree at `root`. -/
def Catalog.build (c : Catalog) (root : Path) (triple : String) : Build :=
  let place := root.join triple
  { triple, root := place
    binary := (place.join c.binaryDir).join (c.binaryFor triple)
    helpers := place.join "path" }

namespace Build

/-- Whether the binary exists. -/
def present (e : Build) (t : FileTree) : Except Fault Bool := t.pathExists e.binary

/-- Whether there are helper executables. -/
def hasHelpers (e : Build) (t : FileTree) : Except Fault Bool := t.isDirectory e.helpers

/-- Whether the build is linked against glibc. -/
def needsGlibc (e : Build) : Bool := Text.endsWith "-gnu" e.triple

end Build

/-- Takes the build if its binary exists, and goes on with the next one otherwise. -/
def Build.orElse (e : Build) (t : FileTree) (next : Logged Build) : Logged Build := do
  if ← Logged.ofFault (e.present t) then
    Logged.note (.debug launchLogger ("Selected " ++ e.binary.render))
    return e
  else
    Logged.note (.debug launchLogger ("No binary at " ++ e.binary.render))
    next

/-- Looks for the first binary among the triples `rest` of `triples`. -/
def Catalog.discoverFrom (c : Catalog) (t : FileTree) (root : Path) (triples : List String) :
    List String → Logged Build
  | [] => Logged.fail (.missingBinary triples root)
  | triple :: rest => (c.build root triple).orElse t (discoverFrom c t root triples rest)

/-- The entry of the first triple whose binary exists. -/
def Catalog.discover (c : Catalog) (t : FileTree) (root : Path) (triples : List String) :
    Logged Build := c.discoverFrom t root triples triples

/-- Refuses a glibc build on a system without glibc. -/
def ensureLoadable (key : Platform) (e : Build) : Except Failure Unit :=
  if key.hasLibcChoice && !key.runsGlibc && e.needsGlibc then .error (.incompatibleLibc e.triple)
  else .ok ()

/-- The build to run on a platform: resolved, found and fit for the C library. -/
def Catalog.select (c : Catalog) (t : FileTree) (root : Path) (key : Platform) :
    Logged Build := do
  let triples ← c.resolve key
  let e ← c.discover t root triples
  Logged.ofExcept (ensureLoadable key e)
  return e

end VendorLaunch
