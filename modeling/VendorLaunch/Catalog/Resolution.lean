import VendorLaunch.Catalog
import VendorLaunch.Platform.Detection

/-!
# Resolution

The candidate triples for a platform, most preferred first: those of the first rule about it.
-/

namespace VendorLaunch

/-- The candidate triples of a platform. -/
def Catalog.resolve (c : Catalog) (key : Platform) : Logged (List String) := do
  match c.rule? key.osFamily key.arch with
  | none => Logged.fail (.unsupportedPlatform key.osFamily key.arch)
  | some rule =>
    let triples := rule.triplesFor key.libc
    Logged.note (.debug platformLogger
      ("Candidate targets for " ++ key.render ++ ": " ++ Text.joinWith ", " triples))
    return triples

end VendorLaunch
