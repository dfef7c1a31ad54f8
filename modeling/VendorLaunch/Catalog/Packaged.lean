import VendorLaunch.Catalog

/-!
# The packaged catalog

The catalog that comes with the launcher: six platforms, the two Linux ones with a build for each
C library.

It stands in a file next to the launcher, which a process reads when it needs the catalog for the
first time. Here it is a constant, so a file that is missing or damaged is not modelled. What
reading it leaves in the log is (`Catalog.reading`).
-/

namespace VendorLaunch

/-- A rule with a build for each C library. -/
def Rule.ofPair (os : List String) (arch gnu musl : String) : Rule :=
  ⟨os, arch, none, some gnu, some musl⟩

/-- A rule with a single build. -/
def Rule.single (os : List String) (arch triple : String) : Rule :=
  ⟨os, arch, some triple, none, none⟩

/-- The catalog that comes with the launcher. -/
def Catalog.packaged : Catalog where
  version := 1
  binaryDir := "codex"
  binaryName := "codex"
  rules := [
    .ofPair ["linux", "android"] "x64" "x86_64-unknown-linux-gnu" "x86_64-unknown-linux-musl",
    .ofPair ["linux", "android"] "arm64" "aarch64-unknown-linux-gnu" "aarch64-unknown-linux-musl",
    .single ["darwin"] "x64" "x86_64-apple-darwin",
    .single ["darwin"] "arm64" "aarch64-apple-darwin",
    .single ["win32"] "x64" "x86_64-pc-windows-msvc",
    .single ["win32"] "arm64" "aarch64-pc-windows-msvc"]
  groups := [
    ⟨"linux-x64", ["x86_64-unknown-linux-musl", "x86_64-unknown-linux-gnu"]⟩,
    ⟨"linux-arm64", ["aarch64-unknown-linux-musl", "aarch64-unknown-linux-gnu"]⟩,
    ⟨"darwin-x64", ["x86_64-apple-darwin"]⟩,
    ⟨"darwin-arm64", ["aarch64-apple-darwin"]⟩,
    ⟨"win32-x64", ["x86_64-pc-windows-msvc"]⟩,
    ⟨"win32-arm64", ["aarch64-pc-windows-msvc"]⟩]

end VendorLaunch
