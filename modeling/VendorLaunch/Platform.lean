import VendorLaunch.Text.Case
import VendorLaunch.Text.Split
import VendorLaunch.Validation

/-!
# Platforms

The identity of a platform is its family of operating systems, its architecture and, on Linux and
Android, the C library in use. Raw names from the system are normalised first: lower case, one
name for each family and architecture.
-/

namespace VendorLaunch

/-- The C library that a Linux build is linked against. -/
inductive Libc where
  | gnu
  | musl
  deriving DecidableEq, Repr

/-- The name of a C library. -/
def Libc.name : Libc → String
  | gnu => "gnu"
  | musl => "musl"

/-- The C libraries by name. -/
def Libc.words : List (String × Libc) := [(gnu.name, gnu), (musl.name, musl)]

/-- The identity of a platform. -/
structure Platform where
  osFamily : String
  arch : String
  libc : Option Libc
  deriving DecidableEq, Repr

/-- The families that have a choice of C library. -/
def libcFamilies : List String := ["linux", "android"]

namespace Platform

/-- Whether the platform has a choice of C library. -/
def hasLibcChoice (k : Platform) : Bool := libcFamilies.contains k.osFamily

/-- Whether a glibc build comes first. -/
def runsGlibc (k : Platform) : Bool := k.hasLibcChoice && k.libc == some .gnu

/-- The platform in words. -/
def render (k : Platform) : String :=
  k.osFamily ++ " (" ++ k.arch ++ (match k.libc with
    | some l => ", " ++ l.name
    | none => "") ++ ")"

/-- The name of the model. -/
def model : String := "PlatformKey"

/-- Reads a platform from data. -/
def ofData (d : Data) : Validated Platform := do
  let fs ← Validated.fields model d
  let ((os, arch), libc) ←
    ((Validated.required "os_family" Validated.text fs).and
      (Validated.required "arch" Validated.text fs)).and
      (Validated.optional "libc" none (Validated.nullable (Validated.member Libc.words)) fs)
  return ⟨os, arch, libc⟩

/-- A text or no value. -/
def optionText : Option String → Data
  | some s => .text s
  | none => .null

/-- The platform as data. -/
def toData (k : Platform) : Data :=
  .dict [(.text "os_family", .text k.osFamily), (.text "arch", .text k.arch),
    (.text "libc", optionText (k.libc.map Libc.name))]

end Platform

/-! ### Normalisation -/

/-- The families that are Windows. -/
def windowsFamilies : List String := ["win32", "cygwin", "msys"]

/-- The architectures that have several names. -/
def archNames : List (String × String) :=
  [("x86_64", "x64"), ("amd64", "x64"), ("x64", "x64"), ("aarch64", "arm64"), ("arm64", "arm64"),
    ("armv8l", "arm64")]

/-- The family of a system name. -/
def osFamilyOf (raw : String) : String :=
  let s := Text.lower raw
  if Text.startsWith "linux" s then "linux"
  else if windowsFamilies.contains s then "win32"
  else s

/-- The architecture of a machine name. -/
def archOf (machine : String) : String :=
  let m := Text.lower machine
  match archNames.find? fun a => a.1 == m with
  | some a => a.2
  | none => m

end VendorLaunch
