import VendorLaunch.Logged
import VendorLaunch.Platform

/-!
# Platform detection

A `Host` is what the running system says about itself. From it `detect` computes the platform.
Whether glibc is in use is a question only on Linux and Android; a probe answers it, and a probe
that fails counts as a no. The default probe asks the system's configuration first and the C
library of the running program second.

A caller of `detectUsing` can give names and a probe of its own. Such a probe may do anything to the
state it is given, so what detection leaves of the state tells when and how often it was called.
-/

namespace VendorLaunch

/-- What the running system says about itself. -/
structure Host where
  /-- The name of the system. -/
  system : String := "linux"
  /-- The name of the machine. -/
  machine : String := "x86_64"
  /-- The configured version of the C library. -/
  configured : Except Fault (Option String) := .ok (some "glibc 2.36")
  /-- The C library that the running program is linked against, and its version. -/
  linked : Except Fault (String × String) := .ok ("glibc", "2.36")

namespace Host

/-- Whether a fault of the configuration look-up means that nothing is configured. -/
def meansUnconfigured (f : Fault) : Bool := f.isAbsence || f.isValue || f.isSystem

/-- The name of the GNU C library. -/
def glibc : String := "glibc"

/-- What the linked C library says: a failing system call is a no. -/
def linkedGlibc (h : Host) : Except Fault Bool :=
  match h.linked with
  | .ok lib => .ok (lib.1 == glibc)
  | .error f => if f.isSystem then .ok false else .error f

/-- Whether the host runs glibc. -/
def glibcPresent (h : Host) : Except Fault Bool :=
  match h.configured with
  | .ok (some version) =>
    if Text.startsWith glibc (Text.lower version) then .ok true else h.linkedGlibc
  | .ok none => h.linkedGlibc
  | .error f => if meansUnconfigured f then h.linkedGlibc else .error f

end Host

/-- The name under which detection writes to the log. -/
def platformLogger : String := "codex_launcher.core.services.resolver"

/-- The C library that a probe finds; a probe that fails finds musl. -/
def libcOf (probe : Except Fault Bool) : Logged Libc := do
  match probe with
  | .ok true => return .gnu
  | .ok false => return .musl
  | .error f =>
    Logged.note (.debug platformLogger ("libc probe failed, assuming non-glibc: " ++ f.text))
    return .musl

/-- A way to find out whether glibc is in use. It changes a state, and answers with a value that
counts as true or not, or fails. -/
abbrev Probe (σ : Type) := σ → Except Fault Data × σ

/-- A probe that does nothing but answer. -/
def Probe.answering {σ : Type} (answer : Except Fault Bool) : Probe σ := fun s =>
  (answer.map .bool, s)

/-- The C library of a family; the probe is called on Linux and Android alone. -/
def libcOn {σ : Type} (os : String) (probe : Probe σ) (s : σ) : Logged (Option Libc) × σ :=
  if libcFamilies.contains os then
    let (answer, s) := probe s
    (some <$> libcOf (answer.map Data.truthy), s)
  else (pure none, s)

/-- The platform with these raw names. -/
def detectBy {σ : Type} (system machine : String) (probe : Probe σ) (s : σ) : Logged Platform × σ :=
  let os := osFamilyOf system
  let arch := archOf machine
  let (libc, s) := libcOn os probe s
  (do
    let libc ← libc
    let key : Platform := ⟨os, arch, libc⟩
    Logged.note (.debug platformLogger ("Detected platform " ++ key.render))
    return key, s)

/-- The platform with these raw names and with this answer of the probe. -/
def detectWith (system machine : String) (probe : Except Fault Bool) : Logged Platform :=
  (detectBy system machine (.answering probe) ()).1

/-- The platform of a host. -/
def Host.detect (h : Host) : Logged Platform := detectWith h.system h.machine h.glibcPresent

/-- The platform of a host, names and a probe that are given being used in place of its own. -/
def Host.detectUsing {σ : Type} (h : Host) (system machine : Option String)
    (probe : Option (Probe σ)) (s : σ) : Logged Platform × σ :=
  detectBy (system.getD h.system) (machine.getD h.machine)
    (probe.getD (.answering h.glibcPresent)) s

theorem Host.detect_eq_detectUsing (h : Host) :
    h.detect = (h.detectUsing none none none ()).1 := rfl

theorem Probe.truthy_answering {σ : Type} (answer : Except Fault Bool) (s : σ) :
    (Probe.answering answer s).1.map Data.truthy = answer := by
  cases answer <;> rfl

end VendorLaunch
