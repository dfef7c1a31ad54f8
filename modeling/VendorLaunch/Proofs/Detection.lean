import VendorLaunch.Platform.Detection
import VendorLaunch.Proofs.Lowering

/-!
# Detecting a platform

Detection never fails, since a probe that does is an answer too (`exists_detectBy`). The names of
the platform are the normalised ones, and normalising changes nothing that is normalised already
(`osFamilyOf_osFamilyOf`, `archOf_archOf`): a name of several is mapped to a fixed one, and any
other one is only put in lower case.

On Linux and Android the probe is called once and its answer decides (`Host.detectUsing_of_mem`);
elsewhere it is not called at all (`Host.detectUsing_of_notMem`).
`Host.detectUsing_names_and_libc` puts the two together. A host runs glibc, as far as the default
probe can see, when it is configured with it or, that being unknown, when the running program is
linked against it (`Host.glibcPresent_eq_true_iff`).
-/

namespace VendorLaunch

open Logged

/-! ### Names -/

theorem osFamilyOf_lower (raw : String) : osFamilyOf (Text.lower raw) = osFamilyOf raw := by
  rw [osFamilyOf, osFamilyOf, Text.lower_lower]

/-- The name of a family is normalised. -/
theorem osFamilyOf_osFamilyOf (raw : String) : osFamilyOf (osFamilyOf raw) = osFamilyOf raw := by
  have hnames : ∀ os ∈ ["linux", "win32"], osFamilyOf os = os := by decide +kernel
  have hcases : osFamilyOf raw ∈ ["linux", "win32"] ∨ osFamilyOf raw = Text.lower raw := by
    unfold osFamilyOf
    dsimp only
    split
    · exact Or.inl (by decide)
    · split
      · exact Or.inl (by decide)
      · exact Or.inr rfl
  rcases hcases with hos | hos
  · exact hnames _ hos
  · calc osFamilyOf (osFamilyOf raw) = osFamilyOf (Text.lower raw) := by rw [hos]
      _ = osFamilyOf raw := osFamilyOf_lower raw

theorem archOf_lower (machine : String) : archOf (Text.lower machine) = archOf machine := by
  rw [archOf, archOf, Text.lower_lower]

/-- The name of an architecture is normalised. -/
theorem archOf_archOf (machine : String) : archOf (archOf machine) = archOf machine := by
  have hnames : ∀ a ∈ archNames, archOf a.2 = a.2 := by decide +kernel
  have hcases : (∃ a ∈ archNames, archOf machine = a.2) ∨
      archOf machine = Text.lower machine := by
    unfold archOf
    dsimp only
    split
    · next a hfind => exact Or.inl ⟨a, List.mem_of_find?_eq_some hfind, rfl⟩
    · exact Or.inr rfl
  rcases hcases with ⟨a, ha, harch⟩ | harch
  · rw [harch, hnames a ha]
  · calc archOf (archOf machine) = archOf (Text.lower machine) := by rw [harch]
      _ = archOf machine := archOf_lower machine

/-! ### The probe -/

theorem mem_libcFamilies {os : String} : os ∈ libcFamilies ↔ os = "linux" ∨ os = "android" := by
  simp [libcFamilies]

section

variable {σ : Type} {os system machine : String} {probe : Probe σ} {s : σ}

/-- An answer that counts as true means glibc; any other one and a failure mean musl. -/
theorem exists_libcOf (answer : Except Fault Bool) :
    ∃ libc, (libcOf answer).result = .ok libc ∧ (libc = .gnu ↔ answer = .ok true) := by
  unfold libcOf
  split
  · exact ⟨.gnu, rfl, by simp⟩
  · exact ⟨.musl, rfl, by simp⟩
  · exact ⟨.musl, rfl, by simp⟩

theorem truthy_eq_ok_true_iff {answer : Except Fault Data} :
    answer.map Data.truthy = .ok true ↔ ∃ v, answer = .ok v ∧ v.truthy = true := by
  cases answer with
  | ok v => simp [Except.map]
  | error f => simp [Except.map]

/-- On a family with a choice the probe is called once, and its answer decides. -/
theorem libcOn_of_mem (probe : Probe σ) (s : σ) (hos : os ∈ libcFamilies) :
    (libcOn os probe s).2 = (probe s).2 ∧
      ∃ libc, (libcOn os probe s).1.result = .ok (some libc) ∧
        (libc = .gnu ↔ ∃ v, (probe s).1 = .ok v ∧ v.truthy = true) := by
  obtain ⟨libc, hlibc, hgnu⟩ := exists_libcOf ((probe s).1.map Data.truthy)
  rw [libcOn, if_pos (List.contains_iff_mem.mpr hos)]
  exact ⟨rfl, libc, result_bind_eq_ok.mpr ⟨libc, hlibc, rfl⟩, hgnu.trans truthy_eq_ok_true_iff⟩

theorem libcOn_of_notMem (hos : os ∉ libcFamilies) : libcOn os probe s = (pure none, s) := by
  rw [libcOn, if_neg (mt List.contains_iff_mem.mp hos)]

theorem snd_detectBy :
    (detectBy system machine probe s).2 = (libcOn (osFamilyOf system) probe s).2 := by
  unfold detectBy
  generalize osFamilyOf system = os
  rfl

theorem result_detectBy {libc : Option Libc}
    (h : (libcOn (osFamilyOf system) probe s).1.result = .ok libc) :
    (detectBy system machine probe s).1.result =
      .ok ⟨osFamilyOf system, archOf machine, libc⟩ := by
  unfold detectBy
  -- without their definitions, so that nothing looks into the tables of the names
  generalize osFamilyOf system = os at h
  generalize archOf machine = arch
  exact result_bind_eq_ok.mpr ⟨libc, h, rfl⟩

/-- Any names and any probe make a platform, which has the normalised names. -/
theorem exists_detectBy (system machine : String) (probe : Probe σ) (s : σ) :
    ∃ libc, (detectBy system machine probe s).1.result =
      .ok ⟨osFamilyOf system, archOf machine, libc⟩ := by
  by_cases hos : osFamilyOf system ∈ libcFamilies
  · obtain ⟨-, libc, hlibc, -⟩ := libcOn_of_mem probe s hos
    exact ⟨some libc, result_detectBy hlibc⟩
  · exact ⟨none, result_detectBy (by rw [libcOn_of_notMem hos]; rfl)⟩

end

/-! ### The default probe -/

namespace Host

variable {h : Host}

/-- The configuration tells nothing about glibc: the look-up fails because there is nothing to look
up, or it gives no text, or one that begins with another name. -/
inductive Unconfigured (h : Host) : Prop where
  | failed {f : Fault} : h.configured = .error f →
      f.isAbsence = true ∨ f.isValue = true ∨ f.isSystem = true → Unconfigured h
  | absent : h.configured = .ok none → Unconfigured h
  | other {version : String} : h.configured = .ok (some version) →
      ¬"glibc".toList <+: (Text.lower version).toList → Unconfigured h

/-- The system is configured with glibc, or this is not known and the running program is linked
against glibc. -/
inductive RunsGlibc (h : Host) : Prop where
  | configured {version : String} : h.configured = .ok (some version) →
      "glibc".toList <+: (Text.lower version).toList → RunsGlibc h
  | linked {version : String} : Unconfigured h → h.linked = .ok ("glibc", version) → RunsGlibc h

theorem linkedGlibc_eq_true_iff :
    h.linkedGlibc = .ok true ↔ ∃ version, h.linked = .ok ("glibc", version) := by
  unfold linkedGlibc
  split
  · next lib hlinked => obtain ⟨name, version⟩ := lib; simp [hlinked, glibc]
  · next f hlinked => cases f.isSystem <;> simp [hlinked]

/-- Where the configuration tells nothing, the program's own C library decides. -/
theorem glibcPresent_of_unconfigured (hun : h.Unconfigured) : h.glibcPresent = h.linkedGlibc := by
  unfold glibcPresent
  rcases hun with ⟨hconf, hf⟩ | hconf | ⟨hconf, hother⟩
  · rw [hconf]
    exact if_pos (by simpa [meansUnconfigured, or_assoc] using hf)
  · rw [hconf]
  · rw [hconf]
    exact if_neg (mt List.isPrefixOf_iff_prefix.mp hother)

theorem glibcPresent_of_configured {version : String} (hconf : h.configured = .ok (some version))
    (hglibc : "glibc".toList <+: (Text.lower version).toList) : h.glibcPresent = .ok true := by
  unfold glibcPresent
  rw [hconf]
  exact if_pos (List.isPrefixOf_iff_prefix.mpr hglibc)

/-- A yes that the program's own C library has no part in comes from the configuration. -/
theorem runsGlibc_of_not_unconfigured (hun : ¬h.Unconfigured) (htrue : h.glibcPresent = .ok true) :
    h.RunsGlibc := by
  cases hconf : h.configured with
  | ok found =>
    cases found with
    | none => exact absurd (.absent hconf) hun
    | some version =>
      by_cases hglibc : "glibc".toList <+: (Text.lower version).toList
      · exact .configured hconf hglibc
      · exact absurd (.other hconf hglibc) hun
  | error f =>
    have hf : ¬meansUnconfigured f = true := fun hf =>
      hun (.failed hconf (by simpa [meansUnconfigured, or_assoc] using hf))
    simp [glibcPresent, hconf, hf] at htrue

/-- The default probe finds out whether the host runs glibc. -/
theorem glibcPresent_eq_true_iff : h.glibcPresent = .ok true ↔ h.RunsGlibc := by
  constructor
  · intro htrue
    by_cases hun : h.Unconfigured
    · rw [glibcPresent_of_unconfigured hun, linkedGlibc_eq_true_iff] at htrue
      obtain ⟨version, hlinked⟩ := htrue
      exact .linked hun hlinked
    · exact runsGlibc_of_not_unconfigured hun htrue
  · rintro (⟨hconf, hglibc⟩ | ⟨hun, hlinked⟩)
    · exact glibcPresent_of_configured hconf hglibc
    · rw [glibcPresent_of_unconfigured hun]
      exact linkedGlibc_eq_true_iff.mpr ⟨_, hlinked⟩

/-- Every host has a platform, for a probe that fails is an answer too. -/
theorem exists_detect (h : Host) : ∃ key, h.detect.result = .ok key := by
  obtain ⟨libc, hkey⟩ := exists_detectBy h.system h.machine (.answering h.glibcPresent) ()
  unfold detect detectWith
  exact ⟨_, hkey⟩

/-! ### Every detection -/

section

variable {σ : Type} {probe : Option (Probe σ)} {s : σ}

/-- The probe that detection uses sees glibc: the given one answers with a value that counts as
true, and without one the host runs glibc. -/
def SeesGlibc (h : Host) (probe : Option (Probe σ)) (s : σ) : Prop :=
  match probe with
  | some p => ∃ v, (p s).1 = .ok v ∧ v.truthy = true
  | none => h.RunsGlibc

/-- The state after one call of the given probe. -/
def afterCall (probe : Option (Probe σ)) (s : σ) : σ :=
  match probe with
  | some p => (p s).2
  | none => s

theorem seesGlibc_iff :
    h.SeesGlibc probe s ↔
      ∃ v, (probe.getD (.answering h.glibcPresent) s).1 = .ok v ∧ v.truthy = true := by
  cases probe with
  | some p => rfl
  | none =>
    rw [SeesGlibc, ← glibcPresent_eq_true_iff, ← truthy_eq_ok_true_iff, Option.getD_none,
      Probe.truthy_answering]

theorem afterCall_eq : afterCall probe s = (probe.getD (.answering h.glibcPresent) s).2 := by
  cases probe <;> rfl

/-- On a family with a choice the probe is called once, and glibc is what it sees. -/
theorem detectUsing_of_mem {system : Option String} (machine : Option String)
    (probe : Option (Probe σ)) (s : σ) (hos : osFamilyOf (system.getD h.system) ∈ libcFamilies) :
    (h.detectUsing system machine probe s).2 = afterCall probe s ∧
      ∃ libc, (h.detectUsing system machine probe s).1.result =
        .ok ⟨osFamilyOf (system.getD h.system), archOf (machine.getD h.machine), some libc⟩ ∧
        (libc = .gnu ↔ h.SeesGlibc probe s) := by
  obtain ⟨hcall, libc, hlibc, hgnu⟩ :=
    libcOn_of_mem (probe.getD (.answering h.glibcPresent)) s hos
  unfold detectUsing
  refine ⟨?_, libc, result_detectBy hlibc, hgnu.trans seesGlibc_iff.symm⟩
  rw [snd_detectBy, hcall, afterCall_eq]

/-- On a family without a choice the probe is not called. -/
theorem detectUsing_of_notMem {system : Option String} (machine : Option String)
    (probe : Option (Probe σ)) (s : σ) (hos : osFamilyOf (system.getD h.system) ∉ libcFamilies) :
    (h.detectUsing system machine probe s).2 = s ∧
      (h.detectUsing system machine probe s).1.result =
        .ok ⟨osFamilyOf (system.getD h.system), archOf (machine.getD h.machine), none⟩ := by
  unfold detectUsing
  refine ⟨?_, result_detectBy (by rw [libcOn_of_notMem hos]; rfl)⟩
  rw [snd_detectBy, libcOn_of_notMem hos]

/-- A detection from normalised names gives a platform with these names. -/
theorem exists_redetect {os arch : String} (hos : osFamilyOf os = os) (harch : archOf arch = arch)
    (h : Host) (probe : Option (Probe σ)) (s : σ) :
    ∃ libc, (h.detectUsing (some os) (some arch) probe s).1.result = .ok ⟨os, arch, libc⟩ := by
  obtain ⟨libc, hkey⟩ := exists_detectBy os arch (probe.getD (.answering h.glibcPresent)) s
  rw [hos, harch] at hkey
  rw [detectUsing, Option.getD_some, Option.getD_some]
  exact ⟨libc, hkey⟩

/-- Whatever the host says about itself, whatever names are given and whatever the probe does,
detection gives a platform with the normalised names. Its C library is left open exactly off Linux
and Android, where the probe is not called; on them the probe is called once and decides between
glibc and musl. Normalised names stay as they are, so a detection from them gives them again. -/
theorem detectUsing_names_and_libc (h : Host) (system machine : Option String)
    (probe : Option (Probe σ)) (s : σ) :
    (∃ key, (h.detectUsing system machine probe s).1.result = .ok key ∧
      key.osFamily = osFamilyOf (system.getD h.system) ∧
      key.arch = archOf (machine.getD h.machine) ∧
      (key.libc = none ↔ key.osFamily ≠ "linux" ∧ key.osFamily ≠ "android") ∧
      (key.osFamily = "linux" ∨ key.osFamily = "android" →
        (key.libc = some .gnu ↔ h.SeesGlibc probe s) ∧
        (h.detectUsing system machine probe s).2 = afterCall probe s) ∧
      (key.osFamily ≠ "linux" ∧ key.osFamily ≠ "android" →
        (h.detectUsing system machine probe s).2 = s) ∧
      ∀ {τ : Type} (h' : Host) (probe' : Option (Probe τ)) (s' : τ), ∃ libc,
        (h'.detectUsing (some key.osFamily) (some key.arch) probe' s').1.result =
          .ok ⟨key.osFamily, key.arch, libc⟩) ∧
    ∀ raw, osFamilyOf (osFamilyOf raw) = osFamilyOf raw ∧ archOf (archOf raw) = archOf raw := by
  refine ⟨?_, fun raw => ⟨osFamilyOf_osFamilyOf raw, archOf_archOf raw⟩⟩
  have hfree : ∀ os, os ≠ "linux" ∧ os ≠ "android" ↔ os ∉ libcFamilies := by
    intro os
    rw [mem_libcFamilies, not_or]
  simp only [hfree, ← mem_libcFamilies]
  have hosFix := osFamilyOf_osFamilyOf (system.getD h.system)
  have harchFix := archOf_archOf (machine.getD h.machine)
  by_cases hos : osFamilyOf (system.getD h.system) ∈ libcFamilies
  · obtain ⟨hstate, libc, hkey, hgnu⟩ := detectUsing_of_mem machine probe s hos
    generalize osFamilyOf (system.getD h.system) = os at hos hosFix hkey ⊢
    generalize archOf (machine.getD h.machine) = arch at harchFix hkey ⊢
    refine ⟨⟨os, arch, some libc⟩, hkey, rfl, rfl, by simp [hos], fun _ => ⟨?_, hstate⟩,
      fun hnot => absurd hos hnot, exists_redetect hosFix harchFix⟩
    rw [Option.some_inj, hgnu]
  · obtain ⟨hstate, hkey⟩ := detectUsing_of_notMem machine probe s hos
    generalize osFamilyOf (system.getD h.system) = os at hos hosFix hkey ⊢
    generalize archOf (machine.getD h.machine) = arch at harchFix hkey ⊢
    exact ⟨⟨os, arch, none⟩, hkey, rfl, rfl, by simp [hos], fun hmem => absurd hmem hos,
      fun _ => hstate, exists_redetect hosFix harchFix⟩

/-- A probe that counts its calls and always answers with three. -/
def countedProbe : Probe Nat := fun calls => (.ok (.int 3), calls + 1)

/-- A host that cannot look up its configuration. -/
def unconfiguredHost : Host := { configured := .error (.value "unrecognized configuration name") }

/-- The counted probe is called once on Linux and not at all on macOS, and a host whose
configuration cannot be looked up is judged by the C library of the running program. -/
theorem detectUsing_names_and_libc_counted :
    (∃ key, (unconfiguredHost.detectUsing (some "Linux") (some "AMD64") (some countedProbe)
        0).1.result = .ok key ∧ key.arch = "x64" ∧ key.libc = some .gnu) ∧
      (unconfiguredHost.detectUsing (some "Linux") (some "AMD64") (some countedProbe) 0).2 = 1 ∧
    (∃ key, (unconfiguredHost.detectUsing (some "Darwin") none (some countedProbe) 0).1.result =
        .ok key ∧ key.libc = none) ∧
      (unconfiguredHost.detectUsing (some "Darwin") none (some countedProbe) 0).2 = 0 ∧
    ∃ key, (unconfiguredHost.detectUsing (some "ANDROID") none none 0).1.result = .ok key ∧
      key.libc = some .gnu := by
  have hlinux : osFamilyOf "Linux" = "linux" := by decide +kernel
  have hdarwin : osFamilyOf "Darwin" = "darwin" := by decide +kernel
  have handroid : osFamilyOf "ANDROID" = "android" := by decide +kernel
  have hx64 : archOf "AMD64" = "x64" := by decide +kernel
  obtain ⟨⟨key₁, hkey₁, hos₁, harch₁, -, hon₁, -⟩, -⟩ :=
    detectUsing_names_and_libc unconfiguredHost (some "Linux") (some "AMD64") (some countedProbe) 0
  obtain ⟨⟨key₂, hkey₂, hos₂, -, hnone₂, -, hoff₂, -⟩, -⟩ :=
    detectUsing_names_and_libc unconfiguredHost (some "Darwin") none (some countedProbe) 0
  obtain ⟨⟨key₃, hkey₃, hos₃, -, -, hon₃, -⟩, -⟩ :=
    detectUsing_names_and_libc unconfiguredHost (some "ANDROID") none (none : Option (Probe Nat)) 0
  rw [Option.getD_some] at hos₁ hos₂ hos₃ harch₁
  obtain ⟨hgnu₁, hstate₁⟩ := hon₁ (Or.inl (hos₁.trans hlinux))
  have hfree : key₂.osFamily ≠ "linux" ∧ key₂.osFamily ≠ "android" := by
    rw [hos₂, hdarwin]
    decide
  obtain ⟨hgnu₃, -⟩ := hon₃ (Or.inr (hos₃.trans handroid))
  exact ⟨⟨key₁, hkey₁, harch₁.trans hx64, hgnu₁.mpr ⟨.int 3, rfl, rfl⟩⟩, hstate₁,
    ⟨key₂, hkey₂, hnone₂.mpr hfree⟩, hoff₂ hfree, key₃, hkey₃,
    hgnu₃.mpr (.linked (.failed rfl (Or.inr (Or.inl rfl))) rfl)⟩

end

end Host

end VendorLaunch
