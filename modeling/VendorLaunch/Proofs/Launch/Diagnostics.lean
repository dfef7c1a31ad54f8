import VendorLaunch.Proofs.Launch.Silence
import VendorLaunch.Proofs.Operator.Root

/-!
# Diagnostics

A launcher that cannot start its child ends with a line on standard error and the exit status 1.
This holds for every failure of its own, and on a system that does not fail but in starting a child
or in refusals these are all the failures there are, with two exceptions. The home directory that
the vendor root names may be unknown (`Installation.vendorRoot_eq_error`), and a name that is too
long keeps the launcher from seeing what is at a place of the vendor tree (`Catalog.Obstructed`).
Both are faults, and a fault goes through. That nothing but a long name obstructs a look is because
the trees have no permissions (`Obstructed.nameTooLong`); the rest holds of any obstruction.

`Launcher.run_diagnoses` says when a run ends by such a fault and that it ends with a diagnostic or
with its child's status otherwise; `Launcher.not_forall_run_exits` is a run that fails.
-/

namespace VendorLaunch

open Logged

/-! ### Systems without other failures -/

/-- The system installs every handler, sends every signal to the own process and takes what is
flushed; sending to a child fails with refusals, and a child that is not started is refused by the
system. -/
structure Surroundings.Benign (w : Surroundings) : Prop where
  installs : ∀ past s h, w.installFault past s h = none
  kills : ∀ past s, w.killFault past s = none
  flushes : ∀ past stream, w.flushFault past stream = none
  sends : w.RefusesSends
  spawns : ∀ past f, w.spawnFault past = some f → f.isSystem = true

namespace Surroundings

variable {w : Surroundings}

theorem Benign.refusesInstalls (hw : w.Benign) : w.RefusesInstalls := fun past s h f hf => by
  rw [hw.installs past s h] at hf
  cases hf

theorem Benign.refusesKills (hw : w.Benign) : w.RefusesKills := fun past s f hf => by
  rw [hw.kills past s] at hf
  cases hf

theorem Benign.releasesAfter (hw : w.Benign) (past : List Event) (ss : List Int) :
    w.ReleasesAfter past ss := by
  induction ss generalizing past with
  | nil => trivial
  | cons s ss ih => exact ⟨hw.installs past s .default, ih _⟩

theorem Benign.flushFault_eq_none (hw : w.Benign) (argv : List String) (env : Env) :
    (w.outset argv env).flushFault = none := by
  have hflush : ∀ past, w.flushFaults past = none := fun past => by
    rw [flushFaults, hw.flushes past .out, hw.flushes past .err]
    rfl
  unfold Outset.flushFault
  split
  · exact hflush _
  · rfl

end Surroundings

/-! ### Faults of a plan -/

namespace Build

variable {b : Build} {t : FileTree} {f : Fault}

theorem present_eq_error (h : b.present t = .error f) :
    f = PathFault.nameTooLong.toFault b.binary.render := by
  unfold present FileTree.pathExists at h
  exact FileTree.leadsTo_eq_error h

theorem hasHelpers_eq_error (h : b.hasHelpers t = .error f) :
    f = PathFault.nameTooLong.toFault b.helpers.render := by
  unfold hasHelpers FileTree.isDirectory at h
  exact FileTree.leadsTo_eq_error h

end Build

/-- The first place of the vendor tree that is not just absent cannot be looked at: the binary of a
candidate, or the helpers of the build that is selected. -/
def Catalog.Obstructed (c : Catalog) (t : FileTree) (root : Path) (key : Platform) (f : Fault) :
    Prop :=
  ∃ rule before triple after, c.rule? key.osFamily key.arch = some rule ∧
    rule.triplesFor key.libc = before ++ triple :: after ∧
    (∀ s ∈ before, (c.build root s).present t = .ok false) ∧
    ((c.build root triple).present t = .error f ∨
      (c.build root triple).present t = .ok true ∧ ¬Unloadable key (c.build root triple) ∧
        (c.build root triple).hasHelpers t = .error f)

namespace Catalog

variable {c : Catalog} {t : FileTree} {root : Path} {key : Platform} {f : Fault}

/-- What obstructs a look is a name that is too long. -/
theorem Obstructed.nameTooLong (h : c.Obstructed t root key f) :
    ∃ path : Path, f = PathFault.nameTooLong.toFault path.render := by
  obtain ⟨rule, before, triple, after, -, -, -, hp | ⟨-, -, hp⟩⟩ := h
  · exact ⟨_, Build.present_eq_error hp⟩
  · exact ⟨_, Build.hasHelpers_eq_error hp⟩

theorem select_eq_fault_iff :
    (c.select t root key).result = .error (.fault f) ↔
      ∃ rule before triple after, c.rule? key.osFamily key.arch = some rule ∧
        rule.triplesFor key.libc = before ++ triple :: after ∧
        (∀ s ∈ before, (c.build root s).present t = .ok false) ∧
        (c.build root triple).present t = .error f := by
  rw [select_eq_error_iff, resolve_eq_error_iff]
  constructor
  · rintro (⟨-, h⟩ | ⟨triples, hres, h | ⟨b, -, -, h⟩⟩)
    · cases h
    · obtain ⟨rule, hrule, rfl⟩ := resolve_eq_ok_iff.mp hres
      rcases discoverFrom_eq_error_iff.mp h with ⟨-, h⟩ | ⟨before, triple, after, g, hall, hb, hp, h⟩
      · cases h
      · obtain rfl := Failure.fault.inj h
        exact ⟨rule, before, triple, after, hrule, hall, hb, hp⟩
    · cases h
  · rintro ⟨rule, before, triple, after, hrule, hall, hb, hp⟩
    refine Or.inr ⟨_, resolve_eq_ok_iff.mpr ⟨rule, hrule, rfl⟩, Or.inl ?_⟩
    exact discoverFrom_eq_error_iff.mpr (Or.inr ⟨before, triple, after, f, hall, hb, hp, rfl⟩)

/-- A selection fails with an error of the launcher's own or with a fault. -/
theorem select_eq_error {e : Failure} (h : (c.select t root key).result = .error e) :
    e.isLauncherError = true ∨ ∃ f, e = .fault f := by
  rw [select_eq_error_iff, resolve_eq_error_iff] at h
  rcases h with ⟨-, rfl⟩ | ⟨triples, -, h | ⟨b, -, -, rfl⟩⟩
  · exact Or.inl rfl
  · rcases discoverFrom_eq_error_iff.mp h with ⟨-, rfl⟩ | ⟨-, -, -, f, -, -, -, rfl⟩
    · exact Or.inl rfl
    · exact Or.inr ⟨f, rfl⟩
  · exact Or.inl rfl

end Catalog

namespace LaunchRequest

variable {r : LaunchRequest} {site : Site} {root : Path} {key : Platform}

/-- A plan for a root ends in a fault just when a place is obstructed. -/
theorem plan_eq_fault_iff (hroot : r.rootAt site = .ok root)
    (hkey : (r.platformAt site).result = .ok key) {f : Fault} :
    (r.plan site).result = .error (.fault f) ↔ r.catalog.Obstructed site.tree root key f := by
  rw [plan_eq_error_iff hroot hkey, Catalog.select_eq_fault_iff]
  constructor
  · rintro (⟨rule, before, triple, after, hrule, hall, hb, hp⟩ | ⟨b, g, hsel, hhelp, h⟩)
    · exact ⟨rule, before, triple, after, hrule, hall, hb, Or.inl hp⟩
    · obtain rfl := Failure.fault.inj h
      obtain ⟨triples, hres, hdisc, hload⟩ := Catalog.select_eq_ok_iff.mp hsel
      obtain ⟨rule, hrule, rfl⟩ := Catalog.resolve_eq_ok_iff.mp hres
      obtain ⟨before, triple, after, hall, hb, hp, rfl⟩ := Catalog.discoverFrom_eq_ok_iff.mp hdisc
      exact ⟨rule, before, triple, after, hrule, hall, hb,
        Or.inr ⟨hp, Catalog.ensureLoadable_eq_ok_iff.mp hload, hhelp⟩⟩
  · rintro ⟨rule, before, triple, after, hrule, hall, hb, hp | ⟨hp, hload, hhelp⟩⟩
    · exact Or.inl ⟨rule, before, triple, after, hrule, hall, hb, hp⟩
    · refine Or.inr ⟨_, f, Catalog.select_eq_ok_iff.mpr ?_, hhelp, rfl⟩
      refine ⟨_, Catalog.resolve_eq_ok_iff.mpr ⟨rule, hrule, rfl⟩, ?_,
        Catalog.ensureLoadable_eq_ok_iff.mpr hload⟩
      exact Catalog.discoverFrom_eq_ok_iff.mpr ⟨before, triple, after, hall, hb, hp, rfl⟩

/-- A plan that fails and meets no obstruction fails with an error of the launcher's own. -/
theorem isLauncherError_of_plan (hroot : r.rootAt site = .ok root)
    (hkey : (r.platformAt site).result = .ok key)
    (hclear : ∀ f, ¬r.catalog.Obstructed site.tree root key f) {e : Failure}
    (h : (r.plan site).result = .error e) : e.isLauncherError = true := by
  have hnofault : ∀ f, e ≠ .fault f := by
    rintro f rfl
    exact hclear f ((plan_eq_fault_iff hroot hkey).mp h)
  rcases (plan_eq_error_iff hroot hkey).mp h with h | ⟨b, f, -, -, rfl⟩
  · rcases Catalog.select_eq_error h with h | ⟨f, rfl⟩
    · exact h
    · exact absurd rfl (hnofault f)
  · exact absurd rfl (hnofault f)

end LaunchRequest

/-! ### The vendor root -/

/-- The vendor root is unknown only when its variable names a home directory: one that nobody has,
or one with a NUL character in its name. -/
theorem Installation.vendorRoot_eq_error {i : Installation} {env : Env} {f : Fault}
    (h : i.vendorRoot env = .error f) :
    ∃ text, Env.setting? env vendorRootVar = some text ∧ (Path.ofString text).NamesHome ∧
      (f = unknownHome ∨ f = .value "embedded null byte") := by
  have hhome : ∀ name g, i.homeOf name = .error g →
      g = unknownHome ∨ g = .value "embedded null byte" := by
    intro name g hg
    unfold homeOf at hg
    split at hg
    · cases hg
    · split at hg
      · exact Or.inr (Except.error.inj hg).symm
      · split at hg
        · cases hg
        · exact Or.inl (Except.error.inj hg).symm
  unfold Installation.vendorRoot at h
  split at h
  · cases h
  · next text htext =>
    refine ⟨text, htext, ?_, ?_⟩
    · refine Classical.byContradiction fun hnot => ?_
      rw [expandHome_of_not_namesHome hnot] at h
      cases h
    · unfold expandHome at h
      split at h
      · split at h
        · split at h
          · next g hg =>
            obtain rfl := Except.error.inj h
            exact hhome _ _ hg
          · split at h
            · exact Or.inl (Except.error.inj h).symm
            · cases h
        · cases h
      · cases h

/-! ### Runs -/

namespace Launcher

variable {site : Site} {settings : Settings} {env : Env} {args : List String} {s : Session}
  {w : Surroundings} {m m₁ : Machine}

/-- The run exits with the status 1 after a line on standard error, at the start of a line, with the
name of the program and what is wrong. -/
structure Diagnosed (s : Session) (r : Session × Machine × Ending) : Prop where
  exit : r.2.2 = .exit 1
  line : ∃ (before : String) (e : Failure), Text.WholeLines before ∧ e.isLauncherError = true ∧
    r.1.err = s.err ++ before ++ name ++ ": " ++ Text.plain e.message ++ "\n"

/-- A launch that fails with an error of the launcher's own is diagnosed. -/
theorem diagnosed_runChild {e : Failure}
    (h : (request settings env args s.unread).run { site with tree := s.tree } m = (m₁, .error e))
    (he : e.isLauncherError = true) : Diagnosed s (runChild site settings env args s m) := by
  have hplain : Text.plain (name ++ ": " ++ e.message) = name ++ ": " ++ Text.plain e.message :=
    Text.plain_append (by decide) _
  obtain ⟨lines, hlines, herr⟩ := s.exists_err_noteAll
    (m₁.log.drop m.log.length ++ [.debug logger "Launch failed"])
  rw [Session.noteAll, List.foldl_append] at herr
  have hrun : runChild site settings env args s m =
      (((s.noteAll (m₁.log.drop m.log.length)).note (.debug logger "Launch failed")).complain
        (name ++ ": " ++ e.message), m₁, .exit 1) := by
    unfold runChild
    rw [h]
    simp only [refuse, if_pos he]
  rw [hrun]
  refine ⟨rfl, lines, e, hlines, he, ?_⟩
  simp only [Session.complain, hplain]
  rw [show ((s.noteAll _).note _).err = _ from herr]
  simp only [String.append_assoc]

/-- A launch that ends in a fault fails with it. -/
theorem runChild_of_fault {f : Fault}
    (h : (request settings env args s.unread).run { site with tree := s.tree } m =
      (m₁, .error (.fault f))) :
    (runChild site settings env args s m).2 = (m₁, .failed (.fault f)) := by
  unfold runChild
  rw [h]
  rfl

/-- A launch that meets an obstruction fails with it before anything happens. Any other launch exits,
and one that starts no child is diagnosed. -/
theorem runChild_diagnoses (hw : w.Benign) {key : Platform}
    (hkey : site.host.detect.result = .ok key) (settings : Settings) (env : Env)
    (args : List String) (s : Session) :
    (∀ f, Catalog.packaged.Obstructed s.tree settings.vendorRoot key f →
      (runChild site settings env args s w.boot).2.1.events = [] ∧
        (runChild site settings env args s w.boot).2.2 = .failed (.fault f)) ∧
    ((∀ f, ¬Catalog.packaged.Obstructed s.tree settings.vendorRoot key f) →
      (∃ c, (runChild site settings env args s w.boot).2.2 = .exit c) ∧
        ((runChild site settings env args s w.boot).2.1.statuses = [] →
          Diagnosed s (runChild site settings env args s w.boot))) := by
  let r := request settings env args s.unread
  let there : Site := { site with tree := s.tree }
  have hroot : r.rootAt there = .ok settings.vendorRoot := rfl
  have hplatform : (r.platformAt there).result = .ok key := hkey
  constructor
  · intro f hf
    have hplan := (LaunchRequest.plan_eq_fault_iff hroot hplatform).mpr hf
    rw [runChild_of_fault (LaunchRequest.run_of_error hplan w.boot)]
    exact ⟨rfl, rfl⟩
  · intro hclear
    cases hplan : (r.plan there).result with
    | error e =>
      have he := LaunchRequest.isLauncherError_of_plan hroot hplatform hclear hplan
      have hdiag : Diagnosed s (runChild site settings env args s w.boot) :=
        diagnosed_runChild (LaunchRequest.run_of_error hplan w.boot) he
      exact ⟨⟨1, hdiag.exit⟩, fun _ => hdiag⟩
    | ok child =>
      have hi := hw.refusesInstalls
      have hr : (w.outset child.argv child.env).Releases := hw.releasesAfter _ _
      cases hspawn : (w.outset child.argv child.env).spawnFault with
      | none =>
        have hmem := mem_runChild (LaunchRequest.mem_run_of_ok hi hplan)
        have hends := runChild_ends hi hw.sends hw.refusesKills hmem hspawn hr
        refine ⟨(hends.mirrors (hw.flushFault_eq_none _ _)).exits, fun hnone => ?_⟩
        rw [hends.statuses] at hnone
        cases hnone
      | some f =>
        obtain ⟨m₁, heq, -⟩ := LaunchRequest.run_course hi hw.sends hplan hr
        rw [Outset.outcome, hspawn] at heq
        simp only [hw.spawns _ f hspawn, if_true] at heq
        have hdiag : Diagnosed s (runChild site settings env args s w.boot) :=
          diagnosed_runChild heq rfl
        exact ⟨⟨1, hdiag.exit⟩, fun _ => hdiag⟩

/-- On a system that fails in nothing but starting children, and with refusals in sending to them, a
run without a log file ends in one of three ways. When the vendor root names a home directory that
cannot be found it fails with this fault and has done nothing. When a name is too long for it to see
what is at a place of the vendor tree, it fails with that fault before anything happens. Otherwise
it exits, and if no child was started it exits with the status 1 after a line that begins with the
name of the program. -/
theorem run_diagnoses (hw : w.Benign) (hfile : Env.setting? env logFileVar = none) (site : Site)
    (args : List String) (s : Session) :
    (∀ f, site.installation.vendorRoot env = .error f →
      run site env args s w.boot = (s, w.boot, .failed (.fault f)) ∧
        ∃ text, Env.setting? env vendorRootVar = some text ∧ (Path.ofString text).NamesHome ∧
          (f = unknownHome ∨ f = .value "embedded null byte")) ∧
    ∀ root, site.installation.vendorRoot env = .ok root →
      ∃ key, site.host.detect.result = .ok key ∧
        (∀ f, Catalog.packaged.Obstructed s.tree root key f →
          (run site env args s w.boot).2.1.events = [] ∧
            (run site env args s w.boot).2.2 = .failed (.fault f) ∧
            ∃ path : Path, f = PathFault.nameTooLong.toFault path.render) ∧
        ((∀ f, ¬Catalog.packaged.Obstructed s.tree root key f) →
          (∃ c, (run site env args s w.boot).2.2 = .exit c) ∧
            ((run site env args s w.boot).2.1.statuses = [] →
              Diagnosed s (run site env args s w.boot))) := by
  refine ⟨fun f hf => ⟨?_, Installation.vendorRoot_eq_error hf⟩, fun root hroot => ?_⟩
  · have hset : site.installation.settings env = .error f := by
      unfold Installation.settings
      rw [hf]
    unfold run
    rw [hset]
  · obtain ⟨key, hkey⟩ := site.host.exists_detect
    obtain ⟨settings, hset, rfl, hlog⟩ : ∃ settings, site.installation.settings env = .ok settings ∧
        settings.vendorRoot = root ∧ settings.logFile = none := by
      unfold Installation.settings
      rw [hroot]
      exact ⟨_, rfl, rfl, hfile⟩
    obtain ⟨s₁, hsetup, htree⟩ := exists_setUp_of_none s settings hlog
    have herr : s₁.err = s.err := by rw [← s.err_setUp (settings.logRequest name), hsetup]
    obtain ⟨hobstructed, hclear⟩ :=
      runChild_diagnoses hw hkey settings env args s₁
    rw [run_of_setUp hset hsetup]
    rw [htree] at hobstructed hclear
    refine ⟨key, hkey, fun f hf => ?_, fun hno => ?_⟩
    · obtain ⟨hevents, hending⟩ := hobstructed f hf
      exact ⟨hevents, hending, hf.nameTooLong⟩
    · obtain ⟨hexit, hdiag⟩ := hclear hno
      refine ⟨hexit, fun hnone => ?_⟩
      obtain ⟨hone, before, e, hlines, he, hline⟩ := hdiag hnone
      rw [herr] at hline
      exact ⟨hone, before, e, hlines, he, hline⟩

/-- A system that starts no child. -/
def barredWorld : World where
  spawnFault := some (.system 13 "Permission denied" none)

theorem benign_barredWorld : barredWorld.surroundings.Benign where
  installs _ _ _ := rfl
  kills _ _ := rfl
  flushes _ _ := rfl
  sends := World.refusesSends (by decide)
  spawns past f hf := by
    obtain rfl := Option.some.inj hf
    decide

/-- A child that the system refuses to start is told of in a line. -/
theorem run_diagnoses_barredWorld :
    Diagnosed muslOnlySession
      (run Site.muslOnly [] ["--help"] muslOnlySession barredWorld.surroundings.boot) := by
  have hw := benign_barredWorld
  have hfile : Env.setting? [] logFileVar = none := rfl
  obtain ⟨key, hkey, -, hclear⟩ := (run_diagnoses hw hfile Site.muslOnly ["--help"]
    muslOnlySession).2 Site.muslOnlyRoot (congrArg Except.ok Site.root_muslOnly)
  have hplan := plan_request_muslOnly ["--help"]
  have hunobstructed : ∀ f,
      ¬Catalog.packaged.Obstructed Site.muslOnly.tree Site.muslOnlyRoot key f := by
    intro f hf
    have hroot : (request muslOnlySettings [] ["--help"] none).rootAt Site.muslOnly =
        .ok Site.muslOnlyRoot := rfl
    have hfault := (LaunchRequest.plan_eq_fault_iff hroot hkey).mpr hf
    rw [hplan] at hfault
    cases hfault
  obtain ⟨-, hdiag⟩ := hclear hunobstructed
  obtain ⟨m₁, heq, -, -, -, hstatuses, -⟩ :=
    LaunchRequest.run_course hw.refusesInstalls hw.sends hplan (hw.releasesAfter _ _)
  obtain ⟨s, hlaunch, hrun⟩ := exists_muslOnlyRun ["--help"] barredWorld
  have hnone : (muslOnlyRun ["--help"] barredWorld).2.1.statuses = [] := by
    rw [hrun, runChild_of_error (hlaunch.trans heq), hstatuses]
    rfl
  unfold muslOnlyRun at hnone
  exact hdiag hnone

/-- A run can fail: the home directory that the vendor root names need not be known. -/
theorem not_forall_run_exits :
    ¬∀ (site : Site) (env : Env) (args : List String) (s : Session) (w : World),
      Env.setting? env logFileVar = none → w.surroundings.Benign →
        ∃ c, (run site env args s w.surroundings.boot).2.2 = .exit c := by
  intro h
  have hroot : Site.muslOnly.installation.vendorRoot [(vendorRootVar, "~nobody")] =
      .error unknownHome := by rfl
  obtain ⟨c, hc⟩ := h Site.muslOnly [(vendorRootVar, "~nobody")] [] muslOnlySession barredWorld rfl
    benign_barredWorld
  have hset : Site.muslOnly.installation.settings [(vendorRootVar, "~nobody")] =
      .error unknownHome := by
    unfold Installation.settings
    rw [hroot]
  rw [run_of_settings hset] at hc
  cases hc

end Launcher

end VendorLaunch
