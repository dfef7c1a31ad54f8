import VendorLaunch.Catalog.Packaged
import VendorLaunch.Launch
import VendorLaunch.Proofs.Detection
import VendorLaunch.Proofs.Files

/-!
# Planning a launch

What the stages of a plan hand on. A build is selected when it is the first of the candidates
whose binary exists and it is fit for the C library (`Catalog.select_eq_ok_iff`); a plan is made
when every stage gives a result (`LaunchRequest.plan_eq_ok_iff`). The log plays no part in this.

At the end stands one installation, `Site.muslOnly`, with the plan that is made there.
-/

namespace VendorLaunch

open Logged

/-! ### Candidates -/

namespace Build

variable {e : Build} {t : FileTree} {next : Logged Build}

/-- A glance tells whether the binary exists. -/
theorem present_of_glance {here : Bool} (h : t.glance (fun _ => true) e.binary = some here) :
    e.present t = .ok here :=
  FileTree.leadsTo_of_glance h

/-- A glance tells whether there are helper executables. -/
theorem hasHelpers_of_glance {has : Bool}
    (h : t.glance (fun n => n == .directory) e.helpers = some has) : e.hasHelpers t = .ok has :=
  FileTree.leadsTo_of_glance h

theorem orElse_of_present (h : e.present t = .ok true) : (e.orElse t next).result = .ok e := by
  unfold orElse
  rw [h]
  rfl

theorem orElse_of_absent (h : e.present t = .ok false) :
    (e.orElse t next).result = next.result := by
  unfold orElse
  rw [h, result_bind]
  simp only [ofFault, ok_bind, Bool.false_eq_true, if_false, result_note_bind]

theorem orElse_of_error {f : Fault} (h : e.present t = .error f) :
    (e.orElse t next).result = .error (.fault f) := by
  unfold orElse
  rw [h]
  rfl

end Build

namespace Catalog

variable {c : Catalog} {t : FileTree} {root : Path} {key : Platform} {b : Build}

theorem resolve_eq_ok_iff {triples : List String} :
    (c.resolve key).result = .ok triples ↔
      ∃ rule, c.rule? key.osFamily key.arch = some rule ∧ triples = rule.triplesFor key.libc := by
  unfold resolve
  cases c.rule? key.osFamily key.arch with
  | none => simp
  | some rule => simp [ok_bind, eq_comm]

theorem resolve_eq_error_iff {e : Failure} :
    (c.resolve key).result = .error e ↔
      c.rule? key.osFamily key.arch = none ∧ e = .unsupportedPlatform key.osFamily key.arch := by
  unfold resolve
  cases c.rule? key.osFamily key.arch with
  | none => simp [eq_comm]
  | some rule => simp [ok_bind]

/-- Candidates whose binary is absent are passed over. -/
theorem discoverFrom_append {all before : List String}
    (h : ∀ s ∈ before, (c.build root s).present t = .ok false) (rest : List String) :
    (c.discoverFrom t root all (before ++ rest)).result =
      (c.discoverFrom t root all rest).result := by
  induction before with
  | nil => rfl
  | cons s before ih =>
    rw [List.cons_append, discoverFrom, Build.orElse_of_absent (h s List.mem_cons_self)]
    exact ih fun u hu => h u (List.mem_cons_of_mem _ hu)

theorem discoverFrom_of_absent {all triples : List String}
    (h : ∀ s ∈ triples, (c.build root s).present t = .ok false) :
    (c.discoverFrom t root all triples).result = .error (.missingBinary all root) := by
  have hpass : (c.discoverFrom t root all (triples ++ [])).result =
      (c.discoverFrom t root all []).result := discoverFrom_append h []
  rwa [List.append_nil] at hpass

theorem discoverFrom_of_present {all before after : List String} {triple : String}
    (h : ∀ s ∈ before, (c.build root s).present t = .ok false)
    (hp : (c.build root triple).present t = .ok true) :
    (c.discoverFrom t root all (before ++ triple :: after)).result =
      .ok (c.build root triple) := by
  rw [discoverFrom_append h, discoverFrom, Build.orElse_of_present hp]

theorem discoverFrom_of_error {all before after : List String} {triple : String} {f : Fault}
    (h : ∀ s ∈ before, (c.build root s).present t = .ok false)
    (hp : (c.build root triple).present t = .error f) :
    (c.discoverFrom t root all (before ++ triple :: after)).result = .error (.fault f) := by
  rw [discoverFrom_append h, discoverFrom, Build.orElse_of_error hp]

/-- Either all candidates are absent, or a first one is there or cannot be looked at. -/
theorem exists_first (c : Catalog) (t : FileTree) (root : Path) (triples : List String) :
    (∀ s ∈ triples, (c.build root s).present t = .ok false) ∨
      ∃ before triple after, triples = before ++ triple :: after ∧
        (∀ s ∈ before, (c.build root s).present t = .ok false) ∧
        (c.build root triple).present t ≠ .ok false := by
  induction triples with
  | nil => exact Or.inl (by simp)
  | cons s rest ih =>
    by_cases hs : (c.build root s).present t = .ok false
    · rcases ih with habsent | ⟨before, triple, after, rfl, hbefore, hp⟩
      · exact Or.inl (List.forall_mem_cons.mpr ⟨hs, habsent⟩)
      · exact Or.inr ⟨s :: before, triple, after, rfl, List.forall_mem_cons.mpr ⟨hs, hbefore⟩, hp⟩
    · exact Or.inr ⟨[], s, rest, rfl, by simp, hs⟩

/-- What is discovered is the first candidate whose binary exists. -/
theorem discoverFrom_eq_ok_iff {all triples : List String} :
    (c.discoverFrom t root all triples).result = .ok b ↔
      ∃ before triple after, triples = before ++ triple :: after ∧
        (∀ s ∈ before, (c.build root s).present t = .ok false) ∧
        (c.build root triple).present t = .ok true ∧ b = c.build root triple := by
  constructor
  · intro h
    rcases exists_first c t root triples with habsent | ⟨before, triple, after, rfl, hbefore, hp⟩
    · rw [discoverFrom_of_absent habsent] at h
      cases h
    · cases hpresent : (c.build root triple).present t with
      | error f =>
        rw [discoverFrom_of_error hbefore hpresent] at h
        cases h
      | ok here =>
        cases here with
        | true =>
          rw [discoverFrom_of_present hbefore hpresent] at h
          exact ⟨before, triple, after, rfl, hbefore, hpresent, (Except.ok.inj h).symm⟩
        | false => exact absurd hpresent hp
  · rintro ⟨before, triple, after, rfl, hbefore, hp, rfl⟩
    exact discoverFrom_of_present hbefore hp

/-- A search for a binary fails because none of the candidates is there, or at the first one that
is not absent and cannot be looked at. -/
theorem discoverFrom_eq_error_iff {all triples : List String} {e : Failure} :
    (c.discoverFrom t root all triples).result = .error e ↔
      ((∀ s ∈ triples, (c.build root s).present t = .ok false) ∧ e = .missingBinary all root) ∨
      ∃ before triple after f, triples = before ++ triple :: after ∧
        (∀ s ∈ before, (c.build root s).present t = .ok false) ∧
        (c.build root triple).present t = .error f ∧ e = .fault f := by
  constructor
  · intro h
    rcases exists_first c t root triples with habsent | ⟨before, triple, after, rfl, hbefore, hp⟩
    · rw [discoverFrom_of_absent habsent] at h
      exact Or.inl ⟨habsent, (Except.error.inj h).symm⟩
    · cases hpresent : (c.build root triple).present t with
      | error f =>
        rw [discoverFrom_of_error hbefore hpresent] at h
        exact Or.inr ⟨before, triple, after, f, rfl, hbefore, hpresent, (Except.error.inj h).symm⟩
      | ok here =>
        cases here with
        | true =>
          rw [discoverFrom_of_present hbefore hpresent] at h
          cases h
        | false => exact absurd hpresent hp
  · rintro (⟨habsent, rfl⟩ | ⟨before, triple, after, f, rfl, hbefore, hp, rfl⟩)
    · exact discoverFrom_of_absent habsent
    · exact discoverFrom_of_error hbefore hp

/-- A search for a binary never fails on account of the C library. -/
theorem discoverFrom_ne_incompatible {all triples : List String} {s : String} :
    (c.discoverFrom t root all triples).result ≠ .error (.incompatibleLibc s) := by
  intro h
  rcases discoverFrom_eq_error_iff.mp h with ⟨-, h⟩ | ⟨_, _, _, _, -, -, -, h⟩
  · cases h
  · cases h

/-! ### Selection -/

/-- A glibc build on a system that has a C library and not glibc. -/
def Unloadable (key : Platform) (b : Build) : Prop :=
  key.hasLibcChoice = true ∧ key.runsGlibc = false ∧ b.needsGlibc = true

theorem ensureLoadable_of_unloadable (h : Unloadable key b) :
    ensureLoadable key b = .error (.incompatibleLibc b.triple) := by
  obtain ⟨hchoice, hruns, hneeds⟩ := h
  simp [ensureLoadable, hchoice, hruns, hneeds]

theorem ensureLoadable_of_not_unloadable (h : ¬Unloadable key b) :
    ensureLoadable key b = .ok () := by
  unfold ensureLoadable
  rw [if_neg]
  intro hcond
  simp only [Bool.and_eq_true, Bool.not_eq_true'] at hcond
  exact h ⟨hcond.1.1, hcond.1.2, hcond.2⟩

theorem ensureLoadable_eq_ok_iff : ensureLoadable key b = .ok () ↔ ¬Unloadable key b := by
  constructor
  · intro h hun
    rw [ensureLoadable_of_unloadable hun] at h
    cases h
  · exact ensureLoadable_of_not_unloadable

theorem ensureLoadable_eq_error_iff {e : Failure} :
    ensureLoadable key b = .error e ↔ Unloadable key b ∧ e = .incompatibleLibc b.triple := by
  by_cases hun : Unloadable key b
  · rw [ensureLoadable_of_unloadable hun]
    constructor
    · intro h
      exact ⟨hun, (Except.error.inj h).symm⟩
    · rintro ⟨-, rfl⟩
      rfl
  · rw [ensureLoadable_of_not_unloadable hun]
    constructor
    · intro h
      cases h
    · rintro ⟨h, -⟩
      exact absurd h hun

/-- What is selected is the first candidate whose binary exists, and it is fit for the C library. -/
theorem select_eq_ok_iff :
    (c.select t root key).result = .ok b ↔
      ∃ triples, (c.resolve key).result = .ok triples ∧
        (c.discover t root triples).result = .ok b ∧ ensureLoadable key b = .ok () := by
  rw [select, result_bind_eq_ok]
  simp only [result_bind_eq_ok, result_ofExcept, result_pure, Except.ok.injEq]
  constructor
  · rintro ⟨triples, hres, b', hdisc, ⟨⟩, hload, rfl⟩
    exact ⟨triples, hres, hdisc, hload⟩
  · rintro ⟨triples, hres, hdisc, hload⟩
    exact ⟨triples, hres, b, hdisc, (), hload, rfl⟩

/-- A selection fails when the platform is unknown, when the search for a binary fails, or when the
build that was found does not suit the C library. -/
theorem select_eq_error_iff {e : Failure} :
    (c.select t root key).result = .error e ↔
      (c.resolve key).result = .error e ∨
      ∃ triples, (c.resolve key).result = .ok triples ∧
        ((c.discover t root triples).result = .error e ∨
          ∃ b, (c.discover t root triples).result = .ok b ∧ Unloadable key b ∧
            e = .incompatibleLibc b.triple) := by
  rw [select, result_bind_eq_error]
  simp only [result_bind_eq_error, result_ofExcept, result_pure, ensureLoadable_eq_error_iff,
    reduceCtorEq, and_false, exists_false, or_false]

/-- The C library is the reason of a refusal when it does not suit the first candidate whose binary
exists. -/
theorem select_eq_incompatible_iff {s : String} :
    (c.select t root key).result = .error (.incompatibleLibc s) ↔
      ∃ triples b, (c.resolve key).result = .ok triples ∧
        (c.discover t root triples).result = .ok b ∧ Unloadable key b ∧ b.triple = s := by
  rw [select_eq_error_iff, resolve_eq_error_iff]
  constructor
  · rintro (⟨-, h⟩ | ⟨triples, hres, h | ⟨b, hdisc, hfit, h⟩⟩)
    · cases h
    · exact absurd h discoverFrom_ne_incompatible
    · exact ⟨triples, b, hres, hdisc, hfit, (Failure.incompatibleLibc.inj h).symm⟩
  · rintro ⟨triples, b, hres, hdisc, hfit, rfl⟩
    exact Or.inr ⟨triples, hres, Or.inr ⟨b, hdisc, hfit, rfl⟩⟩

end Catalog

/-! ### The plan -/

/-- The environment of the child cannot be made when it cannot be seen whether there are helpers. -/
theorem Build.environment_eq_error_iff {b : Build} {t : FileTree} {base : Env}
    {manager : PackageManager} {f : Fault} :
    b.environment t base manager = .error f ↔ b.hasHelpers t = .error f := by
  unfold Build.environment
  cases b.hasHelpers t with
  | error g => simp
  | ok has => simp

namespace LaunchRequest

variable {r : LaunchRequest} {site : Site}

/-- A plan is made when every stage gives a result, and it keeps the arguments. -/
theorem plan_eq_ok_iff {child : Child} :
    (r.plan site).result = .ok child ↔
      ∃ root key b env, r.rootAt site = .ok root ∧ (r.platformAt site).result = .ok key ∧
        (r.catalog.select site.tree root key).result = .ok b ∧
        b.environment site.tree r.env (r.managerAt site) = .ok env ∧
        child = { binary := b.binary, args := r.args, env := env } := by
  unfold plan
  simp only [result_bind_eq_ok, result_ofFault_eq_ok, result_note_bind, result_noteAll_bind,
    result_pure, Except.ok.injEq]
  constructor
  · rintro ⟨root, hroot, key, hkey, b, hb, env, henv, rfl⟩
    exact ⟨root, key, b, env, hroot, hkey, hb, henv, rfl⟩
  · rintro ⟨root, key, b, env, hroot, hkey, hb, henv, rfl⟩
    exact ⟨root, hroot, key, hkey, b, hb, env, henv, rfl⟩

/-- Every launch has a platform. -/
theorem exists_platformAt (r : LaunchRequest) (site : Site) :
    ∃ key, (r.platformAt site).result = .ok key := by
  unfold platformAt
  split
  · next key _ => exact ⟨key, rfl⟩
  · exact site.host.exists_detect

/-- A plan with a root and a platform fails when the selection does, or when it cannot be seen
whether there are helpers. -/
theorem plan_eq_error_iff {root : Path} {key : Platform} (hroot : r.rootAt site = .ok root)
    (hkey : (r.platformAt site).result = .ok key) {e : Failure} :
    (r.plan site).result = .error e ↔
      (r.catalog.select site.tree root key).result = .error e ∨
      ∃ b f, (r.catalog.select site.tree root key).result = .ok b ∧
        b.hasHelpers site.tree = .error f ∧ e = .fault f := by
  have hroot' : (ofFault (r.rootAt site)).result = .ok root := result_ofFault_eq_ok.mpr hroot
  unfold plan
  rw [result_bind, hroot', ok_bind, result_bind, hkey, ok_bind, result_noteAll_bind,
    result_bind_eq_error]
  simp only [result_bind_eq_error, result_ofFault_eq_error, result_note_bind, result_pure,
    reduceCtorEq, and_false, exists_false, or_false, Build.environment_eq_error_iff]
  constructor
  · rintro (h | ⟨b, hb, f, hf, rfl⟩)
    · exact Or.inl h
    · exact Or.inr ⟨b, f, hb, hf, rfl⟩
  · rintro (h | ⟨b, f, hb, hf, rfl⟩)
    · exact Or.inl h
    · exact Or.inr ⟨b, hb, f, hf, rfl⟩

end LaunchRequest

/-! ### An installation -/

namespace Site

/-- A glibc system on which the launcher is installed with the musl build alone. -/
def muslOnly : Site where
  installation := { package := ⟨.root, ["opt"]⟩, home := none, accounts := [] }
  host := {}
  tree :=
    { current := []
      nodes := [(["opt"], .directory), (["opt", "vendor"], .directory),
        (["opt", "vendor", "x86_64-unknown-linux-musl"], .directory),
        (["opt", "vendor", "x86_64-unknown-linux-musl", "codex"], .directory),
        (["opt", "vendor", "x86_64-unknown-linux-musl", "codex", "codex"], .file [])] }

/-- The vendor tree of the installation. -/
def muslOnlyRoot : Path := ⟨.root, ["opt", "vendor"]⟩

/-- The platform of the system. -/
def muslOnlyKey : Platform := ⟨"linux", "x64", some .gnu⟩

/-- The binary that is installed. -/
def muslOnlyBinary : Path :=
  ⟨.root, ["opt", "vendor", "x86_64-unknown-linux-musl", "codex", "codex"]⟩

/-- The build that is installed. -/
def muslOnlyBuild : Build where
  triple := "x86_64-unknown-linux-musl"
  root := ⟨.root, ["opt", "vendor", "x86_64-unknown-linux-musl"]⟩
  binary := muslOnlyBinary
  helpers := ⟨.root, ["opt", "vendor", "x86_64-unknown-linux-musl", "path"]⟩

theorem build_muslOnly :
    Catalog.packaged.build muslOnlyRoot "x86_64-unknown-linux-musl" = muslOnlyBuild := by
  rfl

theorem present_muslOnly : muslOnlyBuild.present muslOnly.tree = .ok true :=
  Build.present_of_glance (by rfl)

theorem absent_muslOnly :
    (Catalog.packaged.build muslOnlyRoot "x86_64-unknown-linux-gnu").present muslOnly.tree =
      .ok false :=
  Build.present_of_glance (by rfl)

theorem hasHelpers_muslOnly : muslOnlyBuild.hasHelpers muslOnly.tree = .ok false :=
  Build.hasHelpers_of_glance (by rfl)

/-- On the glibc system the musl build is selected where the glibc build is not there. -/
theorem select_of_absent {t : FileTree}
    (habsent : (Catalog.packaged.build muslOnlyRoot "x86_64-unknown-linux-gnu").present t =
      .ok false) (hpresent : muslOnlyBuild.present t = .ok true) :
    (Catalog.packaged.select t muslOnlyRoot muslOnlyKey).result = .ok muslOnlyBuild := by
  have hdisc : (Catalog.packaged.discover t muslOnlyRoot
      ["x86_64-unknown-linux-gnu", "x86_64-unknown-linux-musl"]).result = .ok muslOnlyBuild := by
    refine Catalog.discoverFrom_eq_ok_iff.mpr
      ⟨["x86_64-unknown-linux-gnu"], "x86_64-unknown-linux-musl", [], rfl, ?_, ?_,
        build_muslOnly.symm⟩
    · intro s hs
      rw [List.mem_singleton.mp hs]
      exact habsent
    · rw [build_muslOnly]
      exact hpresent
  refine Catalog.select_eq_ok_iff.mpr ⟨_, ?_, hdisc, by rfl⟩
  refine Catalog.resolve_eq_ok_iff.mpr
    ⟨.ofPair ["linux", "android"] "x64" "x86_64-unknown-linux-gnu" "x86_64-unknown-linux-musl",
      by decide, by decide⟩

theorem select_muslOnly :
    (Catalog.packaged.select muslOnly.tree muslOnlyRoot muslOnlyKey).result = .ok muslOnlyBuild :=
  select_of_absent absent_muslOnly present_muslOnly

/-- The environment of a child that is given an empty one. -/
def muslOnlyEnv : Env := [("PATH", ""), ("CODEX_INFINITE_MANAGED_BY", "unknown")]

theorem detect_muslOnly : muslOnly.host.detect.result = .ok muslOnlyKey := by
  rfl

theorem root_muslOnly : muslOnly.installation.defaultRoot = muslOnlyRoot := by rfl

/-- The environment of the child of a launch with an empty environment. -/
theorem environment_muslOnly {r : LaunchRequest} (h : r.env = []) :
    muslOnlyBuild.environment muslOnly.tree r.env (r.managerAt muslOnly) = .ok muslOnlyEnv := by
  have hmanager : PackageManager.guess [] muslOnly.installation.package.render = .unknown := by
    rfl
  have henv : environmentWith [] [] .unknown = muslOnlyEnv := by rfl
  rw [LaunchRequest.managerAt, h, hmanager, Build.environment, hasHelpers_muslOnly]
  exact congrArg Except.ok henv

/-- What is asked for when nothing but arguments is given. -/
def muslOnlyRequest (args : List String) : LaunchRequest where
  args := args
  root := none
  key := none
  env := []
  catalog := .packaged

/-- The child that is run with these arguments. -/
def muslOnlyChild (args : List String) : Child where
  binary := muslOnlyBinary
  args := args
  env := muslOnlyEnv

theorem plan_muslOnly (args : List String) :
    ((muslOnlyRequest args).plan muslOnly).result = .ok (muslOnlyChild args) := by
  refine LaunchRequest.plan_eq_ok_iff.mpr
    ⟨muslOnlyRoot, muslOnlyKey, muslOnlyBuild, muslOnlyEnv, ?_, detect_muslOnly, select_muslOnly,
      environment_muslOnly rfl, rfl⟩
  exact congrArg Except.ok root_muslOnly

end Site

end VendorLaunch
