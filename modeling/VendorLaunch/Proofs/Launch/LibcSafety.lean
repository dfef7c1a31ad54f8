import VendorLaunch.Proofs.Catalog.Resolving
import VendorLaunch.Proofs.Launch.Trace

/-!
# Builds and C libraries

On Linux and Android a glibc build is run only where glibc is known to be in use. This holds of
every catalog, for the build that is run has passed the check (`select_not_gnu`).

With the packaged catalog a launch is refused on account of the C library only where no build
could be run: the candidates of these systems are a glibc and a musl build, and where glibc is not
in use the musl build comes first, so the check sees the glibc build only when the musl build is
absent (`select_packaged_eq_incompatible_iff`). Where the musl build is there it is run, on a glibc
system too when the glibc build is absent (`select_packaged_musl`).
-/

namespace VendorLaunch

open Logged

/-! ### Endings of names -/

/-- A text ends with another one when that is the rest of it after some stem. -/
theorem Text.endsWith_iff {part s : String} :
    Text.endsWith part s = true ↔ ∃ stem, s = stem ++ part := by
  unfold Text.endsWith
  rw [List.isSuffixOf_iff_suffix]
  constructor
  · rintro ⟨stem, h⟩
    refine ⟨String.ofList stem, ?_⟩
    rw [← String.ofList_toList (s := s), ← h, String.ofList_append, String.ofList_toList]
  · rintro ⟨stem, rfl⟩
    exact ⟨stem.toList, by simp⟩

namespace Platform

variable {key : Platform}

theorem hasLibcChoice_iff :
    key.hasLibcChoice = true ↔ key.osFamily = "linux" ∨ key.osFamily = "android" := by
  simp [hasLibcChoice, libcFamilies]

theorem runsGlibc_iff :
    key.runsGlibc = true ↔
      (key.osFamily = "linux" ∨ key.osFamily = "android") ∧ key.libc = some .gnu := by
  simp [runsGlibc, hasLibcChoice_iff]

end Platform

/-- A build is unloadable on Linux and Android systems without glibc when its triple says that it
is a glibc build. -/
theorem Catalog.unloadable_iff {key : Platform} {b : Build} :
    Catalog.Unloadable key b ↔ (key.osFamily = "linux" ∨ key.osFamily = "android") ∧
      key.libc ≠ some .gnu ∧ ∃ stem, b.triple = stem ++ "-gnu" := by
  unfold Catalog.Unloadable
  rw [Platform.hasLibcChoice_iff, ← Bool.not_eq_true, Platform.runsGlibc_iff, Build.needsGlibc,
    Text.endsWith_iff]
  constructor
  · rintro ⟨hos, hruns, hneeds⟩
    exact ⟨hos, fun hlibc => hruns ⟨hos, hlibc⟩, hneeds⟩
  · rintro ⟨hos, hlibc, hneeds⟩
    exact ⟨hos, fun hruns => hlibc hruns.2, hneeds⟩

/-! ### Rules with two builds -/

/-- The rule has a glibc build and a musl build, and their triples say so. -/
structure Rule.IsPair (rule : Rule) (gnu musl : String) : Prop where
  triple_eq : rule.triple = none
  gnu_eq : rule.gnu = some gnu
  musl_eq : rule.musl = some musl
  gnu_ends : Text.endsWith "-gnu" gnu = true
  musl_ends : Text.endsWith "-gnu" musl = false
  musl_set : musl ≠ ""

namespace Rule

variable {rule : Rule} {gnu musl : String}

/-- The builds of a pair in their order: where glibc is in use the glibc build comes first. -/
theorem IsPair.triplesFor (h : rule.IsPair gnu musl) (libc : Option Libc) :
    rule.triplesFor libc = if libc = some .gnu then [gnu, musl] else [musl, gnu] := by
  have hgnu : gnu ≠ "" := by
    rintro rfl
    have hends := h.gnu_ends
    simp [Text.endsWith] at hends
  have hoffers : rule.Offers [musl, gnu] :=
    .pair (Or.inl h.triple_eq) h.gnu_eq hgnu h.musl_eq h.musl_set
  exact hoffers.triplesFor_eq libc

/-- The musl build of a pair can be loaded everywhere. -/
theorem IsPair.musl_loadable (h : rule.IsPair gnu musl) (c : Catalog) (root : Path)
    (key : Platform) : ¬Catalog.Unloadable key (c.build root musl) := by
  intro hun
  have hends : Text.endsWith "-gnu" musl = true := hun.2.2
  rw [h.musl_ends] at hends
  cases hends

end Rule

namespace Catalog

/-- On Linux and Android the packaged rules are pairs. -/
theorem isPair_of_packaged {os arch : String} {rule : Rule}
    (h : packaged.rule? os arch = some rule) (hos : os = "linux" ∨ os = "android") :
    ∃ gnu musl, rule.IsPair gnu musl := by
  have hlists : rule.Lists os arch := (rule?_eq_some_iff.mp h).1
  have hmem : rule ∈ packaged.rules := List.mem_of_find?_eq_some h
  simp only [packaged, List.mem_cons, List.not_mem_nil, or_false] at hmem
  rcases hmem with rfl | rfl | rfl | rfl | rfl | rfl
  · exact ⟨_, _, rfl, rfl, rfl, by rfl, by rfl, by decide⟩
  · exact ⟨_, _, rfl, rfl, rfl, by rfl, by rfl, by decide⟩
  all_goals
    -- the other rules are about other families
    rcases hos with rfl | rfl
    · simp [Rule.Lists, Rule.single] at hlists
    · simp [Rule.Lists, Rule.single] at hlists

variable {t : FileTree} {root : Path} {key : Platform}

/-- A build that is selected for a system without glibc is no glibc build. -/
theorem select_not_gnu {c : Catalog} {b : Build} (h : (c.select t root key).result = .ok b)
    (hos : key.osFamily = "linux" ∨ key.osFamily = "android") (hlibc : key.libc ≠ some .gnu)
    (stem : String) : b.triple ≠ stem ++ "-gnu" := by
  obtain ⟨_, -, -, hload⟩ := select_eq_ok_iff.mp h
  intro htriple
  exact ensureLoadable_eq_ok_iff.mp hload (unloadable_iff.mpr ⟨hos, hlibc, stem, htriple⟩)

/-- With the packaged catalog the C library is the reason of a refusal exactly where glibc is not
in use, the musl build is absent and the glibc build is there. -/
theorem select_packaged_eq_incompatible_iff {s : String} :
    (packaged.select t root key).result = .error (.incompatibleLibc s) ↔
      (key.osFamily = "linux" ∨ key.osFamily = "android") ∧ key.libc ≠ some .gnu ∧
        ∃ rule musl, packaged.rule? key.osFamily key.arch = some rule ∧ rule.gnu = some s ∧
          rule.musl = some musl ∧ (packaged.build root musl).present t = .ok false ∧
          (packaged.build root s).present t = .ok true := by
  rw [select_eq_incompatible_iff]
  constructor
  · rintro ⟨triples, b, hres, hdisc, hun, rfl⟩
    obtain ⟨rule, hrule, rfl⟩ := resolve_eq_ok_iff.mp hres
    obtain ⟨hos, hlibc, -⟩ := unloadable_iff.mp hun
    obtain ⟨gnu, musl, hpair⟩ := isPair_of_packaged hrule hos
    rw [hpair.triplesFor, if_neg hlibc] at hdisc
    obtain ⟨before, triple, after, hsplit, hbefore, hpresent, rfl⟩ :=
      discoverFrom_eq_ok_iff.mp hdisc
    refine ⟨hos, hlibc, rule, musl, hrule, ?_⟩
    cases before with
    | nil =>
      obtain ⟨rfl, -⟩ := List.cons.inj hsplit
      exact absurd hun (hpair.musl_loadable packaged root key)
    | cons u before =>
      obtain ⟨hu, hsplit⟩ := List.cons.inj hsplit
      rw [← hu] at hbefore
      cases before with
      | nil =>
        obtain ⟨rfl, -⟩ := List.cons.inj hsplit
        exact ⟨hpair.gnu_eq, hpair.musl_eq, hbefore musl List.mem_cons_self, hpresent⟩
      | cons v before => simp at hsplit
  · rintro ⟨hos, hlibc, rule, musl, hrule, hgnu, hmusl, habsent, hpresent⟩
    obtain ⟨gnu', musl', hpair⟩ := isPair_of_packaged hrule hos
    obtain rfl : gnu' = s := Option.some.inj (hpair.gnu_eq.symm.trans hgnu)
    obtain rfl : musl' = musl := Option.some.inj (hpair.musl_eq.symm.trans hmusl)
    refine ⟨rule.triplesFor key.libc, packaged.build root gnu',
      resolve_eq_ok_iff.mpr ⟨rule, hrule, rfl⟩, ?_, ?_, rfl⟩
    · rw [hpair.triplesFor, if_neg hlibc]
      refine discoverFrom_eq_ok_iff.mpr ⟨[musl'], gnu', [], rfl, fun u hu => ?_, hpresent, rfl⟩
      rw [List.mem_singleton.mp hu]
      exact habsent
    · exact unloadable_iff.mpr ⟨hos, hlibc, Text.endsWith_iff.mp hpair.gnu_ends⟩

/-- With the packaged catalog the musl build is selected where it is there, unless glibc is in use
and the glibc build is there too. -/
theorem select_packaged_musl {rule : Rule} {gnu musl : String}
    (hos : key.osFamily = "linux" ∨ key.osFamily = "android")
    (hrule : packaged.rule? key.osFamily key.arch = some rule) (hgnu : rule.gnu = some gnu)
    (hmusl : rule.musl = some musl) (hpresent : (packaged.build root musl).present t = .ok true)
    (habsent : key.libc = some .gnu → (packaged.build root gnu).present t = .ok false) :
    (packaged.select t root key).result = .ok (packaged.build root musl) := by
  obtain ⟨gnu', musl', hpair⟩ := isPair_of_packaged hrule hos
  obtain rfl : gnu' = gnu := Option.some.inj (hpair.gnu_eq.symm.trans hgnu)
  obtain rfl : musl' = musl := Option.some.inj (hpair.musl_eq.symm.trans hmusl)
  refine select_eq_ok_iff.mpr ⟨rule.triplesFor key.libc, resolve_eq_ok_iff.mpr ⟨rule, hrule, rfl⟩,
    ?_, ?_⟩
  · rw [hpair.triplesFor]
    by_cases hlibc : key.libc = some .gnu
    · rw [if_pos hlibc]
      refine discoverFrom_eq_ok_iff.mpr ⟨[gnu'], musl', [], rfl, fun u hu => ?_, hpresent, rfl⟩
      rw [List.mem_singleton.mp hu]
      exact habsent hlibc
    · rw [if_neg hlibc]
      exact discoverFrom_eq_ok_iff.mpr ⟨[], musl', [gnu'], rfl, by simp, hpresent, rfl⟩
  · exact ensureLoadable_of_not_unloadable (hpair.musl_loadable packaged root key)

end Catalog

/-! ### Launches -/

namespace LaunchRequest

variable {r : LaunchRequest} {site : Site} {w : Surroundings} {root : Path} {key : Platform}

/-- The child of a plan is the binary of the triple that was selected. -/
theorem exists_triple_of_plan {child : Child} (h : (r.plan site).result = .ok child) :
    ∃ root key triple, r.rootAt site = .ok root ∧ (r.platformAt site).result = .ok key ∧
      (r.catalog.select site.tree root key).result = .ok (r.catalog.build root triple) ∧
      child.argv = (r.catalog.build root triple).binary.render :: r.args := by
  obtain ⟨root, key, b, env, hroot, hkey, hb, -, rfl⟩ := plan_eq_ok_iff.mp h
  obtain ⟨triples, -, hdisc, -⟩ := Catalog.select_eq_ok_iff.mp hb
  obtain ⟨_, triple, _, -, -, -, rfl⟩ := Catalog.discoverFrom_eq_ok_iff.mp hdisc
  refine ⟨root, key, triple, hroot, hkey, hb, ?_⟩
  rw [Child.argv]

/-- A plan is refused on account of the C library exactly when the selection is. -/
theorem plan_eq_incompatible_iff (hroot : r.rootAt site = .ok root)
    (hkey : (r.platformAt site).result = .ok key) {s : String} :
    (r.plan site).result = .error (.incompatibleLibc s) ↔
      (r.catalog.select site.tree root key).result = .error (.incompatibleLibc s) := by
  rw [plan_eq_error_iff hroot hkey]
  constructor
  · rintro (h | ⟨b, f, -, -, h⟩)
    · exact h
    · cases h
  · exact Or.inl

/-- A launch is refused on account of the C library exactly when its plan is. -/
theorem run_eq_incompatible_iff {s : String} {m : Machine} :
    (r.run site m).2 = .error (.incompatibleLibc s) ↔
      (r.plan site).result = .error (.incompatibleLibc s) := by
  cases hplan : (r.plan site).result with
  | error e =>
    rw [run_of_error hplan]
    simp only [Except.error.injEq]
  | ok child =>
    rw [run_of_ok hplan]
    constructor
    · intro h
      rcases Machine.superviseChild_eq_error h with ⟨f, hf⟩ | ⟨b, f, hf⟩
      · cases hf
      · cases hf
    · intro h
      cases h

/-- Whatever the surroundings do: a launch never attempts to start the binary of a glibc triple on
a Linux or Android system whose C library is not glibc. With the packaged catalog it is refused on
account of the C library exactly when the system is one of these, its architecture has a rule, the
musl binary is absent and the glibc binary is there, and the refusal names the glibc triple. When
the musl binary is there it is run, unless glibc is in use and the glibc binary is there too. -/
theorem libc_safety (r : LaunchRequest) (site : Site) (w : Surroundings) :
    (∀ argv env, .spawned argv env ∈ (r.run site w.boot).1.events →
      ∃ root key triple, r.rootAt site = .ok root ∧ (r.platformAt site).result = .ok key ∧
        (r.catalog.select site.tree root key).result = .ok (r.catalog.build root triple) ∧
        argv = (r.catalog.build root triple).binary.render :: r.args ∧
        (key.osFamily = "linux" ∨ key.osFamily = "android" → key.libc ≠ some .gnu →
          ∀ stem, triple ≠ stem ++ "-gnu")) ∧
    (r.catalog = .packaged → ∀ root key, r.rootAt site = .ok root →
      (r.platformAt site).result = .ok key →
      (∀ s, (r.run site w.boot).2 = .error (.incompatibleLibc s) ↔
        (key.osFamily = "linux" ∨ key.osFamily = "android") ∧ key.libc ≠ some .gnu ∧
          ∃ rule musl, Catalog.packaged.rule? key.osFamily key.arch = some rule ∧
            rule.gnu = some s ∧ rule.musl = some musl ∧
            (Catalog.packaged.build root musl).present site.tree = .ok false ∧
            (Catalog.packaged.build root s).present site.tree = .ok true) ∧
      ∀ rule gnu musl, (key.osFamily = "linux" ∨ key.osFamily = "android") →
        Catalog.packaged.rule? key.osFamily key.arch = some rule → rule.gnu = some gnu →
        rule.musl = some musl →
        (Catalog.packaged.build root musl).present site.tree = .ok true →
        (key.libc = some .gnu →
          (Catalog.packaged.build root gnu).present site.tree = .ok false) →
        ∀ env, (Catalog.packaged.build root musl).environment site.tree r.env (r.managerAt site) =
          .ok env → w.RefusesInstalls →
        .spawned ((Catalog.packaged.build root musl).binary.render :: r.args) env ∈
          (r.run site w.boot).1.events) := by
  refine ⟨fun argv env hmem => ?_, fun hcat root key hroot hkey => ⟨fun s => ?_, ?_⟩⟩
  · obtain ⟨child, hplan, rfl, -⟩ := spawned_run hmem
    obtain ⟨root, key, triple, hroot, hkey, hb, hargv⟩ := exists_triple_of_plan hplan
    exact ⟨root, key, triple, hroot, hkey, hb, hargv,
      fun hos hlibc stem => Catalog.select_not_gnu hb hos hlibc stem⟩
  · rw [run_eq_incompatible_iff, plan_eq_incompatible_iff hroot hkey, hcat]
    exact Catalog.select_packaged_eq_incompatible_iff
  · intro rule gnu musl hos hrule hgnu hmusl hpresent habsent env henv hi
    have hselect := Catalog.select_packaged_musl hos hrule hgnu hmusl hpresent habsent
    have hplan := plan_eq_ok_iff.mpr ⟨root, key, _, env, hroot, hkey, hcat ▸ hselect, henv, rfl⟩
    rw [run_of_ok hplan]
    simpa [Machine.setChild, Child.argv] using Machine.mem_superviseChild (m := ({ w.boot with
      log := w.boot.log ++ (r.plan site).log } : Machine).setChild 0 _) hi 0

/-- On a glibc system without the glibc build the musl build is run. -/
theorem libc_safety_muslOnly :
    .spawned (Site.muslOnlyBinary.render :: ["--help"]) Site.muslOnlyEnv ∈
      ((Site.muslOnlyRequest ["--help"]).run Site.muslOnly
        (World.surroundings {}).boot).1.events := by
  obtain ⟨-, h⟩ := libc_safety (Site.muslOnlyRequest ["--help"]) Site.muslOnly (World.surroundings {})
  obtain ⟨-, hmusl⟩ := h rfl Site.muslOnlyRoot Site.muslOnlyKey
    (congrArg Except.ok Site.root_muslOnly) Site.detect_muslOnly
  have hrule : Catalog.packaged.rule? "linux" "x64" = some (.ofPair ["linux", "android"] "x64"
      "x86_64-unknown-linux-gnu" "x86_64-unknown-linux-musl") := by decide
  have hmem := hmusl _ _ _ (Or.inl rfl) hrule rfl rfl
  rw [Site.build_muslOnly] at hmem
  exact hmem Site.present_muslOnly (fun _ => Site.absent_muslOnly) Site.muslOnlyEnv
    (Site.environment_muslOnly rfl) (World.refusesInstalls (by decide))

end LaunchRequest

end VendorLaunch
