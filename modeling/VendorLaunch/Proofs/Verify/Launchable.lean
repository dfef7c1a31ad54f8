import VendorLaunch.Proofs.Launch.LibcSafety
import VendorLaunch.Proofs.Verify.Reports

/-!
# Verified trees can be launched from

A verification reads the groups of a catalog and a launch reads its rules. What ties the two
together is that each rule has a group all of whose triples are candidates of the rule
(`Catalog.Covered`). A satisfied group has a triple with a binary, so the search among the
candidates of its rule finds one (`Catalog.exists_candidate_present`).

The packaged catalog is covered. From a tree that passes its verification every platform that has a
rule can be launched on, except the Linux and Android systems without glibc on which the tree
lacks the musl build (`Catalog.launchable_of_verified`).
-/

namespace VendorLaunch

open Logged

/-- Which triples are candidates does not depend on the C library; their order does. -/
theorem Rule.mem_triplesFor_iff (rule : Rule) (libc libc' : Option Libc) {triple : String} :
    triple ∈ rule.triplesFor libc ↔ triple ∈ rule.triplesFor libc' := by
  have hpair : ∀ l, triple ∈ triplesFor.pair rule l ↔ triple ∈ present [rule.gnu, rule.musl] := by
    intro l
    unfold triplesFor.pair
    split
    · rfl
    · exact List.mem_reverse
  unfold triplesFor
  split
  · split
    · rfl
    · rw [hpair, hpair]
  · rw [hpair, hpair]

/-- Looking at a build says yes when it is there, or when it is absent and what follows says so. -/
theorem Build.presentOr_eq_true_iff {e : Build} {t : FileTree} {next : Except Fault Bool} :
    e.presentOr t next = .ok true ↔
      e.present t = .ok true ∨ e.present t = .ok false ∧ next = .ok true := by
  unfold presentOr
  cases e.present t with
  | error f => simp
  | ok here =>
    cases here with
    | true => simp
    | false => simp

namespace Catalog

variable {c : Catalog} {t : FileTree} {root : Path} {key : Platform}

/-! ### What a verification finds -/

/-- No label is missing exactly when every group is satisfied. -/
theorem sortGroups_eq_complete_iff {groups : List Group} :
    (∃ present, c.sortGroups t root groups = .ok (present, [])) ↔
      ∀ g ∈ groups, c.satisfied t root g = .ok true := by
  induction groups with
  | nil => simp [sortGroups]
  | cons g rest ih =>
    rw [List.forall_mem_cons, ← ih, sortGroups]
    constructor
    · rintro ⟨present, h⟩
      split at h
      · cases h
      · next has hg =>
        split at h
        · cases h
        · next p m hrest =>
          cases has with
          | true =>
            obtain ⟨-, rfl⟩ := Prod.mk.inj (Except.ok.inj h)
            exact ⟨hg, p, hrest⟩
          | false => cases h
    · rintro ⟨hg, p, hrest⟩
      exact ⟨g.label :: p, by rw [hg, hrest]; rfl⟩

/-- A verification of every group is in order exactly when every group is satisfied. -/
theorem verify_ok_iff {s : Selection} (hmode : s.mode = .default) :
    (∃ report, (c.verify t root s).result = .ok report ∧ report.ok = true) ↔
      ∀ g ∈ c.groups, c.satisfied t root g = .ok true := by
  have hrequired : c.required s = .ok c.groups := by rw [required, hmode]
  rw [← sortGroups_eq_complete_iff, verify, hmode]
  unfold verifyGroups
  rw [result_bind, result_ofExcept, hrequired, ok_bind]
  constructor
  · rintro ⟨report, h, hok⟩
    obtain ⟨⟨present, missing⟩, hsort, h⟩ := result_bind_eq_ok.mp h
    rw [result_ofFault_eq_ok] at hsort
    cases missing with
    | nil => exact ⟨present, hsort⟩
    | cons label labels =>
      -- the report on missing labels is not in order
      obtain rfl := Except.ok.inj h
      cases hok
  · rintro ⟨present, hsort⟩
    refine ⟨⟨true, .default, root, c.groups.map Group.label, present, []⟩, ?_, rfl⟩
    exact result_bind_eq_ok.mpr ⟨(present, []), result_ofFault_eq_ok.mpr hsort, by rw [hmode]; rfl⟩

/-! ### Groups and rules -/

/-- Each rule has a group all of whose triples are candidates of the rule. -/
def Covered (c : Catalog) : Prop :=
  ∀ rule ∈ c.rules, ∃ g ∈ c.groups, ∀ triple ∈ g.triples, triple ∈ rule.triplesFor none

instance (c : Catalog) : Decidable c.Covered :=
  inferInstanceAs (Decidable (∀ rule ∈ c.rules, ∃ g ∈ c.groups, ∀ triple ∈ g.triples,
    triple ∈ rule.triplesFor none))

theorem packaged_covered : packaged.Covered := by decide

theorem mem_rules_of_rule? {os arch : String} {rule : Rule} (h : c.rule? os arch = some rule) :
    rule ∈ c.rules := List.mem_of_find?_eq_some h

/-- When every group of a covered catalog is satisfied, every rule has a candidate with a binary. -/
theorem exists_candidate_present (hc : c.Covered)
    (hs : ∀ g ∈ c.groups, c.satisfied t root g = .ok true) {rule : Rule} (hrule : rule ∈ c.rules)
    (libc : Option Libc) :
    ∃ triple ∈ rule.triplesFor libc, (c.build root triple).present t = .ok true := by
  obtain ⟨g, hg, hcandidates⟩ := hc rule hrule
  obtain ⟨triple, hmem, hp⟩ := hasSome_iff.mp (somePresent_eq_ok (hs g hg)).symm
  exact ⟨triple, (rule.mem_triplesFor_iff none libc).mp (hcandidates triple hmem), hp⟩

/-- A search among triples of which one has a binary finds one, unless it meets a fault. -/
theorem discover_ne_missing {triples ts : List String} {r : Path}
    (h : ∃ triple ∈ triples, (c.build root triple).present t = .ok true) :
    (c.discover t root triples).result ≠ .error (.missingBinary ts r) := by
  obtain ⟨triple, hmem, hp⟩ := h
  intro hmissing
  rcases discoverFrom_eq_error_iff.mp hmissing with ⟨habsent, -⟩ | ⟨_, _, _, _, -, -, -, h⟩
  · rw [habsent triple hmem] at hp
    cases hp
  · cases h

/-- Where it can be seen of every triple whether its binary is there, a search meets no fault. -/
theorem discover_ne_fault {triples : List String} {f : Fault}
    (hseen : ∀ triple ∈ triples, ∃ here, (c.build root triple).present t = .ok here) :
    (c.discover t root triples).result ≠ .error (.fault f) := by
  intro hfault
  rcases discoverFrom_eq_error_iff.mp hfault with ⟨-, h⟩ | ⟨_, triple, _, g, hsplit, -, hp, -⟩
  · cases h
  · have hmem : triple ∈ triples := by
      rw [hsplit]
      exact List.mem_append_right _ List.mem_cons_self
    obtain ⟨here, hhere⟩ := hseen triple hmem
    rw [hhere] at hp
    cases hp

/-- Where one of them is there too, it finds a build that is there. -/
theorem exists_discover {triples : List String}
    (h : ∃ triple ∈ triples, (c.build root triple).present t = .ok true)
    (hseen : ∀ triple ∈ triples, ∃ here, (c.build root triple).present t = .ok here) :
    ∃ b, (c.discover t root triples).result = .ok b ∧ b.present t = .ok true := by
  cases hdisc : (c.discover t root triples).result with
  | ok b =>
    obtain ⟨_, triple, _, -, -, hp, rfl⟩ := discoverFrom_eq_ok_iff.mp hdisc
    exact ⟨_, rfl, hp⟩
  | error e =>
    rcases discoverFrom_eq_error_iff.mp hdisc with ⟨-, rfl⟩ | ⟨_, _, _, f, -, -, -, rfl⟩
    · exact absurd hdisc (discover_ne_missing h)
    · exact absurd hdisc (discover_ne_fault hseen)

/-! ### Trees that can be looked at -/

/-- Of every candidate of the rule it can be seen whether its binary is there and whether it has
helpers. -/
def Visible (c : Catalog) (t : FileTree) (root : Path) (rule : Rule) : Prop :=
  ∀ triple ∈ rule.triplesFor none,
    (∃ here, (c.build root triple).present t = .ok here) ∧
      ∃ has, (c.build root triple).hasHelpers t = .ok has

variable {rule : Rule}

theorem Visible.of_mem (hv : c.Visible t root rule) {libc : Option Libc} {triple : String}
    (h : triple ∈ rule.triplesFor libc) :
    (∃ here, (c.build root triple).present t = .ok here) ∧
      ∃ has, (c.build root triple).hasHelpers t = .ok has :=
  hv triple ((rule.mem_triplesFor_iff libc none).mp h)

/-- Where the candidates can be seen the selected one shows whether it has helpers. -/
theorem Visible.hasHelpers_of_select (hv : c.Visible t root rule)
    (hrule : c.rule? key.osFamily key.arch = some rule) {b : Build}
    (h : (c.select t root key).result = .ok b) : ∃ has, b.hasHelpers t = .ok has := by
  obtain ⟨triples, hres, hdisc, -⟩ := select_eq_ok_iff.mp h
  obtain ⟨rule', hrule', rfl⟩ := resolve_eq_ok_iff.mp hres
  obtain rfl := Option.some.inj (hrule.symm.trans hrule')
  obtain ⟨before, triple, after, hsplit, -, -, rfl⟩ := discoverFrom_eq_ok_iff.mp hdisc
  have hmem : triple ∈ rule.triplesFor key.libc := by
    rw [hsplit]
    exact List.mem_append_right _ List.mem_cons_self
  exact (hv.of_mem hmem).2

/-- A selection among visible candidates of which one has a binary fails on account of the C library
only. -/
theorem Visible.select_eq_error (hv : c.Visible t root rule)
    (hrule : c.rule? key.osFamily key.arch = some rule)
    (hp : ∃ triple ∈ rule.triplesFor key.libc, (c.build root triple).present t = .ok true)
    {e : Failure} (h : (c.select t root key).result = .error e) :
    ∃ s, e = .incompatibleLibc s := by
  rcases select_eq_error_iff.mp h with hres | ⟨triples, hres, hdisc | ⟨b, -, -, rfl⟩⟩
  · rw [(resolve_eq_error_iff.mp hres).1] at hrule
    cases hrule
  · obtain ⟨rule', hrule', rfl⟩ := resolve_eq_ok_iff.mp hres
    obtain rfl := Option.some.inj (hrule.symm.trans hrule')
    rcases discoverFrom_eq_error_iff.mp hdisc with ⟨-, rfl⟩ | ⟨_, _, _, f, -, -, -, rfl⟩
    · exact absurd hdisc (discover_ne_missing hp)
    · exact absurd hdisc (discover_ne_fault fun triple hmem => (hv.of_mem hmem).1)
  · exact ⟨b.triple, rfl⟩

/-! ### From verification to launch -/

/-- A verification of every group that is in order means, for every covered catalog, that on a
platform with a rule the search among the candidates never ends with a missing binary, and that it
finds a build that is there where it can see all candidates. The packaged catalog is covered; from a
tree that passes its verification, and in which the candidates can be seen, a launch is planned
unless its platform has no rule, or is a Linux or Android system without glibc for which the musl
binary is absent. -/
theorem launchable_of_verified (t : FileTree) (root : Path) {s : Selection}
    (hmode : s.mode = .default) :
    (∀ c : Catalog, c.Covered → ∀ report, (c.verify t root s).result = .ok report →
      report.ok = true → ∀ key rule, c.rule? key.osFamily key.arch = some rule →
        (c.resolve key).result = .ok (rule.triplesFor key.libc) ∧
        (∀ triples r, (c.discover t root (rule.triplesFor key.libc)).result ≠
          .error (.missingBinary triples r)) ∧
        ((∀ triple ∈ rule.triplesFor key.libc,
            ∃ here, (c.build root triple).present t = .ok here) →
          ∃ b, (c.discover t root (rule.triplesFor key.libc)).result = .ok b ∧
            b.present t = .ok true)) ∧
    packaged.Covered ∧
    ∀ report, (packaged.verify t root s).result = .ok report → report.ok = true →
      ∀ (r : LaunchRequest) (site : Site), r.catalog = .packaged → site.tree = t →
        r.rootAt site = .ok root → ∃ key, (r.platformAt site).result = .ok key ∧
          ((∀ rule, packaged.rule? key.osFamily key.arch = some rule →
            packaged.Visible t root rule) →
          ∀ e, (r.plan site).result = .error e →
            (packaged.rule? key.osFamily key.arch = none ∧
              e = .unsupportedPlatform key.osFamily key.arch) ∨
            ∃ rule gnu musl, (key.osFamily = "linux" ∨ key.osFamily = "android") ∧
              key.libc ≠ some .gnu ∧ packaged.rule? key.osFamily key.arch = some rule ∧
              rule.gnu = some gnu ∧ rule.musl = some musl ∧
              (packaged.build root musl).present t = .ok false ∧ e = .incompatibleLibc gnu) := by
  refine ⟨?_, packaged_covered, ?_⟩
  · intro c hc report hverify hok key rule hrule
    have hsatisfied := (verify_ok_iff hmode).mp ⟨report, hverify, hok⟩
    have hpresent :=
      exists_candidate_present hc hsatisfied (mem_rules_of_rule? hrule) key.libc
    exact ⟨resolve_eq_ok_iff.mpr ⟨rule, hrule, rfl⟩, fun triples r => discover_ne_missing hpresent,
      exists_discover hpresent⟩
  · intro report hverify hok r site hcat htree hroot
    obtain ⟨key, hkey⟩ := r.exists_platformAt site
    refine ⟨key, hkey, fun hv e he => ?_⟩
    have hsatisfied := (verify_ok_iff hmode).mp ⟨report, hverify, hok⟩
    rw [LaunchRequest.plan_eq_error_iff hroot hkey, hcat, htree] at he
    cases hrule : packaged.rule? key.osFamily key.arch with
    | none =>
      have hres := resolve_eq_error_iff.mpr ⟨hrule, rfl⟩
      rcases he with hselect | ⟨b, f, hb, -, -⟩
      · rw [select, result_bind, hres] at hselect
        exact Or.inl ⟨rfl, (Except.error.inj hselect).symm⟩
      · rw [select, result_bind, hres] at hb
        cases hb
    | some rule =>
      have hpresent := exists_candidate_present packaged_covered hsatisfied
        (mem_rules_of_rule? hrule) key.libc
      rcases he with hselect | ⟨b, f, hb, hf, -⟩
      · obtain ⟨gnu, rfl⟩ := (hv rule hrule).select_eq_error hrule hpresent hselect
        obtain ⟨hos, hlibc, rule', musl, hrule', hgnu, hmusl, habsent, -⟩ :=
          select_packaged_eq_incompatible_iff.mp hselect
        exact Or.inr ⟨rule', gnu, musl, hos, hlibc, hrule ▸ hrule', hgnu, hmusl, habsent, rfl⟩
      · obtain ⟨has, hhas⟩ := (hv rule hrule).hasHelpers_of_select hrule hb
        rw [hhas] at hf
        cases hf

/-- A tree under the root directory with a build for the first triple of each packaged group. -/
def wholeTree : FileTree where
  current := []
  nodes := (packaged.groups.flatMap fun g => g.triples.take 1).flatMap fun triple =>
    [([triple], .directory), ([triple, "codex"], .directory),
      ([triple, "codex", packaged.binaryFor triple], .file [])]

/-- The vendor root of the tree. -/
def wholeRoot : Path := ⟨.root, []⟩

theorem satisfied_wholeTree :
    ∀ g ∈ packaged.groups, packaged.satisfied wholeTree wholeRoot g = .ok true := by
  have hfirst : ∀ g ∈ packaged.groups, ∃ triple ∈ g.triples.head?, wholeTree.glance
      (fun _ => true) (packaged.build wholeRoot triple).binary = some true := by
    decide +kernel
  intro g hg
  obtain ⟨triple, hmem, hglance⟩ := hfirst g hg
  obtain ⟨rest, hrest⟩ := List.head?_eq_some_iff.mp hmem
  rw [satisfied, hrest, somePresent]
  exact Build.presentOr_eq_true_iff.mpr (Or.inl (Build.present_of_glance hglance))

/-- A launch on a Mac from the tree. -/
def macRequest : LaunchRequest where
  args := ["--help"]
  root := some wholeRoot
  key := some ⟨"darwin", "arm64", none⟩
  env := []
  catalog := .packaged

/-- The tree passes its verification, and a Mac can be launched on from it. -/
theorem launchable_of_verified_wholeTree :
    ∃ child, (macRequest.plan { Site.muslOnly with tree := wholeTree }).result = .ok child := by
  obtain ⟨report, hverify, hok⟩ := (verify_ok_iff (s := .everything) rfl).mpr satisfied_wholeTree
  obtain ⟨-, -, h⟩ := launchable_of_verified wholeTree wholeRoot (s := .everything) rfl
  obtain ⟨key, hkey, h⟩ := h report hverify hok macRequest { Site.muslOnly with tree := wholeTree }
    rfl rfl rfl
  obtain rfl : ⟨"darwin", "arm64", none⟩ = key := Except.ok.inj hkey
  have hrule : packaged.rule? "darwin" "arm64" = some (.single ["darwin"] "arm64"
      "aarch64-apple-darwin") := by decide
  have hvisible : packaged.Visible wholeTree wholeRoot (.single ["darwin"] "arm64"
      "aarch64-apple-darwin") := by
    intro triple hmem
    obtain rfl : triple = "aarch64-apple-darwin" := List.mem_singleton.mp hmem
    exact ⟨⟨true, Build.present_of_glance (by rfl)⟩,
      ⟨false, Build.hasHelpers_of_glance (by rfl)⟩⟩
  have hfails := h fun rule hr => Option.some.inj (hrule.symm.trans hr) ▸ hvisible
  cases hplan : (macRequest.plan { Site.muslOnly with tree := wholeTree }).result with
  | ok child => exact ⟨child, rfl⟩
  | error e =>
    rcases hfails e hplan with ⟨hnone, -⟩ | ⟨_, _, _, hos, -⟩
    · rw [hrule] at hnone
      cases hnone
    · rcases hos with hos | hos
      · exact absurd hos (by decide)
      · exact absurd hos (by decide)

end Catalog

end VendorLaunch
