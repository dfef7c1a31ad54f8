import VendorLaunch.Proofs.Catalog.Reading
import VendorLaunch.Proofs.Launch.Planning

/-!
# What a platform is resolved to

A rule is accepted when it offers builds: one triple and no pair, or a pair and no triple, where an
empty triple counts as none (`Rule.Offers`, `Rule.problem_eq_none_iff`). The candidates of such a
rule are these builds, the musl build of a pair before the glibc build unless glibc is in use
(`Rule.Offers.triplesFor_eq`).

So an accepted catalog resolves a platform to the builds of the first rule that lists it, and fails
only where no rule does; the C library decides about the order alone
(`Catalog.resolve_of_accepted`).
-/

namespace VendorLaunch

/-! ### Rules -/

theorem isSet_iff {s : Option String} : isSet s = true ↔ ∃ t, s = some t ∧ t ≠ "" := by
  cases s with
  | none => simp [isSet]
  | some t => simp [isSet]

theorem not_isSet_iff {s : Option String} : isSet s = false ↔ s = none ∨ s = some "" := by
  cases s with
  | none => simp [isSet]
  | some t => simp [isSet]

namespace Rule

/-- The builds that a rule offers: a single one, or a pair, the musl build before the glibc build. -/
inductive Offers (r : Rule) : List String → Prop where
  | single {triple : String} : r.triple = some triple → triple ≠ "" → r.gnu = none →
      r.musl = none → r.Offers [triple]
  | pair {gnu musl : String} : r.triple = none ∨ r.triple = some "" → r.gnu = some gnu →
      gnu ≠ "" → r.musl = some musl → musl ≠ "" → r.Offers [musl, gnu]

variable {r r' : Rule} {triples : List String} {fs : List (Data × Data)}

/-- The shape of a rule is right when it offers builds. -/
theorem problem_eq_none_iff : r.problem = none ↔ ∃ triples, r.Offers triples := by
  have hshape : r.problem = none ↔
      isSet r.triple = true ∧ r.gnu = none ∧ r.musl = none ∨
        isSet r.triple = false ∧ isSet r.gnu = true ∧ isSet r.musl = true := by
    unfold problem
    cases isSet r.triple with
    | true => simp
    | false => simp
  rw [hshape]
  constructor
  · rintro (⟨htriple, hgnu, hmusl⟩ | ⟨htriple, hgnu, hmusl⟩)
    · obtain ⟨triple, htriple, hne⟩ := isSet_iff.mp htriple
      exact ⟨_, .single htriple hne hgnu hmusl⟩
    · obtain ⟨gnu, hgnu, hgnu'⟩ := isSet_iff.mp hgnu
      obtain ⟨musl, hmusl, hmusl'⟩ := isSet_iff.mp hmusl
      exact ⟨_, .pair (not_isSet_iff.mp htriple) hgnu hgnu' hmusl hmusl'⟩
  · rintro ⟨_, ⟨htriple, hne, hgnu, hmusl⟩ | ⟨htriple, hgnu, hgnu', hmusl, hmusl'⟩⟩
    · exact Or.inl ⟨isSet_iff.mpr ⟨_, htriple, hne⟩, hgnu, hmusl⟩
    · exact Or.inr ⟨not_isSet_iff.mpr htriple, isSet_iff.mpr ⟨_, hgnu, hgnu'⟩,
        isSet_iff.mpr ⟨_, hmusl, hmusl'⟩⟩

namespace Offers

/-- The candidates are the builds that are offered, in an order that the C library decides about. -/
theorem triplesFor_eq (h : r.Offers triples) (libc : Option Libc) :
    r.triplesFor libc = if libc = some .gnu then triples.reverse else triples := by
  cases h with
  | @single triple htriple hne _ _ =>
    have hsingle : r.triplesFor libc = [triple] := by
      unfold triplesFor
      rw [htriple]
      exact if_pos (bne_iff_ne.mpr hne)
    rw [hsingle, List.reverse_singleton, ite_self]
  | @pair gnu musl htriple hgnu hgnu' hmusl hmusl' =>
    have hpresent : present [r.gnu, r.musl] = [gnu, musl] := by
      simp [present, hgnu, hmusl, isSet_iff.mpr ⟨gnu, rfl, hgnu'⟩, isSet_iff.mpr ⟨musl, rfl, hmusl'⟩]
    have hpair : r.triplesFor libc = triplesFor.pair r libc := by
      unfold triplesFor
      rcases htriple with htriple | htriple
      · rw [htriple]
      · rw [htriple]
        rfl
    rw [hpair, triplesFor.pair, hpresent]
    rfl

theorem length_eq (h : r.Offers triples) : triples.length = 1 ∨ triples.length = 2 := by
  cases h with
  | single => exact Or.inl rfl
  | pair => exact Or.inr rfl

theorem empty_notMem (h : r.Offers triples) : "" ∉ triples := by
  cases h with
  | single _ hne => exact fun hmem => hne (List.mem_singleton.mp hmem).symm
  | pair _ _ hgnu _ hmusl =>
    intro hmem
    rcases List.mem_cons.mp hmem with hmem | hmem
    · exact hmusl hmem.symm
    · exact hgnu (List.mem_singleton.mp hmem).symm

end Offers

/-- The fields have the types of a rule's, and they are those of this rule. -/
structure Reads (fs : List (Data × Data)) (r : Rule) : Prop where
  os : Validated.required "os" (Validated.list Validated.text) fs = .ok r.os
  arch : Validated.required "arch" Validated.text fs = .ok r.arch
  triple : Validated.optional "triple" none (Validated.nullable Validated.text) fs = .ok r.triple
  gnu : Validated.optional "gnu" none (Validated.nullable Validated.text) fs = .ok r.gnu
  musl : Validated.optional "musl" none (Validated.nullable Validated.text) fs = .ok r.musl

/-- What remains after fields of the right types is the check of the shape. -/
theorem Reads.ofData_eq (h : Reads fs r) :
    Rule.ofData (.dict fs) = Validated.check problem (.ok r) := by
  refine congrArg (Validated.check problem) ?_
  change (((((Validated.required "os" (Validated.list Validated.text) fs).and
    (Validated.required "arch" Validated.text fs)).and _).and _).and _ >>= _) = _
  dsimp only
  rw [h.os, h.arch, h.triple, h.gnu, h.musl]
  rfl

theorem Reads.ofData_eq_ok_iff (h : Reads fs r) :
    Rule.ofData (.dict fs) = .ok r' ↔ r' = r ∧ ∃ triples, r.Offers triples := by
  rw [h.ofData_eq, Validated.check_ok_eq_ok_iff, problem_eq_none_iff]

/-- The rule is about this family of systems and this architecture. -/
def Lists (r : Rule) (os arch : String) : Prop := os ∈ r.os ∧ arch = r.arch

theorem isAbout_iff {os arch : String} : r.isAbout os arch = true ↔ r.Lists os arch := by
  simp [isAbout, Lists]

end Rule

/-! ### Catalogs -/

namespace Catalog

variable {c : Catalog} {os arch : String} {r : Rule}

/-- The first rule of the catalog that lists a platform. -/
def FirstListing (c : Catalog) (os arch : String) (r : Rule) : Prop :=
  r.Lists os arch ∧ ∃ before after, c.rules = before ++ r :: after ∧
    ∀ q ∈ before, ¬q.Lists os arch

theorem rule?_eq_none_iff : c.rule? os arch = none ↔ ∀ r ∈ c.rules, ¬r.Lists os arch := by
  simp only [rule?, List.find?_eq_none, Rule.isAbout_iff]

theorem rule?_eq_some_iff : c.rule? os arch = some r ↔ c.FirstListing os arch r := by
  simp only [rule?, List.find?_eq_some_iff_append, Bool.not_eq_true', ← Bool.not_eq_true,
    Rule.isAbout_iff, FirstListing]

/-- A rule whose fields have the right types is accepted when it names one build and no pair, or a
pair of builds and no single one, where an empty text counts as no build. So a platform is not
supported by an accepted catalog just when no rule lists it, whatever the C library. Otherwise the
first rule that does gives the candidates, one or two and none of them empty, and the C library
decides about their order only: they come in one order with glibc, and in the other order with musl
and when the library is not known. -/
theorem resolve_of_accepted :
    (∀ fs r, Rule.Reads fs r → ∀ r', Rule.ofData (.dict fs) = .ok r' ↔
      r' = r ∧ ∃ triples, r.Offers triples) ∧
    ∀ d c, Catalog.ofData d = .ok c → ∀ os arch,
      (∀ libc e, (c.resolve ⟨os, arch, libc⟩).result = .error e ↔
        e = .unsupportedPlatform os arch ∧ ∀ r ∈ c.rules, ¬r.Lists os arch) ∧
      ((∃ r ∈ c.rules, r.Lists os arch) → ∃ r triples, c.FirstListing os arch r ∧
        r.Offers triples ∧ (triples.length = 1 ∨ triples.length = 2) ∧ "" ∉ triples ∧
        (∀ libc, (c.resolve ⟨os, arch, libc⟩).result = .ok (r.triplesFor libc)) ∧
        r.triplesFor (some .musl) = triples ∧ r.triplesFor none = triples ∧
        r.triplesFor (some .gnu) = triples.reverse) := by
  refine ⟨fun fs r h r' => h.ofData_eq_ok_iff, fun d c h os arch => ⟨fun libc e => ?_, ?_⟩⟩
  · rw [resolve_eq_error_iff, rule?_eq_none_iff, and_comm]
  · rintro ⟨r₀, hmem, hlists⟩
    obtain ⟨r, hr⟩ := Option.ne_none_iff_exists'.mp fun hnone =>
      rule?_eq_none_iff.mp hnone r₀ hmem hlists
    have hfirst := rule?_eq_some_iff.mp hr
    obtain ⟨-, before, after, hrules, -⟩ := id hfirst
    have hvalid : r.problem = none := (valid_of_ofData h).rules r (by simp [hrules])
    obtain ⟨triples, hoffers⟩ := Rule.problem_eq_none_iff.mp hvalid
    exact ⟨r, triples, hfirst, hoffers, hoffers.length_eq, hoffers.empty_notMem,
      fun libc => resolve_eq_ok_iff.mpr ⟨r, hr, rfl⟩, hoffers.triplesFor_eq _,
      hoffers.triplesFor_eq _, hoffers.triplesFor_eq _⟩

/-- A pair whose single triple is empty. -/
def emptyTriplePair : Rule := ⟨["linux"], "x64", some "", some "x64-gnu", some "x64-musl"⟩

/-- Three rules about one platform, the first of them a pair. -/
def overlapping : Catalog where
  version := 1
  binaryDir := "codex"
  binaryName := "codex"
  rules := [emptyTriplePair, .single ["darwin", "linux"] "x64" "x64-any",
    .single ["linux"] "x64" "x64-late"]
  groups := []

/-- The empty triple does not keep the pair from being accepted, and of the three rules about the
platform the pair, which comes first, gives the candidates. -/
theorem resolve_of_accepted_overlapping :
    Rule.ofData emptyTriplePair.toData = .ok emptyTriplePair ∧
    (overlapping.resolve ⟨"linux", "x64", some .gnu⟩).result = .ok ["x64-gnu", "x64-musl"] ∧
    (overlapping.resolve ⟨"linux", "x64", none⟩).result = .ok ["x64-musl", "x64-gnu"] ∧
    (overlapping.resolve ⟨"win32", "x64", none⟩).result =
      .error (.unsupportedPlatform "win32" "x64") := by
  obtain ⟨haccept, hresolve⟩ := resolve_of_accepted
  have hread : Catalog.ofData overlapping.toData = .ok overlapping := by rfl
  have hpair : emptyTriplePair.Offers ["x64-musl", "x64-gnu"] :=
    .pair (Or.inr rfl) rfl (by decide) rfl (by decide)
  have hwin : ∀ r ∈ overlapping.rules, ¬r.Lists "win32" "x64" :=
    rule?_eq_none_iff.mp (by decide)
  obtain ⟨r, triples, hfirst, -, -, -, hresult, -⟩ := (hresolve _ _ hread "linux" "x64").2
    ⟨emptyTriplePair, List.mem_cons_self, List.mem_cons_self, rfl⟩
  obtain rfl : emptyTriplePair = r := Option.some.inj (rule?_eq_some_iff.mpr hfirst)
  exact ⟨(haccept _ _ ⟨rfl, rfl, rfl, rfl, rfl⟩ _).mpr ⟨rfl, _, hpair⟩, hresult _, hresult _,
    ((hresolve _ _ hread "win32" "x64").1 _ _).mpr ⟨rfl, hwin⟩⟩

end Catalog

end VendorLaunch
