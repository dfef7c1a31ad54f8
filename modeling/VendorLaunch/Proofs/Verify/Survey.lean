import VendorLaunch.Verify

/-!
# What a verification sees

A verification looks at one binary after the other, leaves a group at the first binary it finds and
stops at the first look that fails. In what it finds nothing of this order is left: a group is
satisfied when one of its triples has a binary (`Catalog.hasSome`), the labels that are present and
those that are missing are two halves of one list (`sortGroups_eq_ok`), and the triples that are
present are those whose binary is there (`presentTriples_eq_ok`). What fails is a look at one of the
triples (`exists_fault_of_sortGroups`, `exists_fault_of_presentTriples`), so where these can be seen
nothing fails (`sortGroups_of_seen`, `presentTriples_of_seen`).
-/

namespace VendorLaunch

namespace Build

variable {e : Build} {t : FileTree}

/-- Whether it can be seen that the binary of the build is there. -/
def isThere (e : Build) (t : FileTree) : Bool :=
  match e.present t with
  | .ok here => here
  | .error _ => false

theorem isThere_of_present {here : Bool} (h : e.present t = .ok here) : e.isThere t = here := by
  rw [isThere, h]

theorem isThere_iff : e.isThere t = true ↔ e.present t = .ok true := by
  unfold isThere
  cases e.present t with
  | ok here => simp
  | error f => simp

end Build

namespace Catalog

variable {c : Catalog} {t : FileTree} {root : Path}

/-! ### The triples of a catalog -/

theorem mem_distinct_iff {triple : String} (seen triples : List String) :
    triple ∈ distinct seen triples ↔ triple ∈ triples ∧ triple ∉ seen := by
  induction triples generalizing seen with
  | nil => simp [distinct]
  | cons s rest ih =>
    rw [distinct]
    by_cases hs : s ∈ seen
    · rw [if_pos (List.contains_iff_mem.mpr hs), ih, List.mem_cons]
      constructor
      · exact fun ⟨hmem, hnot⟩ => ⟨Or.inr hmem, hnot⟩
      · rintro ⟨rfl | hmem, hnot⟩
        · exact absurd hs hnot
        · exact ⟨hmem, hnot⟩
    · rw [if_neg (mt List.contains_iff_mem.mp hs), List.mem_cons, ih, List.mem_cons, List.mem_cons]
      constructor
      · rintro (rfl | ⟨hmem, hnot⟩)
        · exact ⟨Or.inl rfl, hs⟩
        · exact ⟨Or.inr hmem, fun h => hnot (Or.inr h)⟩
      · rintro ⟨rfl | hmem, hnot⟩
        · exact Or.inl rfl
        · by_cases heq : triple = s
          · exact Or.inl heq
          · exact Or.inr ⟨hmem, fun h => h.elim heq hnot⟩

/-- The triples of a catalog are those of its groups. -/
theorem mem_triples_iff {triple : String} :
    triple ∈ c.triples ↔ ∃ g ∈ c.groups, triple ∈ g.triples := by
  rw [triples, mem_distinct_iff, List.mem_flatMap]
  exact and_iff_left List.not_mem_nil

/-- Of each of the triples it can be seen whether its binary is there. -/
def Seen (c : Catalog) (t : FileTree) (root : Path) (triples : List String) : Prop :=
  ∀ triple ∈ triples, ∃ here, (c.build root triple).present t = .ok here

/-- No look at a triple that can be seen fails. -/
theorem Seen.present_ne_error {triples : List String} (h : c.Seen t root triples) {triple : String}
    (hmem : triple ∈ triples) (f : Fault) : (c.build root triple).present t ≠ .error f := by
  obtain ⟨here, hhere⟩ := h triple hmem
  rw [hhere]
  exact nofun

/-- Whether the binary of one of the triples is there. -/
def hasSome (c : Catalog) (t : FileTree) (root : Path) (triples : List String) : Bool :=
  triples.any fun triple => (c.build root triple).isThere t

theorem hasSome_iff {triples : List String} :
    c.hasSome t root triples = true ↔
      ∃ triple ∈ triples, (c.build root triple).present t = .ok true := by
  simp only [hasSome, List.any_eq_true, Build.isThere_iff]

theorem hasSome_cons (triple : String) (rest : List String) :
    c.hasSome t root (triple :: rest) =
      ((c.build root triple).isThere t || c.hasSome t root rest) := rfl

/-! ### Groups -/

/-- A group is satisfied when one of its triples has a binary. -/
theorem somePresent_eq_ok {triples : List String} {has : Bool}
    (h : c.somePresent t root triples = .ok has) : has = c.hasSome t root triples := by
  induction triples with
  | nil => exact (Except.ok.inj h).symm
  | cons triple rest ih =>
    rw [somePresent, Build.presentOr] at h
    rw [hasSome_cons]
    cases hp : (c.build root triple).present t with
    | error f =>
      rw [hp] at h
      cases h
    | ok here =>
      rw [hp] at h
      rw [Build.isThere_of_present hp]
      cases here with
      | true => exact (Except.ok.inj h).symm
      | false => exact ih h

/-- A search in a group fails at one of its triples. -/
theorem exists_fault_of_somePresent {triples : List String} {f : Fault}
    (h : c.somePresent t root triples = .error f) :
    ∃ triple ∈ triples, (c.build root triple).present t = .error f := by
  induction triples with
  | nil => cases h
  | cons triple rest ih =>
    rw [somePresent, Build.presentOr] at h
    cases hp : (c.build root triple).present t with
    | error g =>
      rw [hp] at h
      obtain rfl := Except.error.inj h
      exact ⟨triple, List.mem_cons_self, hp⟩
    | ok here =>
      rw [hp] at h
      cases here with
      | true => cases h
      | false =>
        obtain ⟨s, hs, hfault⟩ := ih h
        exact ⟨s, List.mem_cons_of_mem _ hs, hfault⟩

/-- The labels of those among the groups that have a binary. -/
def presentLabels (c : Catalog) (t : FileTree) (root : Path) (groups : List Group) : List String :=
  (groups.filter fun g => c.hasSome t root g.triples).map Group.label

/-- The labels of those among the groups that have none. -/
def missingLabels (c : Catalog) (t : FileTree) (root : Path) (groups : List Group) : List String :=
  (groups.filter fun g => !c.hasSome t root g.triples).map Group.label

/-- Sorting groups tells those that have a binary from those that have none. -/
theorem sortGroups_eq_ok {groups : List Group} {present missing : List String}
    (h : c.sortGroups t root groups = .ok (present, missing)) :
    present = c.presentLabels t root groups ∧ missing = c.missingLabels t root groups := by
  induction groups generalizing present missing with
  | nil =>
    obtain ⟨rfl, rfl⟩ := Prod.mk.inj (Except.ok.inj h)
    exact ⟨rfl, rfl⟩
  | cons g groups ih =>
    rw [sortGroups] at h
    cases hsat : c.satisfied t root g with
    | error f =>
      rw [hsat] at h
      cases h
    | ok has =>
      have hhas : has = c.hasSome t root g.triples := somePresent_eq_ok hsat
      cases hsort : c.sortGroups t root groups with
      | error f =>
        rw [hsat, hsort] at h
        cases h
      | ok sorted =>
        obtain ⟨p, m⟩ := sorted
        obtain ⟨rfl, rfl⟩ := ih hsort
        rw [hsat, hsort] at h
        unfold presentLabels missingLabels
        rw [List.filter_cons, List.filter_cons, ← hhas]
        cases has with
        | true =>
          obtain ⟨rfl, rfl⟩ := Prod.mk.inj (Except.ok.inj h)
          exact ⟨rfl, rfl⟩
        | false =>
          obtain ⟨rfl, rfl⟩ := Prod.mk.inj (Except.ok.inj h)
          exact ⟨rfl, rfl⟩

/-- Sorting groups fails at a triple of one of them. -/
theorem exists_fault_of_sortGroups {groups : List Group} {f : Fault}
    (h : c.sortGroups t root groups = .error f) :
    ∃ g ∈ groups, ∃ triple ∈ g.triples, (c.build root triple).present t = .error f := by
  induction groups with
  | nil => cases h
  | cons g groups ih =>
    rw [sortGroups] at h
    cases hsat : c.satisfied t root g with
    | error f' =>
      rw [hsat] at h
      obtain rfl := Except.error.inj h
      exact ⟨g, List.mem_cons_self, exists_fault_of_somePresent hsat⟩
    | ok has =>
      cases hsort : c.sortGroups t root groups with
      | error f' =>
        rw [hsat, hsort] at h
        obtain rfl := Except.error.inj h
        obtain ⟨g', hg', hfault⟩ := ih hsort
        exact ⟨g', List.mem_cons_of_mem _ hg', hfault⟩
      | ok sorted =>
        rw [hsat, hsort] at h
        cases h

/-- Groups whose triples can be seen are sorted. -/
theorem sortGroups_of_seen {groups : List Group} (h : ∀ g ∈ groups, c.Seen t root g.triples) :
    c.sortGroups t root groups =
      .ok (c.presentLabels t root groups, c.missingLabels t root groups) := by
  cases hsort : c.sortGroups t root groups with
  | ok sorted =>
    obtain ⟨present, missing⟩ := sorted
    obtain ⟨rfl, rfl⟩ := sortGroups_eq_ok hsort
    rfl
  | error f =>
    obtain ⟨g, hg, triple, htriple, hfault⟩ := exists_fault_of_sortGroups hsort
    exact absurd hfault ((h g hg).present_ne_error htriple f)

/-- No label is missing when every group has a binary. -/
theorem missingLabels_eq_nil_iff {groups : List Group} :
    c.missingLabels t root groups = [] ↔ ∀ g ∈ groups, c.hasSome t root g.triples = true := by
  simp [missingLabels]

/-- Some label is present when some group has a binary. -/
theorem presentLabels_ne_nil_iff {groups : List Group} :
    c.presentLabels t root groups ≠ [] ↔ ∃ g ∈ groups, c.hasSome t root g.triples = true := by
  simp [presentLabels]

/-! ### Listing triples -/

/-- The triples that are present are those whose binary is there. -/
theorem presentTriples_eq_ok {triples present : List String}
    (h : c.presentTriples t root triples = .ok present) :
    present = triples.filter fun triple => (c.build root triple).isThere t := by
  induction triples generalizing present with
  | nil => exact (Except.ok.inj h).symm
  | cons triple rest ih =>
    rw [presentTriples, Build.addPresent] at h
    cases hp : (c.build root triple).present t with
    | error f =>
      rw [hp] at h
      cases h
    | ok here =>
      cases hrest : c.presentTriples t root rest with
      | error f =>
        rw [hp, hrest] at h
        cases h
      | ok ts =>
        obtain rfl := ih hrest
        rw [hp, hrest] at h
        rw [List.filter_cons, Build.isThere_of_present hp]
        exact (Except.ok.inj h).symm

/-- Listing the triples that are present fails at one of the triples. -/
theorem exists_fault_of_presentTriples {triples : List String} {f : Fault}
    (h : c.presentTriples t root triples = .error f) :
    ∃ triple ∈ triples, (c.build root triple).present t = .error f := by
  induction triples with
  | nil => cases h
  | cons triple rest ih =>
    rw [presentTriples, Build.addPresent] at h
    cases hp : (c.build root triple).present t with
    | error f' =>
      rw [hp] at h
      obtain rfl := Except.error.inj h
      exact ⟨triple, List.mem_cons_self, hp⟩
    | ok here =>
      cases hrest : c.presentTriples t root rest with
      | error f' =>
        rw [hp, hrest] at h
        obtain rfl := Except.error.inj h
        obtain ⟨s, hs, hfault⟩ := ih hrest
        exact ⟨s, List.mem_cons_of_mem _ hs, hfault⟩
      | ok ts =>
        rw [hp, hrest] at h
        cases h

/-- Triples that can be seen are told apart. -/
theorem presentTriples_of_seen {triples : List String} (h : c.Seen t root triples) :
    c.presentTriples t root triples =
      .ok (triples.filter fun triple => (c.build root triple).isThere t) := by
  cases hpresent : c.presentTriples t root triples with
  | ok present => rw [presentTriples_eq_ok hpresent]
  | error f =>
    obtain ⟨triple, htriple, hfault⟩ := exists_fault_of_presentTriples hpresent
    exact absurd hfault (h.present_ne_error htriple f)

/-- Some triple is there when the list of those that are there is not empty. -/
theorem not_isEmpty_filter_isThere (triples : List String) :
    (!(triples.filter fun triple => (c.build root triple).isThere t).isEmpty) =
      c.hasSome t root triples := by
  rw [Bool.eq_iff_iff, Bool.not_eq_true', ← Bool.not_eq_true, List.isEmpty_iff,
    List.filter_eq_nil_iff, hasSome, List.any_eq_true]
  simp

/-! ### Triples and groups -/

theorem seen_triples_iff :
    c.Seen t root c.triples ↔ ∀ g ∈ c.groups, c.Seen t root g.triples := by
  simp only [Seen, mem_triples_iff]
  constructor
  · exact fun h g hg triple hmem => h triple ⟨g, hg, hmem⟩
  · rintro h triple ⟨g, hg, hmem⟩
    exact h g hg triple hmem

/-- Some triple of the catalog has a binary exactly when some group has one. -/
theorem hasSome_triples_iff :
    c.hasSome t root c.triples = true ↔ ∃ g ∈ c.groups, c.hasSome t root g.triples = true := by
  simp only [hasSome_iff, mem_triples_iff]
  constructor
  · rintro ⟨triple, ⟨g, hg, hmem⟩, hp⟩
    exact ⟨g, hg, triple, hmem, hp⟩
  · rintro ⟨g, hg, triple, hmem, hp⟩
    exact ⟨triple, ⟨g, hg, hmem⟩, hp⟩

end Catalog

end VendorLaunch
