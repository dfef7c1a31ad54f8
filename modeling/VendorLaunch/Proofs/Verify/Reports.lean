import VendorLaunch.Proofs.Verify.Survey

/-!
# Reports of a verification

What a verification can give, by the mode of its selection. In the mode that requires any binary
the report lists the triples that are present and misses nothing (`Catalog.eq_anyReport`). Otherwise
it sorts the required groups (`Catalog.eq_groupReport`), so what it misses are labels of the catalog,
and it is in order when it misses none. A label that no group has is refused together with the
labels there are. Where the triples can be seen there is a report (`Catalog.verify_of_seen`,
`Catalog.verify_any_of_seen`).
-/

namespace VendorLaunch.Catalog

open Logged

variable {c : Catalog} {t : FileTree} {root : Path} {s : Selection} {r : Report}

/-- The report on any binary. -/
theorem verifyAny_eq_ok_iff : (c.verifyAny t root).result = .ok r ↔
    ∃ present, c.presentTriples t root c.triples = .ok present ∧
      r = ⟨!present.isEmpty, .any, root, c.triples, present, []⟩ := by
  unfold verifyAny
  rw [result_bind_eq_ok]
  refine exists_congr fun present => ?_
  rw [result_ofFault_eq_ok, result_note_bind, result_pure, Except.ok.injEq]
  exact and_congr_right fun _ => eq_comm

/-- The report on required groups. -/
theorem verifyGroups_eq_ok_iff : (c.verifyGroups t root s).result = .ok r ↔
    ∃ groups present missing, c.required s = .ok groups ∧
      c.sortGroups t root groups = .ok (present, missing) ∧
      r = ⟨missing.isEmpty, s.mode, root, groups.map Group.label, present, missing⟩ := by
  -- whether something is missing matters for the log and not for the report
  have hnoted : ∀ (p : Prop) [Decidable p] (note : LogRecord) (r : Report),
      (if p then Logged.note note >>= fun _ => pure r else pure r : Logged Report).result =
        .ok r := by
    intro p _ note r
    split
    · rfl
    · rfl
  unfold verifyGroups
  rw [result_bind_eq_ok]
  refine exists_congr fun groups => ?_
  rw [result_ofExcept, result_bind_eq_ok]
  constructor
  · rintro ⟨hrequired, ⟨present, missing⟩, hsort, h⟩
    refine ⟨present, missing, hrequired, result_ofFault_eq_ok.mp hsort, ?_⟩
    exact Except.ok.inj (h.symm.trans (hnoted _ _ _))
  · rintro ⟨present, missing, hrequired, hsort, rfl⟩
    exact ⟨hrequired, (present, missing), result_ofFault_eq_ok.mpr hsort, hnoted _ _ _⟩

/-- What a verification of required groups gives once the groups are known. -/
theorem result_verifyGroups {groups : List Group} (h : c.required s = .ok groups) :
    (c.verifyGroups t root s).result = match c.sortGroups t root groups with
      | .ok (present, missing) =>
        .ok ⟨missing.isEmpty, s.mode, root, groups.map Group.label, present, missing⟩
      | .error f => .error (.fault f) := by
  cases hsort : c.sortGroups t root groups with
  | ok sorted => exact verifyGroups_eq_ok_iff.mpr ⟨groups, sorted.1, sorted.2, h, hsort, rfl⟩
  | error f =>
    unfold verifyGroups
    refine result_bind_eq_error.mpr (Or.inr ⟨groups, h, ?_⟩)
    exact result_bind_eq_error.mpr (Or.inl (result_ofFault_eq_error.mpr ⟨f, hsort, rfl⟩))

theorem verify_of_any (h : s.mode = .any) : c.verify t root s = c.verifyAny t root := by
  rw [verify, h]

theorem verify_of_ne_any (h : s.mode ≠ .any) : c.verify t root s = c.verifyGroups t root s := by
  unfold verify
  split
  · next hany => exact absurd hany h
  · rfl

/-- What is required can be refused before the tree is looked at. -/
theorem verify_of_refused {e : Failure} (hmode : s.mode ≠ .any) (h : c.required s = .error e)
    (t : FileTree) (root : Path) : c.verify t root s = Logged.fail e := by
  rw [verify_of_ne_any hmode]
  unfold verifyGroups
  rw [h]
  rfl

/-- A requirement is refused on account of unknown labels only. -/
theorem required_eq_error {e : Failure} (h : c.required s = .error e) :
    e = .unknownGroup (s.labels.filter fun l => (c.group? l).isNone) c.labels := by
  unfold required at h
  split at h
  · dsimp only at h
    split at h
    · cases h
    · exact (Except.error.inj h).symm
  · cases h

/-- The groups that are required are groups of the catalog, in their order. -/
theorem sublist_of_required {groups : List Group} (h : c.required s = .ok groups) :
    groups.Sublist c.groups := by
  unfold required at h
  split at h
  · dsimp only at h
    split at h
    · obtain rfl := Except.ok.inj h
      exact List.filter_sublist
    · cases h
  · obtain rfl := Except.ok.inj h
    exact List.Sublist.refl _

/-! ### The two reports -/

/-- The report on these groups. -/
def groupReport (c : Catalog) (t : FileTree) (root : Path) (mode : Mode) (groups : List Group) :
    Report where
  ok := (c.missingLabels t root groups).isEmpty
  mode := mode
  vendorRoot := root
  checked := groups.map Group.label
  present := c.presentLabels t root groups
  missing := c.missingLabels t root groups

/-- The report on any binary. -/
def anyReport (c : Catalog) (t : FileTree) (root : Path) : Report where
  ok := c.hasSome t root c.triples
  mode := .any
  vendorRoot := root
  checked := c.triples
  present := c.triples.filter fun triple => (c.build root triple).isThere t
  missing := []

variable {groups : List Group}

/-- The report on groups is in order when each of them has a binary. -/
theorem groupReport_ok_iff {mode : Mode} : (c.groupReport t root mode groups).ok = true ↔
    ∀ g ∈ groups, c.hasSome t root g.triples = true := by
  rw [groupReport, List.isEmpty_iff, missingLabels_eq_nil_iff]

/-- Every report on required groups is the one that the tree gives. -/
theorem eq_groupReport (hmode : s.mode ≠ .any) (h : (c.verify t root s).result = .ok r) :
    ∃ groups, c.required s = .ok groups ∧ r = c.groupReport t root s.mode groups := by
  rw [verify_of_ne_any hmode] at h
  obtain ⟨groups, present, missing, hrequired, hsort, rfl⟩ := verifyGroups_eq_ok_iff.mp h
  obtain ⟨rfl, rfl⟩ := sortGroups_eq_ok hsort
  exact ⟨groups, hrequired, rfl⟩

/-- Where the triples of the required groups can be seen there is a report. -/
theorem verify_of_seen (hmode : s.mode ≠ .any) (hrequired : c.required s = .ok groups)
    (h : ∀ g ∈ groups, c.Seen t root g.triples) :
    (c.verify t root s).result = .ok (c.groupReport t root s.mode groups) := by
  rw [verify_of_ne_any hmode, result_verifyGroups hrequired, sortGroups_of_seen h]
  rfl

/-- Every report on any binary is the one that the tree gives. -/
theorem eq_anyReport (hmode : s.mode = .any) (h : (c.verify t root s).result = .ok r) :
    r = c.anyReport t root := by
  rw [verify_of_any hmode] at h
  obtain ⟨present, hpresent, rfl⟩ := verifyAny_eq_ok_iff.mp h
  obtain rfl := presentTriples_eq_ok hpresent
  rw [not_isEmpty_filter_isThere]
  rfl

/-- Where every triple can be seen there is a report on any binary. -/
theorem verify_any_of_seen (hmode : s.mode = .any) (h : c.Seen t root c.triples) :
    (c.verify t root s).result = .ok (c.anyReport t root) := by
  rw [verify_of_any hmode]
  refine verifyAny_eq_ok_iff.mpr ⟨_, presentTriples_of_seen h, ?_⟩
  rw [not_isEmpty_filter_isThere]
  rfl

/-! ### What a report says -/

end VendorLaunch.Catalog
