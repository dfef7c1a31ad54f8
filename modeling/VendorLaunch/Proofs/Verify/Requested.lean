import VendorLaunch.Proofs.Verify.Launchable
import VendorLaunch.Proofs.Verify.Reports

/-!
# Requested labels

A request for labels is taken group by group: a label is recognised when some group has it, and
what is checked are all groups whose label was requested, in the order of the catalog. Labels may
occur more than once on either side. A request with a label that no group has is refused with
exactly these labels, and the tree plays no part in that (`Catalog.verify_of_unknown`). Any other
request is answered by a report on the requested groups (`Report.Answers`), unless a look at one of
them fails.

The answer depends on the set of the requested labels alone, and the request for all labels is
answered as the default is (`Catalog.verify_requested`).
-/

namespace VendorLaunch

/-! ### Merging -/

/-- The third list consists of the first two, each in its order. -/
inductive IsMerge {α : Type} : List α → List α → List α → Prop where
  | nil : IsMerge [] [] []
  /-- The next element comes from the first list. -/
  | left {x : α} {xs ys zs : List α} : IsMerge xs ys zs → IsMerge (x :: xs) ys (x :: zs)
  /-- The next element comes from the second list. -/
  | right {y : α} {xs ys zs : List α} : IsMerge xs ys zs → IsMerge xs (y :: ys) (y :: zs)

/-- What has a property and what has it not make up a list together. -/
theorem isMerge_map_filter {α β : Type} (f : α → β) (p : α → Bool) (as : List α) :
    IsMerge ((as.filter p).map f) ((as.filter fun a => !p a).map f) (as.map f) := by
  induction as with
  | nil => exact .nil
  | cons a as ih =>
    rw [List.filter_cons, List.filter_cons, List.map_cons]
    cases p a with
    | true => exact ih.left
    | false => exact ih.right

namespace Catalog

variable {c : Catalog} {t : FileTree} {root : Path} {requested : List String}

/-! ### Recognition -/

/-- The groups whose label was requested. -/
def groupsOf (c : Catalog) (requested : List String) : List Group :=
  c.groups.filter fun g => requested.contains g.label

theorem mem_groupsOf_iff {g : Group} :
    g ∈ c.groupsOf requested ↔ g ∈ c.groups ∧ g.label ∈ requested := by
  rw [groupsOf, List.mem_filter, List.contains_iff_mem]

/-- A label is not found exactly when no group has it. -/
theorem group?_isNone_iff {label : String} : (c.group? label).isNone = true ↔ label ∉ c.labels := by
  rw [Option.isNone_iff_eq_none, group?, List.find?_eq_none, labels, List.mem_map]
  constructor
  · rintro h ⟨g, hg, rfl⟩
    exact h g hg (beq_self_eq_true g.label)
  · intro h g hg heq
    exact h ⟨g, hg, eq_of_beq heq⟩

/-- The requested labels that no group has. -/
def unknownLabels (c : Catalog) (requested : List String) : List String :=
  requested.filter (· ∉ c.labels)

theorem unknownLabels_eq :
    requested.filter (fun label => (c.group? label).isNone) = c.unknownLabels requested := by
  refine List.filter_congr fun label _ => ?_
  rw [Bool.eq_iff_iff, group?_isNone_iff, decide_eq_true_iff]

theorem unknownLabels_eq_nil_iff :
    c.unknownLabels requested = [] ↔ ∀ label ∈ requested, label ∈ c.labels := by
  simp [unknownLabels, List.filter_eq_nil_iff]

theorem known_or_unknown (c : Catalog) (requested : List String) :
    (∀ label ∈ requested, label ∈ c.labels) ∨ ∃ label ∈ requested, label ∉ c.labels := by
  by_cases h : ∃ label ∈ requested, label ∉ c.labels
  · exact Or.inr h
  · exact Or.inl fun label hl => Classical.byContradiction fun hn => h ⟨label, hl, hn⟩

theorem required_of_known (h : ∀ label ∈ requested, label ∈ c.labels) :
    c.required ⟨.override, requested⟩ = .ok (c.groupsOf requested) := by
  unfold required
  dsimp only
  rw [unknownLabels_eq, unknownLabels_eq_nil_iff.mpr h]
  rfl

theorem required_of_unknown (h : ∃ label ∈ requested, label ∉ c.labels) :
    c.required ⟨.override, requested⟩ =
      .error (.unknownGroup (c.unknownLabels requested) c.labels) := by
  have hne : c.unknownLabels requested ≠ [] := by
    obtain ⟨label, hmem, hunknown⟩ := h
    exact fun hnil => hunknown (unknownLabels_eq_nil_iff.mp hnil label hmem)
  unfold required
  dsimp only
  rw [unknownLabels_eq, if_neg (mt List.isEmpty_iff.mp hne)]

/-- A request with labels that no group has is refused whatever the tree. -/
theorem verify_of_unknown (h : ∃ label ∈ requested, label ∉ c.labels) (t : FileTree) (root : Path) :
    c.verify t root ⟨.override, requested⟩ =
      Logged.fail (.unknownGroup (c.unknownLabels requested) c.labels) :=
  verify_of_refused (s := ⟨.override, requested⟩) nofun (required_of_unknown h) t root

/-- What a request for labels that groups have leads to. -/
theorem result_verify_of_known (h : ∀ label ∈ requested, label ∈ c.labels) :
    (c.verify t root ⟨.override, requested⟩).result =
      match c.sortGroups t root (c.groupsOf requested) with
      | .ok (present, missing) =>
        .ok ⟨missing.isEmpty, .override, root, (c.groupsOf requested).map Group.label, present,
          missing⟩
      | .error f => .error (.fault f) :=
  result_verifyGroups (required_of_known h)

/-- Only a request with labels that no group has is refused. -/
theorem unknown_of_refused {unknown valid : List String}
    (h : (c.verify t root ⟨.override, requested⟩).result = .error (.unknownGroup unknown valid)) :
    ∃ label ∈ requested, label ∉ c.labels := by
  rcases c.known_or_unknown requested with hknown | hunknown
  · rw [result_verify_of_known hknown] at h
    split at h
    · cases h
    · cases h
  · exact hunknown

/-! ### Other requests for the same labels -/

/-- The same labels in another order or number select the same groups. -/
theorem groupsOf_congr {requested' : List String}
    (h : ∀ label, label ∈ requested' ↔ label ∈ requested) :
    c.groupsOf requested' = c.groupsOf requested := by
  refine List.filter_congr fun g _ => ?_
  rw [Bool.eq_iff_iff, List.contains_iff_mem, List.contains_iff_mem, h]

/-- All labels select all groups. -/
theorem groupsOf_labels (h : ∀ label, label ∈ requested ↔ label ∈ c.labels) :
    c.groupsOf requested = c.groups := by
  refine List.filter_eq_self.mpr fun g hg => List.contains_iff_mem.mpr ((h g.label).mpr ?_)
  exact List.mem_map_of_mem hg

/-- A report on requested labels does not depend on their order or number. -/
theorem verify_congr {requested' : List String}
    (h : ∀ label, label ∈ requested' ↔ label ∈ requested) {r : Report}
    (hr : (c.verify t root ⟨.override, requested⟩).result = .ok r) :
    (c.verify t root ⟨.override, requested'⟩).result = .ok r := by
  rcases c.known_or_unknown requested with hknown | hunknown
  · rw [result_verify_of_known fun label hl => hknown label ((h label).mp hl), groupsOf_congr h,
      ← result_verify_of_known hknown]
    exact hr
  · rw [verify_of_unknown hunknown] at hr
    cases hr

/-- The request for all labels is answered as the default is. -/
theorem verify_labels (h : ∀ label, label ∈ requested ↔ label ∈ c.labels) :
    (c.verify t root ⟨.override, requested⟩).result =
      (c.verify t root .everything).result.map fun r => { r with mode := .override } := by
  have hrequired : c.required .everything = .ok c.groups := rfl
  have hdefault : (c.verify t root .everything).result = _ := result_verifyGroups hrequired
  rw [result_verify_of_known fun label hl => (h label).mp hl, groupsOf_labels h, hdefault]
  cases c.sortGroups t root c.groups with
  | ok sorted => rfl
  | error f => rfl

end Catalog

/-! ### Answers -/

/-- What a report says in answer to a request for labels. -/
structure Report.Answers (r : Report) (c : Catalog) (t : FileTree) (root : Path)
    (requested : List String) : Prop where
  mode_eq : r.mode = .override
  vendorRoot_eq : r.vendorRoot = root
  /-- Checked are the groups whose label was requested, in the order of the catalog. -/
  checked_eq : r.checked = (c.groupsOf requested).map Group.label
  /-- Every requested label is checked, and nothing else is. -/
  mem_checked_iff : ∀ label, label ∈ r.checked ↔ label ∈ requested
  /-- Each checked label is either present or missing. -/
  merge : IsMerge r.present r.missing r.checked
  /-- Present are the groups of which at least one triple has a binary. -/
  present_eq : r.present =
    ((c.groupsOf requested).filter fun g => c.hasSome t root g.triples).map Group.label
  /-- Missing are the others. -/
  missing_eq : r.missing =
    ((c.groupsOf requested).filter fun g => !c.hasSome t root g.triples).map Group.label
  ok_iff : r.ok = true ↔ r.missing = []

namespace Catalog

variable {c : Catalog} {t : FileTree} {root : Path} {requested : List String}

/-- The report on the requested groups is an answer. -/
theorem answers_groupReport (h : ∀ label ∈ requested, label ∈ c.labels) :
    (c.groupReport t root .override (c.groupsOf requested)).Answers c t root requested := by
  refine ⟨rfl, rfl, rfl, fun label => ?_, isMerge_map_filter Group.label _ _, rfl, rfl,
    List.isEmpty_iff⟩
  rw [groupReport, List.mem_map]
  constructor
  · rintro ⟨g, hg, rfl⟩
    exact (mem_groupsOf_iff.mp hg).2
  · intro hl
    obtain ⟨g, hg, rfl⟩ := List.mem_map.mp (h label hl)
    exact ⟨g, mem_groupsOf_iff.mpr ⟨hg, hl⟩, rfl⟩

/-- A request for labels is refused exactly when some of them are no group's, with these in the
order and number in which they were requested and with the labels there are; the tree and the root
play no part in that. Any other request is answered, unless a look at a triple of a requested group
fails. The same labels in another order or number have the same report, and all labels have the
report of the default but for the mode. -/
theorem verify_requested (c : Catalog) (t : FileTree) (root : Path) (requested : List String) :
    ((∃ unknown valid, (c.verify t root ⟨.override, requested⟩).result =
        .error (.unknownGroup unknown valid)) ↔ ∃ label ∈ requested, label ∉ c.labels) ∧
    (∀ unknown valid, (c.verify t root ⟨.override, requested⟩).result =
        .error (.unknownGroup unknown valid) →
      unknown = requested.filter (· ∉ c.labels) ∧ valid = c.labels ∧
        ∀ t' root', c.verify t' root' ⟨.override, requested⟩ =
          c.verify t root ⟨.override, requested⟩) ∧
    ((∀ label ∈ requested, label ∈ c.labels) →
      (∃ r, (c.verify t root ⟨.override, requested⟩).result = .ok r ∧
        r.Answers c t root requested) ∨
      ∃ g ∈ c.groups, g.label ∈ requested ∧ ∃ triple ∈ g.triples, ∃ f,
        (c.build root triple).present t = .error f ∧
        (c.verify t root ⟨.override, requested⟩).result = .error (.fault f)) ∧
    (∀ requested', (∀ label, label ∈ requested' ↔ label ∈ requested) → ∀ r,
      (c.verify t root ⟨.override, requested'⟩).result = .ok r ↔
        (c.verify t root ⟨.override, requested⟩).result = .ok r) ∧
    ((∀ label, label ∈ requested ↔ label ∈ c.labels) →
      (c.verify t root ⟨.override, requested⟩).result =
        (c.verify t root .everything).result.map fun r => { r with mode := .override }) := by
  refine ⟨⟨?_, fun h => ?_⟩, fun unknown valid h => ?_, fun h => ?_, fun requested' h r => ?_,
    verify_labels⟩
  · rintro ⟨unknown, valid, h⟩
    exact unknown_of_refused h
  · exact ⟨_, _, by rw [verify_of_unknown h]; rfl⟩
  · have hunknown := unknown_of_refused h
    rw [verify_of_unknown hunknown] at h
    obtain ⟨rfl, rfl⟩ := Failure.unknownGroup.inj (Except.error.inj h)
    exact ⟨rfl, rfl, fun t' root' => by
      rw [verify_of_unknown hunknown, verify_of_unknown hunknown]⟩
  · rw [result_verify_of_known h]
    cases hsort : c.sortGroups t root (c.groupsOf requested) with
    | ok sorted =>
      obtain ⟨present, missing⟩ := sorted
      obtain ⟨rfl, rfl⟩ := sortGroups_eq_ok hsort
      exact Or.inl ⟨_, rfl, answers_groupReport h⟩
    | error f =>
      obtain ⟨g, hg, triple, htriple, hfault⟩ := exists_fault_of_sortGroups hsort
      obtain ⟨hmem, hlabel⟩ := mem_groupsOf_iff.mp hg
      exact Or.inr ⟨g, hmem, hlabel, triple, htriple, f, hfault, rfl⟩
  · exact ⟨verify_congr fun label => (h label).symm, verify_congr h⟩

/-- A catalog with two groups of one label, which share a triple. -/
def twins : Catalog :=
  { packaged with
    groups := [⟨"linux", ["x86_64-unknown-linux-gnu", "x86_64-unknown-linux-musl"]⟩,
      ⟨"mac", ["aarch64-apple-darwin"]⟩,
      ⟨"linux", ["aarch64-unknown-linux-gnu", "x86_64-unknown-linux-gnu"]⟩] }

/-- In the whole tree the first of the two groups has a binary and the second one has none. -/
theorem present_twins : ∀ triple ∈ twins.triples, (twins.build wholeRoot triple).present wholeTree =
    .ok (["x86_64-unknown-linux-musl", "aarch64-apple-darwin"].contains triple) := by
  have hglance : ∀ triple ∈ twins.triples, wholeTree.glance (fun _ => true)
      (twins.build wholeRoot triple).binary =
        some (["x86_64-unknown-linux-musl", "aarch64-apple-darwin"].contains triple) := by
    decide +kernel
  exact fun triple hmem => Build.present_of_glance (hglance triple hmem)

/-- The group with the one Mac triple passes its verification. -/
theorem verify_twins_mac :
    ∃ r, (twins.verify wholeTree wholeRoot ⟨.override, ["mac"]⟩).result = .ok r ∧ r.ok = true ∧
      r.checked = ["mac"] := by
  have hgroups : twins.groupsOf ["mac"] = [⟨"mac", ["aarch64-apple-darwin"]⟩] := by decide
  have hrequired : twins.required ⟨.override, ["mac"]⟩ =
      .ok [⟨"mac", ["aarch64-apple-darwin"]⟩] := hgroups ▸ required_of_known (by decide)
  have hmac := present_twins "aarch64-apple-darwin" (by decide)
  have hseen : twins.Seen wholeTree wholeRoot ["aarch64-apple-darwin"] :=
    List.forall_mem_singleton.mpr ⟨_, hmac⟩
  refine ⟨_, verify_of_seen (s := ⟨.override, ["mac"]⟩) nofun hrequired
    (List.forall_mem_singleton.mpr hseen), ?_, rfl⟩
  refine groupReport_ok_iff.mpr (List.forall_mem_singleton.mpr (hasSome_iff.mpr ?_))
  exact ⟨_, List.mem_cons_self, hmac⟩

/-- Requested twice, the label of two groups is checked once for each of them. -/
theorem verify_requested_twins :
    ∃ r, (twins.verify wholeTree wholeRoot ⟨.override, ["linux", "linux"]⟩).result = .ok r ∧
      r.checked = ["linux", "linux"] ∧ r.present = ["linux"] ∧ r.missing = ["linux"] ∧
      r.ok = false := by
  obtain ⟨-, -, hanswer, -, -⟩ := verify_requested twins wholeTree wholeRoot ["linux", "linux"]
  have hgnu := Build.isThere_of_present (present_twins "x86_64-unknown-linux-gnu" (by decide))
  have hmusl := Build.isThere_of_present (present_twins "x86_64-unknown-linux-musl" (by decide))
  have harm := Build.isThere_of_present (present_twins "aarch64-unknown-linux-gnu" (by decide))
  have hgroups : twins.groupsOf ["linux", "linux"] =
      [⟨"linux", ["x86_64-unknown-linux-gnu", "x86_64-unknown-linux-musl"]⟩,
        ⟨"linux", ["aarch64-unknown-linux-gnu", "x86_64-unknown-linux-gnu"]⟩] := by decide
  rcases hanswer (by decide) with ⟨r, hr, h⟩ | ⟨g, hg, -, triple, htriple, f, hfault, -⟩
  · have hmissing := h.missing_eq
    have hpresent := h.present_eq
    rw [hgroups] at hmissing hpresent
    simp only [hasSome, List.any_cons, List.any_nil, List.filter_cons, List.filter_nil, hgnu, hmusl,
      harm] at hmissing hpresent
    refine ⟨r, hr, h.checked_eq.trans (by rw [hgroups]; rfl), hpresent, hmissing, ?_⟩
    rw [← Bool.not_eq_true, h.ok_iff, hmissing]
    exact List.cons_ne_nil _ _
  · rw [present_twins triple (mem_triples_iff.mpr ⟨g, hg, htriple⟩)] at hfault
    cases hfault

end Catalog

end VendorLaunch
