import VendorLaunch.Proofs.Verify.Requested

/-!
# What stands at the place of a binary

A verification asks of the place of a binary whether something exists there, and not what it is. In
a tree in which each location stands in a directory, as in every file system, this is a regular file
or a directory once all links are followed. So a report is in order exactly when every checked group
has a triple with one of the two at its place (`Catalog.verify_stands`); where no directory stands
at such a place every checked group has a regular file. A directory there, as an archive leaves it
that is unpacked one level too deep, satisfies its group (`Catalog.not_forall_verified_hasFile`).
-/

namespace VendorLaunch

namespace Build

variable {e : Build} {t : FileTree}

/-- The place of the binary leads to a regular file, links followed. -/
def HasFile (e : Build) (t : FileTree) : Prop := t.isFile e.binary = .ok true

/-- The place of the binary leads to a directory, links followed. -/
def HasDirectory (e : Build) (t : FileTree) : Prop := t.isDirectory e.binary = .ok true

/-- A binary exists when a regular file or a directory is at its place. -/
theorem present_iff (ht : t.Closed) : e.present t = .ok true ↔ e.HasFile t ∨ e.HasDirectory t :=
  ht.pathExists_iff

theorem not_hasFile_of_glance
    (h : t.glance (fun n => match n with
      | .file _ => true
      | _ => false) e.binary = some false) : ¬e.HasFile t := by
  have hno : t.isFile e.binary = .ok false := FileTree.leadsTo_of_glance h
  intro hfile
  rw [HasFile, hno] at hfile
  cases hfile

theorem not_hasDirectory_of_glance
    (h : t.glance (fun n => n == .directory) e.binary = some false) : ¬e.HasDirectory t := by
  have hno : t.isDirectory e.binary = .ok false := FileTree.leadsTo_of_glance h
  intro hdir
  rw [HasDirectory, hno] at hdir
  cases hdir

end Build

namespace Catalog

variable {c : Catalog} {t : FileTree} {root : Path} {s : Selection} {r : Report}

/-- Of the triples one has a binary when a regular file or a directory is at its place. -/
theorem hasSome_iff_stands (ht : t.Closed) {triples : List String} :
    c.hasSome t root triples = true ↔
      ∃ triple ∈ triples, (c.build root triple).HasFile t ∨ (c.build root triple).HasDirectory t := by
  simp only [hasSome_iff, Build.present_iff ht]

/-- The required groups are those whose labels are checked. -/
theorem mem_required_iff {groups : List Group} (h : c.required s = .ok groups) {g : Group} :
    g ∈ groups ↔ g ∈ c.groups ∧ g.label ∈ groups.map Group.label := by
  constructor
  · exact fun hg => ⟨(sublist_of_required h).subset hg, List.mem_map_of_mem hg⟩
  · rintro ⟨hg, hlabel⟩
    unfold required at h
    split at h
    · dsimp only at h
      split at h
      · obtain rfl := Except.ok.inj h
        obtain ⟨g', hg', heq⟩ := List.mem_map.mp hlabel
        exact List.mem_filter.mpr ⟨hg, heq ▸ (List.mem_filter.mp hg').2⟩
      · cases h
    · obtain rfl := Except.ok.inj h
      exact hg

/-- A report on groups is in order when each checked group has a binary. -/
theorem ok_iff_of_verify (hmode : s.mode ≠ .any) (h : (c.verify t root s).result = .ok r) :
    r.ok = true ↔
      ∀ g ∈ c.groups, g.label ∈ r.checked → c.hasSome t root g.triples = true := by
  obtain ⟨groups, hrequired, rfl⟩ := eq_groupReport hmode h
  rw [groupReport_ok_iff]
  constructor
  · exact fun hall g hg hlabel => hall g ((mem_required_iff hrequired).mpr ⟨hg, hlabel⟩)
  · intro hall g hg
    obtain ⟨hmem, hlabel⟩ := (mem_required_iff hrequired).mp hg
    exact hall g hmem hlabel

/-- A report is in order exactly when each checked group, or for any binary the catalog, has a
triple at whose place a regular file or a directory stands. Where no directory stands at such a
place, a report that is in order means a regular file for each checked group, or for any binary one
regular file. -/
theorem verify_stands (c : Catalog) (root : Path) (s : Selection) (ht : t.Closed)
    (h : (c.verify t root s).result = .ok r) :
    (s.mode ≠ .any → (r.ok = true ↔ ∀ g ∈ c.groups, g.label ∈ r.checked → ∃ triple ∈ g.triples,
      (c.build root triple).HasFile t ∨ (c.build root triple).HasDirectory t)) ∧
    (s.mode = .any → (r.ok = true ↔ ∃ g ∈ c.groups, ∃ triple ∈ g.triples,
      (c.build root triple).HasFile t ∨ (c.build root triple).HasDirectory t)) ∧
    ((∀ g ∈ c.groups, ∀ triple ∈ g.triples, ¬(c.build root triple).HasDirectory t) →
      r.ok = true →
      (s.mode ≠ .any → ∀ g ∈ c.groups, g.label ∈ r.checked → ∃ triple ∈ g.triples,
        (c.build root triple).HasFile t) ∧
      (s.mode = .any → ∃ g ∈ c.groups, ∃ triple ∈ g.triples, (c.build root triple).HasFile t)) := by
  have hgroups : s.mode ≠ .any → (r.ok = true ↔ ∀ g ∈ c.groups, g.label ∈ r.checked →
      ∃ triple ∈ g.triples,
        (c.build root triple).HasFile t ∨ (c.build root triple).HasDirectory t) := by
    intro hmode
    simp only [ok_iff_of_verify hmode h, hasSome_iff_stands ht]
  have hany : s.mode = .any → (r.ok = true ↔ ∃ g ∈ c.groups, ∃ triple ∈ g.triples,
      (c.build root triple).HasFile t ∨ (c.build root triple).HasDirectory t) := by
    intro hmode
    obtain rfl := eq_anyReport hmode h
    refine hasSome_triples_iff.trans ?_
    simp only [hasSome_iff_stands ht]
  refine ⟨hgroups, hany, fun hclear hok => ⟨fun hmode g hg hlabel => ?_, fun hmode => ?_⟩⟩
  · obtain ⟨triple, hmem, hstands⟩ := (hgroups hmode).mp hok g hg hlabel
    exact ⟨triple, hmem, hstands.resolve_right (hclear g hg triple hmem)⟩
  · obtain ⟨g, hg, triple, hmem, hstands⟩ := (hany hmode).mp hok
    exact ⟨g, hg, triple, hmem, hstands.resolve_right (hclear g hg triple hmem)⟩

/-- A report on the whole tree that is in order means a regular file for the requested group. -/
theorem verify_stands_twins :
    ∃ triple ∈ ["aarch64-apple-darwin"], (twins.build wholeRoot triple).HasFile wholeTree := by
  have hclosed : wholeTree.Closed := by decide
  have hglance : ∀ triple ∈ twins.triples, wholeTree.glance (fun n => n == .directory)
      (twins.build wholeRoot triple).binary = some false := by decide +kernel
  have hclear : ∀ g ∈ twins.groups, ∀ triple ∈ g.triples,
      ¬(twins.build wholeRoot triple).HasDirectory wholeTree := fun g hg triple hmem =>
    Build.not_hasDirectory_of_glance (hglance triple (mem_triples_iff.mpr ⟨g, hg, hmem⟩))
  obtain ⟨r, hverify, hok, hchecked⟩ := verify_twins_mac
  obtain ⟨-, -, h⟩ := verify_stands twins wholeRoot _ hclosed hverify
  exact (h hclear hok).1 nofun ⟨"mac", ["aarch64-apple-darwin"]⟩ (by decide)
    (hchecked ▸ List.mem_cons_self)

/-- A tree with a directory at the place of the musl binary. -/
def nestedTree : FileTree where
  current := []
  nodes := [(["v"], .directory), (["v", "x86_64-unknown-linux-musl"], .directory),
    (["v", "x86_64-unknown-linux-musl", "codex"], .directory),
    (["v", "x86_64-unknown-linux-musl", "codex", "codex"], .directory)]

/-- The vendor root of the tree. -/
def nestedRoot : Path := ⟨.here, ["v"]⟩

/-- The group of the packaged catalog that has the directory at one of its places. -/
def nestedGroup : Group :=
  ⟨"linux-x64", ["x86_64-unknown-linux-musl", "x86_64-unknown-linux-gnu"]⟩

/-- A directory at the place of a binary satisfies its group: there is no regular file, and the
report is in order. -/
theorem not_forall_verified_hasFile :
    ¬∀ (c : Catalog) (t : FileTree) (root : Path) (s : Selection) (r : Report), t.Closed →
      (c.verify t root s).result = .ok r → r.ok = true →
      (s.mode ≠ .any → ∀ g ∈ c.groups, g.label ∈ r.checked → ∃ triple ∈ g.triples,
        (c.build root triple).HasFile t) ∧
      (s.mode = .any → ∃ g ∈ c.groups, ∃ triple ∈ g.triples, (c.build root triple).HasFile t) := by
  intro hall
  have hglance : ∀ triple ∈ nestedGroup.triples,
      nestedTree.glance (fun _ => true) (packaged.build nestedRoot triple).binary =
        some (triple == "x86_64-unknown-linux-musl") ∧
      nestedTree.glance (fun n => match n with
        | .file _ => true
        | _ => false) (packaged.build nestedRoot triple).binary = some false := by decide +kernel
  have hpresent := fun triple hmem => Build.present_of_glance (hglance triple hmem).1
  have hnoFile := fun triple hmem => Build.not_hasFile_of_glance (hglance triple hmem).2
  -- the request for the label of the group is answered
  have hgroups : packaged.groupsOf ["linux-x64"] = [nestedGroup] := by decide
  have hrequired : packaged.required ⟨.override, ["linux-x64"]⟩ = .ok [nestedGroup] :=
    hgroups ▸ required_of_known (by decide)
  have hseen : ∀ g ∈ [nestedGroup], packaged.Seen nestedTree nestedRoot g.triples :=
    List.forall_mem_singleton.mpr fun triple hmem => ⟨_, hpresent triple hmem⟩
  have hverify := verify_of_seen (s := ⟨.override, ["linux-x64"]⟩) nofun hrequired hseen
  have hok : (packaged.groupReport nestedTree nestedRoot .override [nestedGroup]).ok = true := by
    refine groupReport_ok_iff.mpr (List.forall_mem_singleton.mpr (hasSome_iff.mpr ?_))
    exact ⟨_, List.mem_cons_self, hpresent _ List.mem_cons_self⟩
  -- and the places of the group hold no file
  obtain ⟨hfiles, -⟩ := hall packaged nestedTree nestedRoot _ _ (by decide) hverify hok
  obtain ⟨triple, hmem, hfile⟩ := hfiles nofun nestedGroup List.mem_cons_self List.mem_cons_self
  exact hnoFile triple hmem hfile

end Catalog

end VendorLaunch
