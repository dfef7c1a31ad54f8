import VendorLaunch.Proofs.Launch.Planning
import VendorLaunch.Proofs.Paths

/-!
# Places of builds

Where the binary of a triple and its helper executables are expected: below the vendor root, by the
triple and then by names that the catalog gives. Where these are plain names the components of the
root come first, unchanged, and the others after them (`Catalog.binary_eq`, `Catalog.helpers_eq`);
the texts of the paths say the same, however the root is written.

So two triples have no path in common (`Catalog.binary_ne`, `Catalog.helpers_ne`). A tree finds a
binary under its own names at the place of the root, and so for one triple only: for a binary to
serve two, somebody has to put a link in the place of one (`Catalog.exists_link_of_liesAt`).
-/

namespace VendorLaunch

open VendorLaunch.Path

/-- The directory and the file name of the binaries are names. -/
structure Catalog.Plain (c : Catalog) : Prop where
  dir : IsName c.binaryDir
  name : IsName c.binaryName

/-- The binary exists, and its path leads to this location. -/
structure Build.LiesAt (e : Build) (t : FileTree) (place : List String) : Prop where
  present : e.present t = .ok true
  follow : t.follow e.binary.render = .ok (.found place)

/-- A binary that exists lies somewhere. -/
theorem Build.exists_liesAt {e : Build} {t : FileTree} (h : e.present t = .ok true) :
    ∃ place, e.LiesAt t place := by
  obtain ⟨-, n, hstatus, -⟩ := FileTree.leadsTo_eq_true_iff.mp h
  unfold FileTree.status at hstatus
  split at hstatus
  · next place hfollow => exact ⟨place, h, hfollow⟩
  · cases hstatus
  · cases hstatus

namespace Catalog

variable {c : Catalog} {t : FileTree} {root : Path} {triple a b : String} {place : List String}

/-! ### Names -/

/-- The names of the binaries of Windows have an ending of their own. -/
theorem binaryFor_cases (c : Catalog) (triple : String) :
    "windows".toList <:+: triple.toList ∧ c.binaryFor triple = c.binaryName ++ ".exe" ∨
      ¬"windows".toList <:+: triple.toList ∧ c.binaryFor triple = c.binaryName := by
  unfold binaryFor
  by_cases h : Text.contains "windows" triple = true
  · exact Or.inl ⟨Text.contains_iff.mp h, if_pos h⟩
  · exact Or.inr ⟨mt Text.contains_iff.mpr h, if_neg h⟩

theorem isName_exe {name : String} (h : IsName name) : IsName (name ++ ".exe") := by
  have hlength : ∀ short : String, short.length < 4 → name ++ ".exe" ≠ short := by
    rintro short hshort rfl
    rw [String.length_append] at hshort
    have hexe : (".exe" : String).length = 4 := by decide
    omega
  refine ⟨⟨hlength _ (by decide), hlength _ (by decide), fun hslash => ?_⟩, hlength _ (by decide)⟩
  rw [String.toList_append] at hslash
  exact (List.mem_append.mp hslash).elim h.no_slash (by decide)

theorem Plain.isName_binaryFor (h : c.Plain) (triple : String) : IsName (c.binaryFor triple) := by
  rcases binaryFor_cases c triple with ⟨-, hname⟩ | ⟨-, hname⟩
  · exact hname ▸ isName_exe h.name
  · exact hname ▸ h.name

/-! ### Paths -/

theorem binary_eq (h : c.Plain) (root : Path) (htriple : IsName triple) :
    (c.build root triple).binary =
      ⟨root.anchor, root.parts ++ [triple, c.binaryDir, c.binaryFor triple]⟩ := by
  have hexe := h.isName_binaryFor triple
  simp only [build, join_component _ htriple.toIsComponent, join_component _ h.dir.toIsComponent,
    join_component _ hexe.toIsComponent, List.append_assoc, List.cons_append, List.nil_append]

theorem helpers_eq (c : Catalog) (root : Path) (htriple : IsName triple) :
    (c.build root triple).helpers = ⟨root.anchor, root.parts ++ [triple, "path"]⟩ := by
  have hpath : IsComponent "path" := by decide
  simp only [build, join_component _ htriple.toIsComponent, join_component _ hpath,
    List.append_assoc, List.cons_append, List.nil_append]

/-- Below one root the names after the root tell the paths apart. -/
theorem extend_inj {names names' : List String}
    (h : (⟨root.anchor, root.parts ++ names⟩ : Path) = ⟨root.anchor, root.parts ++ names'⟩) :
    names = names' :=
  List.append_cancel_left (congrArg Path.parts h)

theorem binary_ne (h : c.Plain) (root : Path) (ha : IsName a) (hb : IsName b) (hne : a ≠ b) :
    (c.build root a).binary ≠ (c.build root b).binary := by
  rw [binary_eq h root ha, binary_eq h root hb]
  exact fun heq => hne (List.cons.inj (extend_inj heq)).1

theorem helpers_ne (c : Catalog) (root : Path) (ha : IsName a) (hb : IsName b) (hne : a ≠ b) :
    (c.build root a).helpers ≠ (c.build root b).helpers := by
  rw [helpers_eq c root ha, helpers_eq c root hb]
  exact fun heq => hne (List.cons.inj (extend_inj heq)).1

/-! ### Locations -/

/-- Where the binary of a triple is looked for, below the place of the root. -/
def names (c : Catalog) (triple : String) : List String :=
  [triple, c.binaryDir, c.binaryFor triple]

theorem Plain.isName_names (h : c.Plain) (htriple : IsName triple) :
    ∀ s ∈ c.names triple, IsName s := by
  simpa [names] using ⟨htriple, h.dir, h.isName_binaryFor triple⟩

/-- A binary lies under its own names, unless a link is met there. -/
theorem exists_top_of_liesAt (h : c.Plain) (hroot : root.Normal) (ha : IsName a)
    (hlies : (c.build root a).LiesAt t place) :
    ∃ top, t.destination root = .ok (.found top) ∧
      (place = top ++ c.names a ∨ t.MeetsLink top (c.names a)) := by
  have hfollow := hlies.follow
  rw [binary_eq h root ha] at hfollow
  exact FileTree.exists_place_of_follow hroot (List.cons_ne_nil _ _) (h.isName_names ha) hfollow

/-- One binary lies in the places of two triples only where a link is met. -/
theorem exists_link_of_liesAt (h : c.Plain) (hroot : root.Normal) (ha : IsName a) (hb : IsName b)
    (hne : a ≠ b) (hliesA : (c.build root a).LiesAt t place)
    (hliesB : (c.build root b).LiesAt t place) :
    ∃ top, t.destination root = .ok (.found top) ∧
      (t.MeetsLink top (c.names a) ∨ t.MeetsLink top (c.names b)) := by
  obtain ⟨top, htop, rfl | hmeets⟩ := exists_top_of_liesAt h hroot ha hliesA
  · obtain ⟨top', htop', heq | hmeets⟩ := exists_top_of_liesAt h hroot hb hliesB
    · obtain rfl : top = top' := Landing.found.inj (Except.ok.inj (htop.symm.trans htop'))
      exact absurd (List.cons.inj (List.append_cancel_left heq)).1 hne
    · exact ⟨top', htop', Or.inr hmeets⟩
  · exact ⟨top, htop, Or.inl hmeets⟩

/-- The binary of a triple and its helper executables are expected under the components of the root,
the triple and the names of the catalog, the ending being that of the triple's system; their texts
are read to the same components, whatever text the root is given by. Two triples have different
paths. In every tree a binary that exists lies under these names at the place of the root, unless
someone has put a link there, and without one it is the binary of no other triple. -/
theorem places_apart (c : Catalog) (h : c.Plain) :
    (∀ root triple, IsName triple →
      (c.build root triple).binary =
        ⟨root.anchor, root.parts ++ [triple, c.binaryDir, c.binaryFor triple]⟩ ∧
      (c.build root triple).helpers = ⟨root.anchor, root.parts ++ [triple, "path"]⟩) ∧
    (∀ triple, "windows".toList <:+: triple.toList ∧
        c.binaryFor triple = c.binaryName ++ ".exe" ∨
      ¬"windows".toList <:+: triple.toList ∧ c.binaryFor triple = c.binaryName) ∧
    (∀ text triple, IsName triple →
      ofString (c.build (ofString text) triple).binary.render =
        ⟨anchorOf text.toList,
          components text ++ [triple, c.binaryDir, c.binaryFor triple]⟩ ∧
      ofString (c.build (ofString text) triple).helpers.render =
        ⟨anchorOf text.toList, components text ++ [triple, "path"]⟩) ∧
    (∀ root a b, IsName a → IsName b → a ≠ b →
      (c.build root a).binary ≠ (c.build root b).binary ∧
      (c.build root a).helpers ≠ (c.build root b).helpers) ∧
    (∀ t root a, root.Normal → IsName a → (c.build root a).present t = .ok true →
      ∃ place top, (c.build root a).LiesAt t place ∧ t.destination root = .ok (.found top) ∧
        (place = top ++ c.names a ∨ t.MeetsLink top (c.names a))) ∧
    ∀ t root a b place, root.Normal → IsName a → IsName b → a ≠ b →
      (c.build root a).LiesAt t place → (c.build root b).LiesAt t place →
      ∃ top, t.destination root = .ok (.found top) ∧
        (t.MeetsLink top (c.names a) ∨ t.MeetsLink top (c.names b)) := by
  refine ⟨fun root triple ht => ⟨binary_eq h root ht, helpers_eq c root ht⟩, binaryFor_cases c,
    fun text triple ht => ?_, fun root a b ha hb hne =>
      ⟨binary_ne h root ha hb hne, helpers_ne c root ha hb hne⟩,
    fun t root a hroot ha hpresent => ?_, fun t root a b place hroot ha hb hne =>
      exists_link_of_liesAt h hroot ha hb hne⟩
  · have hnormal := normal_ofString text
    have hpath : ∀ s ∈ [triple, "path"], IsName s := by
      simpa using ⟨ht, show IsName "path" by decide⟩
    rw [binary_eq h _ ht, helpers_eq c _ ht]
    exact ⟨ofString_render (hnormal.extend fun s hs => (h.isName_names ht s hs).toIsComponent),
      ofString_render (hnormal.extend fun s hs => (hpath s hs).toIsComponent)⟩
  · obtain ⟨place, hlies⟩ := Build.exists_liesAt hpresent
    obtain ⟨top, htop, hplace⟩ := exists_top_of_liesAt h hroot ha hlies
    exact ⟨place, top, hlies, htop, hplace⟩

/-- The root may be written with dots and slashes to spare; the musl binary that is installed lies
where its names say, and the glibc binary does not lie there. -/
theorem places_apart_muslOnly :
    ofString (packaged.build (ofString "//opt/./x//../vendor/")
      "x86_64-pc-windows-msvc").binary.render =
        ⟨.doubleRoot,
          ["opt", "x", "..", "vendor", "x86_64-pc-windows-msvc", "codex", "codex.exe"]⟩ ∧
    (packaged.build Site.muslOnlyRoot "x86_64-unknown-linux-musl").LiesAt Site.muslOnly.tree
      ["opt", "vendor", "x86_64-unknown-linux-musl", "codex", "codex"] ∧
    ¬(packaged.build Site.muslOnlyRoot "x86_64-unknown-linux-gnu").LiesAt Site.muslOnly.tree
      ["opt", "vendor", "x86_64-unknown-linux-musl", "codex", "codex"] ∧
    (packaged.build Site.muslOnlyRoot "x86_64-unknown-linux-musl").helpers ≠
      (packaged.build Site.muslOnlyRoot "x86_64-unknown-linux-gnu").helpers := by
  obtain ⟨-, -, htexts, hne, hlies, hlink⟩ := places_apart packaged ⟨by decide, by decide⟩
  have hmusl : IsName "x86_64-unknown-linux-musl" := by decide
  have hgnu : IsName "x86_64-unknown-linux-gnu" := by decide
  have hroot : Site.muslOnlyRoot.Normal := by decide
  have hpresent : (packaged.build Site.muslOnlyRoot "x86_64-unknown-linux-musl").present
      Site.muslOnly.tree = .ok true := by
    rw [Site.build_muslOnly]
    exact Site.present_muslOnly
  have htop : Site.muslOnly.tree.destination Site.muslOnlyRoot = .ok (.found ["opt", "vendor"]) :=
    FileTree.walk_of_direct (by rfl)
  have hnone : ∀ place names, ¬Site.muslOnly.tree.MeetsLink place names := fun _ _ =>
    FileTree.not_meetsLink_of_nodes (by simp [Site.muslOnly])
  obtain ⟨place, top, hthere, htop', hplace⟩ := hlies _ _ _ hroot hmusl hpresent
  obtain rfl : ["opt", "vendor"] = top := Landing.found.inj (Except.ok.inj (htop.symm.trans htop'))
  obtain rfl := hplace.resolve_right (hnone _ _)
  have hwindows := (htexts "//opt/./x//../vendor/" "x86_64-pc-windows-msvc" (by decide)).1
  refine ⟨hwindows.trans (by rfl), hthere, fun hthere' => ?_,
    (hne Site.muslOnlyRoot _ _ hmusl hgnu (by decide)).2⟩
  obtain ⟨_, -, hmeets⟩ := hlink _ _ _ _ _ hroot hmusl hgnu (by decide) hthere hthere'
  exact hmeets.elim (hnone _ _) (hnone _ _)

end Catalog

end VendorLaunch
