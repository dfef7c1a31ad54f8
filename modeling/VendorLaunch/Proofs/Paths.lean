import VendorLaunch.Proofs.Files
import VendorLaunch.Proofs.Pieces

/-!
# Paths and their texts

A path that was read from a text has components only: names that are not empty, are no dot and have
no slash in them (`Path.normal_ofString`). Such a path is read again from its own text, slashes at
the front included (`Path.ofString_render`), so different paths have different texts. Continuing a
path by a component adds it at the end (`Path.join_component`).

A tree is asked about the text of a path. It takes the components one after the other, from the
current directory or from the root (`FileTree.follow_render`). Continued by some names a path leads
straight down from where it leads itself, unless a link is met there
(`FileTree.exists_place_of_follow`).
-/

namespace VendorLaunch

namespace Path

open Text

/-! ### Components -/

/-- A name on a path: neither empty nor a dot, and without a slash. -/
structure IsComponent (s : String) : Prop where
  ne_empty : s ≠ ""
  ne_dot : s ≠ "."
  no_slash : '/' ∉ s.toList

instance : DecidablePred IsComponent := fun s =>
  decidable_of_iff (s ≠ "" ∧ s ≠ "." ∧ '/' ∉ s.toList)
    ⟨fun h => ⟨h.1, h.2.1, h.2.2⟩, fun h => ⟨h.ne_empty, h.ne_dot, h.no_slash⟩⟩

/-- A component that stands for itself and not for the directory above. -/
structure IsName (s : String) : Prop extends IsComponent s where
  ne_up : s ≠ ".."

instance : DecidablePred IsName := fun s =>
  decidable_of_iff (IsComponent s ∧ s ≠ "..")
    ⟨fun h => ⟨h.1, h.2⟩, fun h => ⟨h.toIsComponent, h.ne_up⟩⟩

/-- The parts of the path are components, as are those of every path that was read from a text. -/
def Normal (p : Path) : Prop := ∀ s ∈ p.parts, IsComponent s

instance : DecidablePred Normal := fun p =>
  inferInstanceAs (Decidable (∀ s ∈ p.parts, IsComponent s))

variable {p : Path} {s : String} {names : List String}

theorem slash_toList : ("/" : String).toList = ['/'] := by decide

/-- What is read from a text has components only. -/
theorem normal_ofString (text : String) : (ofString text).Normal := by
  intro s hs
  obtain ⟨hmem, hkept⟩ := List.mem_filter.mp hs
  have hkept : s ≠ "" ∧ s ≠ "." := by simpa using hkept
  exact ⟨hkept.1, hkept.2, notMem_of_mem_splitOn slash_toList hmem⟩

theorem IsComponent.ofString (h : IsComponent s) : ofString s = ⟨.here, [s]⟩ := by
  have hanchor : anchorOf s.toList = .here := by
    cases hs : s.toList with
    | nil => rfl
    | cons c cs =>
      have hc : c ≠ '/' := fun heq => h.no_slash (hs ▸ heq ▸ List.mem_cons_self)
      rw [anchorOf, List.takeWhile_cons_of_neg (by simpa using hc)]
      rfl
  have hparts : components s = [s] := by
    rw [components, splitOn_of_notMem slash_toList h.no_slash]
    exact List.filter_cons_of_pos (by simp [h.ne_empty, h.ne_dot])
  rw [Path.ofString, hanchor, hparts]

/-- A component is added at the end. -/
theorem join_component (p : Path) (h : IsComponent s) : p.join s = ⟨p.anchor, p.parts ++ [s]⟩ := by
  rw [join, h.ofString]
  rfl

theorem Normal.extend (h : p.Normal) (hnames : ∀ s ∈ names, IsComponent s) :
    (⟨p.anchor, p.parts ++ names⟩ : Path).Normal :=
  List.forall_mem_append.mpr ⟨h, hnames⟩

/-! ### Texts -/

/-- Components that are joined begin with no slash. -/
theorem exists_toList_joinWith (h : ∀ s ∈ names, IsComponent s) (hne : names ≠ []) :
    ∃ c cs, c ≠ '/' ∧ (joinWith "/" names).toList = c :: cs := by
  obtain ⟨s, rest, rfl⟩ := List.exists_cons_of_ne_nil hne
  obtain ⟨hs, -⟩ := List.forall_mem_cons.mp h
  obtain ⟨c, t, hct⟩ := List.exists_cons_of_ne_nil (mt String.toList_eq_nil_iff.mp hs.ne_empty)
  have hc : c ≠ '/' := fun heq => hs.no_slash (hct ▸ heq ▸ List.mem_cons_self)
  rw [joinWith, String.toList_ofList]
  cases rest with
  | nil => exact ⟨c, t, hc, hct⟩
  | cons r rest =>
    rw [List.map_cons, List.map_cons, joinChars, hct, List.append_assoc, List.cons_append]
    exact ⟨c, _, hc, rfl⟩

theorem Normal.render_eq (h : p.Normal) (hne : p.parts ≠ []) :
    p.render = anchorText p.anchor ++ joinWith "/" p.parts := by
  obtain ⟨c, cs, -, hjoin⟩ := exists_toList_joinWith h hne
  refine if_neg fun hempty => ?_
  have hchars := String.toList_eq_nil_iff.mpr hempty
  rw [String.toList_append, hjoin] at hchars
  exact List.cons_ne_nil c cs (List.append_eq_nil_iff.mp hchars).2

/-- The empty names that stand on a text before its components. -/
def lead : Anchor → List String
  | .here => []
  | .root => [""]
  | .doubleRoot => ["", ""]

theorem splitOn_slash_append (s : String) : splitOn "/" ("/" ++ s) = "" :: splitOn "/" s := by
  have hcut : splitChars ['/'] ('/' :: s.toList) = [] :: splitChars ['/'] s.toList := by
    rw [splitChars_cons, if_pos rfl]
  rw [splitOn, splitOn, String.toList_append, slash_toList, List.singleton_append, hcut]
  rfl

/-- The text of a path is cut into its components, after one empty name for each slash that it
begins with. -/
theorem Normal.splitOn_render (h : p.Normal) (hne : p.parts ≠ []) :
    splitOn "/" p.render = lead p.anchor ++ p.parts := by
  have hparts : splitOn "/" (joinWith "/" p.parts) = p.parts :=
    splitOn_joinWith slash_toList hne fun s hs => (h s hs).no_slash
  rw [h.render_eq hne]
  cases p.anchor with
  | here => rw [anchorText, String.empty_append, hparts, lead, List.nil_append]
  | root => rw [anchorText, splitOn_slash_append, hparts]; rfl
  | doubleRoot =>
    have htwo : ("//" : String) = "/" ++ "/" := by decide
    rw [anchorText, htwo, String.append_assoc, splitOn_slash_append, splitOn_slash_append, hparts]
    rfl

theorem Normal.components_render (h : p.Normal) (hne : p.parts ≠ []) :
    components p.render = p.parts := by
  have hlead : ∀ a : Anchor, (lead a).filter (fun s => s ≠ "" && s ≠ ".") = [] := by
    intro a
    cases a <;> rfl
  have hkept : p.parts.filter (fun s => s ≠ "" && s ≠ ".") = p.parts :=
    List.filter_eq_self.mpr fun s hs => by simp [(h s hs).ne_empty, (h s hs).ne_dot]
  rw [components, h.splitOn_render hne, List.filter_append, hlead, hkept, List.nil_append]

theorem Normal.anchorOf_render (h : p.Normal) (hne : p.parts ≠ []) :
    anchorOf p.render.toList = p.anchor := by
  obtain ⟨c, cs, hc, hjoin⟩ := exists_toList_joinWith h hne
  rw [h.render_eq hne, String.toList_append, hjoin, anchorOf]
  cases p.anchor with
  | here => simp [anchorText, hc]
  | root => simp [anchorText, hc]
  | doubleRoot => simp [anchorText, hc]

/-- A path is read again from its text. -/
theorem ofString_render (h : p.Normal) : ofString p.render = p := by
  by_cases hne : p.parts = []
  · obtain ⟨anchor, parts⟩ := p
    obtain rfl : parts = [] := hne
    cases anchor <;> decide
  · rw [ofString, h.anchorOf_render hne, h.components_render hne]

end Path

namespace FileTree

open VendorLaunch.Path

variable {t : FileTree} {p : Path} {place q names rest : List String}

/-! ### Where paths lead -/

/-- Where a path with this anchor starts. -/
def start (t : FileTree) : Anchor → List String
  | .here => t.current
  | _ => []

/-- Where the components of a path lead, whatever the length of its text. -/
def destination (t : FileTree) (p : Path) : Except PathFault Landing :=
  t.walk linkLimit (t.start p.anchor) p.parts

theorem walk_empty_name (links : Nat) (names : List String) :
    t.walk links [] ("" :: names) = t.walk links [] names := by
  rw [walk]
  rfl

/-- A tree takes the components of a path whose text is not too long. -/
theorem follow_render (h : p.Normal) (hne : p.parts ≠ [])
    (hsize : ¬sizeLimit ≤ p.render.utf8ByteSize) : t.follow p.render = t.destination p := by
  have hstart : startsAtRoot p.render = !decide (p.anchor = .here) := by
    obtain ⟨c, cs, hc, hjoin⟩ := exists_toList_joinWith h hne
    rw [startsAtRoot, Text.startsWith, h.render_eq hne, String.toList_append, hjoin]
    cases p.anchor with
    | here => simp [anchorText, slash_toList, List.isPrefixOf, Ne.symm hc]
    | root => rfl
    | doubleRoot => rfl
  rw [follow, if_neg hsize, namesOf, h.splitOn_render hne, hstart, destination]
  cases p.anchor with
  | here => rfl
  | root => exact walk_empty_name _ _
  | doubleRoot => exact (walk_empty_name _ _).trans (walk_empty_name _ _)

theorem destination_of_follow (h : p.Normal) (hne : p.parts ≠ [])
    (hfound : t.follow p.render = .ok (.found q)) : t.destination p = .ok (.found q) := by
  have hsize : ¬sizeLimit ≤ p.render.utf8ByteSize := by
    intro hlong
    rw [follow, if_pos hlong] at hfound
    cases hfound
  rw [← follow_render h hne hsize, hfound]

/-- A walk that gets to something gets through the first of its names and goes on from there. -/
theorem exists_walk_of_append {links : Nat}
    (h : t.walk links place (names ++ rest) = .ok (.found q)) :
    ∃ middle links', t.walk links place names = .ok (.found middle) ∧
      t.walk links' middle rest = .ok (.found q) := by
  fun_induction walk t links place names with
  | case1 links place => exact ⟨place, links, rfl, h⟩
  | case2 links place name names hdir hdot ih =>
    rw [List.cons_append, walk, if_pos hdir, if_pos hdot] at h
    exact ih h
  | case3 links place names hdir hdot ih =>
    rw [List.cons_append, walk, if_pos hdir, if_neg hdot, if_pos rfl] at h
    exact ih h
  | case4 links place name names hdir hdot hup hlong =>
    rw [List.cons_append, walk, if_pos hdir, if_neg hdot, if_neg hup, if_pos hlong] at h
    cases h
  | case5 links place name names hdir hdot hup hlong hnode hlast
  | case6 links place name names hdir hdot hup hlong hnode hlast =>
    rw [List.cons_append, walk, if_pos hdir, if_neg hdot, if_neg hup, if_neg hlong, hnode] at h
    dsimp only at h
    split at h <;> cases h
  | case7 place name names hdir hdot hup hlong target hlink =>
    rw [List.cons_append, walk, if_pos hdir, if_neg hdot, if_neg hup, if_neg hlong, hlink] at h
    cases h
  | case8 place name names hdir hdot hup hlong target hlink links ih =>
    rw [List.cons_append, walk, if_pos hdir, if_neg hdot, if_neg hup, if_neg hlong, hlink] at h
    dsimp only at h
    rw [← List.append_assoc] at h
    exact ih h
  | case9 links place name names hdir hdot hup hlong n hn hnode ih =>
    rw [List.cons_append, walk, if_pos hdir, if_neg hdot, if_neg hup, if_neg hlong, hnode] at h
    cases n with
    | link target => exact absurd rfl (hn target)
    | file content => exact ih h
    | directory => exact ih h
  | case10 links place name names hdir =>
    rw [List.cons_append, walk, if_neg hdir] at h
    cases h

/-- On the way down from the place along the names a link stands. -/
def MeetsLink (t : FileTree) (place names : List String) : Prop :=
  ∃ way target, way ≠ [] ∧ way <+: names ∧ t.node? (place ++ way) = some (.link target)

theorem MeetsLink.cons {name : String} (h : t.MeetsLink (place ++ [name]) names) :
    t.MeetsLink place (name :: names) := by
  obtain ⟨way, target, -, hway, hlink⟩ := h
  refine ⟨name :: way, target, List.cons_ne_nil _ _, List.cons_prefix_cons.mpr ⟨rfl, hway⟩, ?_⟩
  rwa [List.append_assoc] at hlink

/-- In a tree without links none is met. -/
theorem not_meetsLink_of_nodes (h : ∀ entry ∈ t.nodes, ∀ target, entry.2 ≠ .link target) :
    ¬t.MeetsLink place names := by
  rintro ⟨way, target, hne, -, hlink⟩
  cases hlocation : place ++ way with
  | nil => exact hne (List.append_eq_nil_iff.mp hlocation).2
  | cons first others =>
    rw [hlocation] at hlink
    exact h _ (Table.mem_of_find? hlink) target rfl

/-- A walk over names goes straight down, unless it meets a link. -/
theorem walk_straight {links : Nat} (hnames : ∀ s ∈ names, IsName s)
    (h : t.walk links place names = .ok (.found q)) :
    q = place ++ names ∨ t.MeetsLink place names := by
  induction names generalizing place with
  | nil =>
    rw [walk] at h
    rw [List.append_nil]
    exact Or.inl (Landing.found.inj (Except.ok.inj h)).symm
  | cons name names ih =>
    obtain ⟨hname, hnames⟩ := List.forall_mem_cons.mp hnames
    have hdot : ¬(decide (name = "") || decide (name = ".")) = true := by
      simp [hname.ne_empty, hname.ne_dot]
    rw [walk] at h
    by_cases hdir : t.isDirectoryAt place = true
    · rw [if_pos hdir, if_neg hdot, if_neg hname.ne_up] at h
      by_cases hlong : 255 < name.utf8ByteSize
      · rw [if_pos hlong] at h
        cases h
      · rw [if_neg hlong] at h
        split at h
        · split at h <;> cases h
        · next target hlink =>
          exact Or.inr ⟨[name], target, List.cons_ne_nil _ _,
            List.cons_prefix_cons.mpr ⟨rfl, List.nil_prefix⟩, hlink⟩
        · rcases ih hnames h with hq | hmeets
          · exact Or.inl (by rw [hq, List.append_assoc, List.singleton_append])
          · exact Or.inr hmeets.cons
    · rw [if_neg hdir] at h
      cases h

/-- Continued by some names a path leads to the place of these names below where it leads itself,
unless a link is met between the two. -/
theorem exists_place_of_follow (hp : p.Normal) (hne : names ≠ []) (hnames : ∀ s ∈ names, IsName s)
    (h : t.follow (⟨p.anchor, p.parts ++ names⟩ : Path).render = .ok (.found q)) :
    ∃ place, t.destination p = .ok (.found place) ∧
      (q = place ++ names ∨ t.MeetsLink place names) := by
  have hnormal := hp.extend fun s hs => (hnames s hs).toIsComponent
  have hparts : p.parts ++ names ≠ [] := List.append_ne_nil_of_right_ne_nil _ hne
  obtain ⟨place, links, hplace, hrest⟩ :=
    exists_walk_of_append (destination_of_follow hnormal hparts h)
  exact ⟨place, hplace, walk_straight hnames hrest⟩

end FileTree

end VendorLaunch
