import VendorLaunch.Catalog.File
import VendorLaunch.Proofs.Files

/-!
# Reading catalog files

What comes of reading a catalog from a file. A catalog that is read satisfies the checks of its
models: every rule names one triple or a pair, and every group has a triple (`Catalog.Valid`,
`Catalog.valid_of_ofData`). This goes through the readers of its parts, for a list that is read
consists of values that were read.

A file that cannot be used is reported as a defect of the catalog, except where a fault goes through:
a name too long for the file to be seen, bytes that are no text, and a scalar that does not denote
what its tag says (`Unreported`). `Catalog.ofFileText_outcome` says that this is all that can
happen, and `not_forall_ofFile_catalog` is a file of one byte that is no text. Two records in the log
tell of a file that gives a catalog (`Catalog.ofFileText_of_ok`).
-/

namespace VendorLaunch

/-! ### What readers give -/

namespace Validated

variable {α β : Type} {name : String} {fs : List (Data × Data)} {read : Data → Validated α}

theorem bind_eq_ok {x : Validated α} {f : α → Validated β} {b : β} (h : (x >>= f) = .ok b) :
    ∃ a, x = .ok a ∧ f a = .ok b := by
  cases x with
  | ok a => exact ⟨a, rfl, h⟩
  | error vs => cases h

theorem and_eq_ok {x : Validated α} {y : Validated β} {p : α × β} (h : x.and y = .ok p) :
    x = .ok p.1 ∧ y = .ok p.2 := by
  rcases x with vs | a
  · cases y <;> cases h
  · rcases y with ws | b
    · cases h
    · obtain rfl := Except.ok.inj h
      exact ⟨rfl, rfl⟩

theorem within_eq_ok {s : Step} {x : Validated α} {a : α} (h : within s x = .ok a) : x = .ok a := by
  cases x with
  | ok b => exact h
  | error vs => cases h

theorem check_eq_ok {problem : α → Option String} {x : Validated α} {a : α}
    (h : check problem x = .ok a) : problem a = none := by
  unfold check at h
  split at h
  · split at h
    · cases h
    · next hnone =>
      obtain rfl := Except.ok.inj h
      exact hnone
  · cases h

/-- A model of valid parts is accepted when there is no problem with it as a whole. -/
theorem check_ok_eq_ok_iff {problem : α → Option String} {a b : α} :
    check problem (.ok a) = .ok b ↔ b = a ∧ problem a = none := by
  unfold check
  cases h : problem a with
  | none => simp [h, eq_comm]
  | some reason => simp [h, complain]

/-- A required field that is read was read from data. -/
theorem required_eq_ok {a : α} (h : required name read fs = .ok a) : ∃ d, read d = .ok a := by
  have hread := within_eq_ok h
  split at hread
  · exact ⟨_, hread⟩
  · cases hread

/-- An optional field is the default or was read from data. -/
theorem optional_eq_ok {default a : α} (h : optional name default read fs = .ok a) :
    a = default ∨ ∃ d, read d = .ok a := by
  have hread := within_eq_ok h
  split at hread
  · exact Or.inr ⟨_, hread⟩
  · exact Or.inl (Except.ok.inj hread).symm

/-- Every value of a list that is read was read from data. -/
theorem each_eq_ok {i : Nat} {ds : List Data} {as : List α} (h : each read i ds = .ok as) :
    ∀ a ∈ as, ∃ d, read d = .ok a := by
  induction ds generalizing i as with
  | nil =>
    obtain rfl := Except.ok.inj h
    exact nofun
  | cons d ds ih =>
    rw [each] at h
    split at h
    · next b bs hand =>
      obtain rfl := Except.ok.inj h
      obtain ⟨hb, hbs⟩ := and_eq_ok hand
      exact List.forall_mem_cons.mpr ⟨⟨d, within_eq_ok hb⟩, ih hbs⟩
    · cases h

theorem list_eq_ok {d : Data} {as : List α} (h : list read d = .ok as) :
    ∀ a ∈ as, ∃ d, read d = .ok a := by
  unfold list at h
  split at h
  · exact each_eq_ok h
  · exact each_eq_ok h
  · exact each_eq_ok h
  · cases h

theorem ne_nil_of_nonEmptyList {d : Data} {as : List α} (h : nonEmptyList read d = .ok as) :
    as ≠ [] := by
  unfold nonEmptyList at h
  split at h
  · cases h
  · next hne =>
    rintro rfl
    exact hne h

end Validated

/-! ### Catalogs that are read -/

open Validated

/-- The checks of the models hold: every rule names one triple or a pair of builds, and every group
has a triple. -/
structure Catalog.Valid (c : Catalog) : Prop where
  rules : ∀ r ∈ c.rules, r.problem = none
  groups : ∀ g ∈ c.groups, g.triples ≠ []

theorem Rule.problem_of_ofData {d : Data} {r : Rule} (h : Rule.ofData d = .ok r) :
    r.problem = none := Validated.check_eq_ok h

theorem Group.triples_of_ofData {d : Data} {g : Group} (h : Group.ofData d = .ok g) :
    g.triples ≠ [] := by
  obtain ⟨fs, -, h⟩ := bind_eq_ok h
  obtain ⟨⟨label, triples⟩, hparts, h⟩ := bind_eq_ok h
  obtain rfl := Except.ok.inj h
  obtain ⟨d', hd'⟩ := required_eq_ok (and_eq_ok hparts).2
  exact ne_nil_of_nonEmptyList hd'

namespace Catalog

open Logged

variable {t : FileTree} {path : Path} {text : Except Fault String} {c : Catalog} {e : Failure}
  {f : Fault}

/-- Data that are read as a catalog give one that satisfies the checks. -/
theorem valid_of_ofData {d : Data} (h : Catalog.ofData d = .ok c) : c.Valid := by
  obtain ⟨fs, -, h⟩ := bind_eq_ok h
  obtain ⟨⟨⟨⟨⟨version, dir⟩, name⟩, rules⟩, groups⟩, hparts, h⟩ := bind_eq_ok h
  obtain rfl := Except.ok.inj h
  obtain ⟨hparts, hgroups⟩ := and_eq_ok hparts
  obtain ⟨-, hrules⟩ := and_eq_ok hparts
  refine ⟨fun r hr => ?_, fun g hg => ?_⟩
  · rcases optional_eq_ok hrules with rfl | ⟨d, hd⟩
    · cases hr
    · obtain ⟨d', hd'⟩ := list_eq_ok hd r hr
      exact Rule.problem_of_ofData hd'
  · rcases optional_eq_ok hgroups with rfl | ⟨d, hd⟩
    · cases hg
    · obtain ⟨d', hd'⟩ := list_eq_ok hd g hg
      exact Group.triples_of_ofData hd'

/-! ### Files -/

/-- What keeps a file from being read without being reported as a defect of the catalog. -/
inductive Unreported (t : FileTree) (path : Path) (text : Except Fault String) (f : Fault) : Prop
  /-- It cannot be seen whether the file is there. -/
  | hidden (look : t.isFile path = .error f)
  /-- The file is there and what it holds is no text. -/
  | undecodable (look : t.isFile path = .ok true) (read : text = .error f)
      (other : f.isSystem = false)
  /-- The file holds a scalar that does not denote what its tag says. -/
  | unconvertible (look : t.isFile path = .ok true) {s : String} (read : text = .ok s)
      (data : Yaml.read s = .error (.fault f))

/-- The text of a file cannot be read for a reason that is no failed system call just when its bytes
are not UTF-8. -/
theorem readText_eq_error_iff :
    readText t path = .error f ∧ f.isSystem = false ↔
      ∃ bytes g, t.bytesAt? path.render = some bytes ∧ Text.decodeUtf8 bytes = .error g ∧
        f = .named "UnicodeDecodeError" g.message := by
  unfold readText
  cases hbytes : t.bytesAt? path.render with
  | none =>
    constructor
    · rintro ⟨h, hf⟩
      obtain rfl := Except.error.inj h
      rw [PathFault.toFault, Fault.isSystem_system] at hf
      cases hf
    · rintro ⟨_, _, h, -⟩
      cases h
  | some bytes =>
    cases hdecode : Text.decodeUtf8 bytes with
    | ok s =>
      constructor
      · rintro ⟨h, -⟩
        simp only [hdecode] at h
        cases h
      · rintro ⟨_, _, h, h', -⟩
        obtain rfl := Option.some.inj h
        rw [hdecode] at h'
        cases h'
    | error g =>
      have hkind : (Fault.named "UnicodeDecodeError" g.message).isSystem = false :=
        show Fault.systemKinds.contains "UnicodeDecodeError" = false by decide
      simp only [hdecode]
      constructor
      · rintro ⟨h, -⟩
        exact ⟨bytes, g, rfl, hdecode, (Except.error.inj h).symm⟩
      · rintro ⟨_, g', h, h', rfl⟩
        obtain rfl := Option.some.inj h
        obtain rfl := Except.error.inj (hdecode.symm.trans h')
        exact ⟨rfl, hkind⟩

/-- Text is read to a catalog whose checks hold, it is a defect of the catalog, or a scalar of it
cannot be converted. -/
theorem catalogData_cases (path : Path) (s : String) :
    (∃ c, catalogData path s >>= catalogOfData path = .ok c ∧ c.Valid) ∨
      (∃ defect, catalogData path s >>= catalogOfData path = .error (.catalog path defect)) ∨
      ∃ f, catalogData path s >>= catalogOfData path = .error (.fault f) ∧
        Yaml.read s = .error (.fault f) := by
  unfold catalogData
  rcases hread : Yaml.read s with (_ | f) | d
  · exact Or.inr (Or.inl ⟨_, rfl⟩)
  · exact Or.inr (Or.inr ⟨f, rfl, rfl⟩)
  · dsimp only
    rw [ok_bind]
    unfold catalogOfData
    split
    · split
      · next c hdata => exact Or.inl ⟨c, rfl, valid_of_ofData hdata⟩
      · exact Or.inr (Or.inl ⟨_, rfl⟩)
    · exact Or.inr (Or.inl ⟨_, rfl⟩)

/-- What reading a file comes to when the file is there. -/
theorem result_ofFileText_of_isFile (h : t.isFile path = .ok true) :
    (ofFileText t path text).result =
      match text with
      | .error f => .error (if f.isSystem then .catalog path (.unreadable f) else .fault f)
      | .ok s => catalogData path s >>= catalogOfData path := by
  unfold ofFileText
  rw [result_bind, result_ofFault_eq_ok.mpr h, ok_bind, if_pos rfl, result_note_bind, result_bind]
  cases text with
  | error f => rfl
  | ok s =>
    dsimp only
    rw [result_ofExcept, ok_bind, result_bind, result_ofExcept]
    cases catalogData path s with
    | error e => rfl
    | ok d =>
      rw [ok_bind, ok_bind, result_bind, result_ofExcept]
      cases catalogOfData path d with
      | error e => rfl
      | ok c => rfl

theorem result_ofFileText_of_not_isFile (h : t.isFile path = .ok false) :
    (ofFileText t path text).result = .error (.catalog path .notFound) := by
  unfold ofFileText
  rw [result_bind, result_ofFault_eq_ok.mpr h, ok_bind]
  rfl

theorem result_ofFileText_of_error (h : t.isFile path = .error f) :
    (ofFileText t path text).result = .error (.fault f) := by
  unfold ofFileText
  rw [result_bind, result_ofFault_eq_error.mpr ⟨f, h, rfl⟩]
  rfl

/-- A file that gives a catalog is read, and told of in the log, before and after it is read. -/
theorem ofFileText_of_ok {c : Catalog} (h : (ofFileText t path text).result = .ok c) :
    ofFileText t path text = ⟨c.reading (some path), .ok c⟩ := by
  have hlog : (ofFileText t path text).log = c.reading (some path) := by
    have hfile : t.isFile path = .ok true := by
      rcases hfile : t.isFile path with f | _ | _
      · cases (result_ofFileText_of_error hfile).symm.trans h
      · cases (result_ofFileText_of_not_isFile hfile).symm.trans h
      · rfl
    rw [result_ofFileText_of_isFile hfile] at h
    rcases text with f | s
    · cases h
    · dsimp only at h
      obtain ⟨d, hd, hc⟩ : ∃ d, catalogData path s = .ok d ∧ catalogOfData path d = .ok c := by
        cases hd : catalogData path s with
        | error e =>
          rw [hd] at h
          cases h
        | ok d =>
          rw [hd] at h
          exact ⟨d, rfl, h⟩
      simp only [ofFileText, log_bind, ofFault, hfile, if_true, note, Logged.ofExcept, hd, hc, pure,
        List.nil_append, List.append_nil, List.singleton_append, reading]
  cases hall : ofFileText t path text with
  | mk log result =>
    rw [hall] at h hlog
    rw [← h, ← hlog]

/-- A file gives a catalog whose checks hold, a defect of the catalog, or a fault that goes
unreported. -/
theorem ofFileText_cases (t : FileTree) (path : Path) (text : Except Fault String) :
    (∃ c, (ofFileText t path text).result = .ok c ∧ c.Valid) ∨
      (∃ defect, (ofFileText t path text).result = .error (.catalog path defect)) ∨
      ∃ f, (ofFileText t path text).result = .error (.fault f) ∧ Unreported t path text f := by
  rcases hfile : t.isFile path with f | _ | _
  · exact Or.inr (Or.inr ⟨f, result_ofFileText_of_error hfile, .hidden hfile⟩)
  · exact Or.inr (Or.inl ⟨_, result_ofFileText_of_not_isFile hfile⟩)
  · rw [result_ofFileText_of_isFile hfile]
    cases text with
    | error f =>
      by_cases hf : f.isSystem = true
      · exact Or.inr (Or.inl ⟨.unreadable f, by simp only [if_pos hf]⟩)
      · exact Or.inr (Or.inr ⟨f, by simp only [if_neg hf],
          .undecodable hfile rfl (Bool.eq_false_iff.mpr hf)⟩)
    | ok s =>
      rcases catalogData_cases path s with h | h | ⟨f, h, hread⟩
      · exact Or.inl h
      · exact Or.inr (Or.inl h)
      · exact Or.inr (Or.inr ⟨f, h, .unconvertible hfile rfl hread⟩)

/-- What goes unreported goes through. -/
theorem ofFileText_of_unreported (h : Unreported t path text f) :
    (ofFileText t path text).result = .error (.fault f) := by
  cases h with
  | hidden hfile => exact result_ofFileText_of_error hfile
  | undecodable hfile htext hf =>
    rw [result_ofFileText_of_isFile hfile, htext]
    simp only [hf, Bool.false_eq_true, if_false]
  | unconvertible hfile htext hread =>
    rw [result_ofFileText_of_isFile hfile, htext]
    simp only [catalogData, hread]
    rfl

/-- Whatever reading the text of a file gives, the outcome is a catalog whose checks hold, a defect
of the catalog at this path, or a fault; and it is a fault just when one keeps the file from being
seen, when its text cannot be read for a reason that is no failed system call, or when a scalar of
it does not denote what its tag says. -/
theorem ofFileText_outcome (t : FileTree) (path : Path) (text : Except Fault String) :
    (∀ c, (ofFileText t path text).result = .ok c → c.Valid) ∧
    (∀ e, (ofFileText t path text).result = .error e →
      (∃ defect, e = .catalog path defect) ∨ ∃ f, e = .fault f) ∧
    ∀ f, (ofFileText t path text).result = .error (.fault f) ↔ Unreported t path text f := by
  rcases ofFileText_cases t path text with ⟨c, hc, hvalid⟩ | ⟨defect, hdefect⟩ | ⟨f, hf, hun⟩
  · rw [hc]
    refine ⟨fun c' h => Except.ok.inj h ▸ hvalid, nofun, fun f => ⟨nofun, fun h => ?_⟩⟩
    rw [ofFileText_of_unreported h] at hc
    cases hc
  · rw [hdefect]
    refine ⟨nofun, fun e h => Or.inl ⟨defect, (Except.error.inj h).symm⟩, fun f =>
      ⟨nofun, fun h => ?_⟩⟩
    rw [ofFileText_of_unreported h] at hdefect
    cases hdefect
  · rw [hf]
    refine ⟨nofun, fun e h => Or.inr ⟨f, (Except.error.inj h).symm⟩, fun g =>
      ⟨fun h => ?_, fun h => ?_⟩⟩
    · obtain rfl := Failure.fault.inj (Except.error.inj h)
      exact hun
    · exact hf.symm.trans (ofFileText_of_unreported h)

/-- A directory with a file of one byte that starts no character. -/
def brokenTree : FileTree := { current := [], nodes := [(["cat.yml"], .file [0xff])] }

/-- Reading a catalog does not only fail with defects of the catalog: the bytes of the file need not
be text. -/
theorem not_forall_ofFile_catalog :
    ¬∀ (t : FileTree) (path : Path) (e : Failure), (ofFile t path).result = .error e →
      ∃ defect, e = .catalog path defect := by
  intro h
  have hfile : brokenTree.isFile (.ofString "cat.yml") = .ok true :=
    FileTree.leadsTo_of_glance (by rfl)
  have hstatus : brokenTree.status (Path.ofString "cat.yml").render = .ok (.file [0xff]) :=
    FileTree.status_of_directStatus (by rfl)
  have hbytes : brokenTree.bytesAt? (Path.ofString "cat.yml").render = some [0xff] := by
    rw [FileTree.bytesAt?, hstatus]
  obtain ⟨hread, hother⟩ := readText_eq_error_iff.mpr
    ⟨[0xff], ⟨0, 1, 0xff, .invalidStart⟩, hbytes, by rfl, rfl⟩
  obtain ⟨defect, hdefect⟩ := h brokenTree (.ofString "cat.yml") _
    (ofFileText_of_unreported (.undecodable hfile hread hother))
  cases hdefect

end Catalog

end VendorLaunch
