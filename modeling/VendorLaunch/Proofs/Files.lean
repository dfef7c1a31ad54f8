import VendorLaunch.FileTree

/-!
# Looking into file trees

Where no link is met a walk takes the names one after the other. `FileTree.direct` does this by
recursion on the names alone, so a look at a path of a known tree can be computed: what
`FileTree.glance` tells is what the look gives (`leadsTo_of_glance`).

Where a path leads does not depend on what the files contain. Trees that differ in the contents of
files only (`FileTree.SameShape`) give the same answer to every question that is not about contents
(`SameShape.leadsTo`), and appending to a file leaves the shape as it is (`sameShape_appendText`).
Opening a file for appending may add one (`openAppend_eq_ok`); it does not add or take away a
directory (`isDirectory_openAppend`), and the text leads to the file from then on
(`leadsToFile_openAppend`, `LeadsToFile.sameShape`). Neither act touches what stands elsewhere
(`node?_appendText_of_ne`, `node?_openAppend_of_ne`). A look fails only on account of a name that is
too long (`leadsTo_eq_error`). And in a tree in which each location stands in a directory
(`FileTree.Closed`) no path leads to a link: what exists is a regular file or a directory
(`Closed.pathExists_iff`).
-/

namespace VendorLaunch.FileTree

variable {t t' : FileTree}

/-! ### Walks without links -/

/-- Follows names from the directory `place` as long as no link is met. -/
def direct (t : FileTree) (place : List String) : List String → Option (Except PathFault Landing)
  | [] => some (.ok (.found place))
  | name :: rest =>
    if t.isDirectoryAt place then
      if name = "" || name = "." then direct t place rest
      else if name = ".." then direct t place.dropLast rest
      else if 255 < name.utf8ByteSize then some (.error .nameTooLong)
      else
        match t.node? (place ++ [name]) with
        | none => some (if rest.isEmpty then .ok (.absent (place ++ [name])) else .error .noEntry)
        | some (.link _) => none
        | some _ => direct t (place ++ [name]) rest
    else some (.error .notDirectory)

/-- A walk that meets no link is the direct one. -/
theorem walk_of_direct {links : Nat} {names : List String} {r : Except PathFault Landing} :
    ∀ {place : List String}, t.direct place names = some r → t.walk links place names = r := by
  induction names with
  | nil =>
    intro place h
    rw [walk]
    exact Option.some.inj h
  | cons name rest ih =>
    intro place h
    rw [walk]
    rw [direct] at h
    by_cases hdir : t.isDirectoryAt place = true
    · rw [if_pos hdir] at h ⊢
      by_cases hdot : (name = "" || name = ".") = true
      · rw [if_pos hdot] at h ⊢
        exact ih h
      · rw [if_neg hdot] at h ⊢
        by_cases hup : name = ".."
        · rw [if_pos hup] at h ⊢
          exact ih h
        · rw [if_neg hup] at h ⊢
          by_cases hlong : 255 < name.utf8ByteSize
          · rw [if_pos hlong] at h ⊢
            exact Option.some.inj h
          · rw [if_neg hlong] at h ⊢
            cases hnode : t.node? (place ++ [name]) with
            | none =>
              rw [hnode] at h
              exact Option.some.inj h
            | some n =>
              rw [hnode] at h
              cases n with
              | link target => cases h
              | file content => exact ih h
              | directory => exact ih h
    · rw [if_neg hdir] at h ⊢
      exact Option.some.inj h

theorem follow_of_direct {text : String} {r : Except PathFault Landing}
    (hsize : ¬sizeLimit ≤ text.utf8ByteSize)
    (h : t.direct (if startsAtRoot text then [] else t.current) (namesOf text) = some r) :
    t.follow text = r := by
  unfold follow
  rw [if_neg hsize]
  exact walk_of_direct h

/-- What a direct walk leads to. -/
def directStatus (t : FileTree) (text : String) : Option (Except PathFault Node) :=
  if sizeLimit ≤ text.utf8ByteSize then some (.error .nameTooLong)
  else
    match t.direct (if startsAtRoot text then [] else t.current) (namesOf text) with
    | some (.ok (.found place)) =>
      match t.node? place with
      | some n => some (.ok n)
      | none => some (.error .noEntry)
    | some (.ok (.absent _)) => some (.error .noEntry)
    | some (.error f) => some (.error f)
    | none => none

theorem status_of_directStatus {text : String} {r : Except PathFault Node}
    (h : t.directStatus text = some r) : t.status text = r := by
  unfold directStatus at h
  unfold status follow
  by_cases hsize : sizeLimit ≤ text.utf8ByteSize
  · rw [if_pos hsize] at h ⊢
    exact Option.some.inj h
  · rw [if_neg hsize] at h ⊢
    split at h
    · next place hwalk =>
      rw [walk_of_direct hwalk]
      cases hnode : t.node? place with
      | none =>
        rw [hnode] at h
        simp only [hnode]
        exact Option.some.inj h
      | some n =>
        rw [hnode] at h
        simp only [hnode]
        exact Option.some.inj h
    · next place hwalk =>
      rw [walk_of_direct hwalk]
      exact Option.some.inj h
    · next f hwalk =>
      rw [walk_of_direct hwalk]
      exact Option.some.inj h
    · cases h

/-- Whether the path leads to something that `q` holds of, where no link and no fault is met. -/
def glance (t : FileTree) (q : Node → Bool) (path : Path) : Option Bool :=
  if path.render.toList.contains '\x00' then some false
  else
    match t.directStatus path.render with
    | some (.ok n) => some (q n)
    | some (.error f) => if meansAbsent f then some false else none
    | none => none

/-- What a glance tells is so. -/
theorem leadsTo_of_glance {q : Node → Bool} {path : Path} {b : Bool}
    (h : t.glance q path = some b) : t.leadsTo q path = .ok b := by
  unfold glance at h
  unfold leadsTo
  simp only
  by_cases hnul : path.render.toList.contains '\x00' = true
  · rw [if_pos hnul] at h ⊢
    exact congrArg Except.ok (Option.some.inj h)
  · rw [if_neg hnul] at h ⊢
    split at h
    · next n hstatus =>
      rw [status_of_directStatus hstatus]
      exact congrArg Except.ok (Option.some.inj h)
    · next f hstatus =>
      rw [status_of_directStatus hstatus]
      by_cases hf : meansAbsent f = true
      · rw [if_pos hf] at h
        simp only [if_pos hf]
        exact congrArg Except.ok (Option.some.inj h)
      · rw [if_neg hf] at h
        cases h
    · cases h

/-! ### Looks that fail -/

/-- A walk may end anywhere. -/
theorem walk_ne_isDirectory (t : FileTree) (links : Nat) (place names : List String) :
    t.walk links place names ≠ .error .isDirectory := by
  fun_induction walk t links place names with
  | case1 | case4 | case5 | case6 | case7 | case10 => exact nofun
  | case2 _ _ _ _ _ _ ih => exact ih
  | case3 _ _ _ _ _ ih => exact ih
  | case8 _ _ _ _ _ _ _ _ _ _ ih => exact ih
  | case9 _ _ _ _ _ _ _ _ _ _ _ ih => exact ih

theorem status_ne_isDirectory (t : FileTree) (text : String) :
    t.status text ≠ .error .isDirectory := by
  intro h
  have hfollow : t.follow text ≠ .error .isDirectory := by
    unfold follow
    split
    · exact nofun
    · exact t.walk_ne_isDirectory _ _ _
  unfold status at h
  split at h
  · split at h
    · cases h
    · cases h
  · cases h
  · next f heq =>
    obtain rfl := Except.error.inj h
    exact hfollow heq

/-- Only a name that is too long keeps the program from seeing what is at a path. -/
theorem leadsTo_eq_error {q : Node → Bool} {path : Path} {f : Fault}
    (h : t.leadsTo q path = .error f) : f = PathFault.nameTooLong.toFault path.render := by
  unfold leadsTo at h
  dsimp only at h
  split at h
  · cases h
  · split at h
    · cases h
    · next g hstatus =>
      split at h
      · cases h
      · next hpresent =>
        obtain rfl := Except.error.inj h
        cases g with
        | nameTooLong => rfl
        | isDirectory => exact absurd hstatus (t.status_ne_isDirectory _)
        | _ => exact absurd rfl hpresent

/-- A look says yes when it gets somewhere and what is there passes the question. -/
theorem leadsTo_eq_true_iff {q : Node → Bool} {path : Path} :
    t.leadsTo q path = .ok true ↔ path.render.toList.contains '\x00' = false ∧
      ∃ n, t.status path.render = .ok n ∧ q n = true := by
  unfold leadsTo
  dsimp only
  cases path.render.toList.contains '\x00' with
  | true => simp
  | false =>
    rw [if_neg Bool.false_ne_true]
    cases t.status path.render with
    | ok n => simp
    | error f =>
      dsimp only
      cases meansAbsent f with
      | true => simp
      | false => simp

/-! ### Where walks end -/

/-- Each location of the tree stands in a directory. -/
def Closed (t : FileTree) : Prop := ∀ entry ∈ t.nodes, t.isDirectoryAt entry.1.dropLast = true

instance (t : FileTree) : Decidable t.Closed :=
  inferInstanceAs (Decidable (∀ entry ∈ t.nodes, t.isDirectoryAt entry.1.dropLast = true))

theorem node?_of_isDirectoryAt {place : List String} (h : t.isDirectoryAt place = true) :
    t.node? place = some .directory := eq_of_beq h

/-- What is above a directory is a directory. -/
theorem Closed.dropLast (h : t.Closed) {place : List String} (hdir : t.isDirectoryAt place = true) :
    t.isDirectoryAt place.dropLast = true := by
  cases place with
  | nil => rfl
  | cons name rest =>
    have hfind : Table.find? (name :: rest) t.nodes = some .directory :=
      node?_of_isDirectoryAt hdir
    exact h (name :: rest, .directory) (Table.mem_of_find? hfind)

/-- A walk that gets to something gets through every link: it never ends at one, unless it has
nowhere to go and starts there. -/
theorem Closed.walk_ne_link (h : t.Closed) {links : Nat} {place names p : List String}
    (hstart : names = [] → ∀ target, t.node? place ≠ some (.link target))
    (hwalk : t.walk links place names = .ok (.found p)) (target : String) :
    t.node? p ≠ some (.link target) := by
  have hdirectory : ∀ {place : List String}, t.isDirectoryAt place = true →
      ∀ target, t.node? place ≠ some (.link target) := by
    intro place hdir target hlink
    rw [node?_of_isDirectoryAt hdir] at hlink
    cases hlink
  fun_induction FileTree.walk t links place names with
  | case1 links place =>
    obtain rfl := Landing.found.inj (Except.ok.inj hwalk)
    exact hstart rfl target
  | case2 links place name rest hdir hdot ih => exact ih (fun _ => hdirectory hdir) hwalk
  | case3 links place rest hdir hdot ih => exact ih (fun _ => hdirectory (h.dropLast hdir)) hwalk
  | case4 => cases hwalk
  | case5 => cases Except.ok.inj hwalk
  | case6 => cases hwalk
  | case7 => cases hwalk
  | case8 place name rest hdir hdot hup hlong target' hlink links ih =>
    refine ih (fun _ => ?_) hwalk
    split
    · exact hdirectory rfl
    · exact hdirectory hdir
  | case9 links place name rest hdir hdot hup hlong n hn hnode ih =>
    refine ih (fun _ target' hlink => ?_) hwalk
    rw [hnode] at hlink
    exact hn target' (Option.some.inj hlink)
  | case10 => cases hwalk

theorem namesOf_ne_nil (text : String) : namesOf text ≠ [] :=
  mt List.map_eq_nil_iff.mp (Text.splitFrom_ne_nil _ _ _)

/-- A path never leads to a link. -/
theorem Closed.status_ne_link (h : t.Closed) (text target : String) :
    t.status text ≠ .ok (.link target) := by
  intro hstatus
  unfold status at hstatus
  split at hstatus
  · next place hfollow =>
    split at hstatus
    · next n hnode =>
      obtain rfl := Except.ok.inj hstatus
      unfold follow at hfollow
      split at hfollow
      · cases hfollow
      · exact h.walk_ne_link (fun hnil => absurd hnil (namesOf_ne_nil text)) hfollow _ hnode
    · cases hstatus
  · cases hstatus
  · cases hstatus

/-- What exists at a path is a regular file or a directory. -/
theorem Closed.pathExists_iff (h : t.Closed) {path : Path} :
    t.pathExists path = .ok true ↔ t.isFile path = .ok true ∨ t.isDirectory path = .ok true := by
  rw [pathExists, isFile, isDirectory, leadsTo_eq_true_iff, leadsTo_eq_true_iff,
    leadsTo_eq_true_iff, ← and_or_left]
  refine and_congr_right fun _ => ?_
  constructor
  · rintro ⟨n, hstatus, -⟩
    cases n with
    | file b => exact Or.inl ⟨_, hstatus, rfl⟩
    | directory => exact Or.inr ⟨_, hstatus, rfl⟩
    | link target => exact absurd hstatus (h.status_ne_link _ target)
  · rintro (⟨n, hstatus, -⟩ | ⟨n, hstatus, -⟩)
    · exact ⟨n, hstatus, rfl⟩
    · exact ⟨n, hstatus, rfl⟩

/-! ### Contents -/

end FileTree

/-- What stands at a location, whatever a file contains. -/
def Node.shape : Node → Node
  | .file _ => .file []
  | n => n

namespace FileTree

/-- The trees differ in nothing but the contents of files. -/
structure SameShape (t t' : FileTree) : Prop where
  current : t'.current = t.current
  shape : ∀ place, (t'.node? place).map Node.shape = (t.node? place).map Node.shape

theorem SameShape.refl (t : FileTree) : SameShape t t := ⟨rfl, fun _ => rfl⟩

theorem SameShape.trans {t₁ : FileTree} (h : SameShape t t₁) (h' : SameShape t₁ t') :
    SameShape t t' := ⟨h'.current.trans h.current, fun p => (h'.shape p).trans (h.shape p)⟩

/-- Steps that keep the shape keep it together. -/
theorem SameShape.foldl {α : Type} {f : FileTree → α → FileTree} (hf : ∀ t a, SameShape t (f t a))
    (as : List α) (t : FileTree) : SameShape t (as.foldl f t) := by
  induction as generalizing t with
  | nil => exact refl t
  | cons a as ih => exact (hf t a).trans (ih (f t a))

/-- At each location there is nothing in both trees, the same link, a directory or a file. -/
theorem SameShape.node? (h : SameShape t t') (place : List String) :
    t'.node? place = t.node? place ∨
      ∃ b b', t.node? place = some (.file b) ∧ t'.node? place = some (.file b') := by
  have hshape := h.shape place
  cases hn : t.node? place with
  | none =>
    rw [hn, Option.map_none, Option.map_eq_none_iff] at hshape
    exact Or.inl hshape
  | some n =>
    cases hn' : t'.node? place with
    | none =>
      rw [hn, hn'] at hshape
      cases hshape
    | some n' =>
      rw [hn, hn'] at hshape
      have hnodes : n'.shape = n.shape := Option.some.inj hshape
      cases n with
      | file b =>
        cases n' with
        | file b' => exact Or.inr ⟨b, b', rfl, rfl⟩
        | directory => cases hnodes
        | link target => cases hnodes
      | directory =>
        cases n' with
        | directory => exact Or.inl rfl
        | file b' => cases hnodes
        | link target => cases hnodes
      | link target =>
        cases n' with
        | link target' => exact Or.inl (congrArg some hnodes)
        | file b' => cases hnodes
        | directory => cases hnodes

theorem SameShape.isDirectoryAt (h : SameShape t t') (place : List String) :
    t'.isDirectoryAt place = t.isDirectoryAt place := by
  unfold FileTree.isDirectoryAt
  rcases h.node? place with hn | ⟨b, b', hn, hn'⟩
  · rw [hn]
  · rw [hn, hn']
    rfl

theorem SameShape.node?_eq_none (h : SameShape t t') {place : List String}
    (hn : t.node? place = none) : t'.node? place = none := by
  rcases h.node? place with hsame | ⟨b, b', hfile, -⟩
  · exact hsame.trans hn
  · rw [hn] at hfile
    cases hfile

theorem SameShape.node?_eq_link (h : SameShape t t') {place : List String} {target : String}
    (hn : t.node? place = some (.link target)) : t'.node? place = some (.link target) := by
  rcases h.node? place with hsame | ⟨b, b', hfile, -⟩
  · exact hsame.trans hn
  · rw [hn] at hfile
    cases hfile

/-- A walk takes the same way through both trees. -/
theorem SameShape.walk (h : SameShape t t') (links : Nat) (place names : List String) :
    t'.walk links place names = t.walk links place names := by
  fun_induction FileTree.walk t links place names with
  | case1 links place => rw [FileTree.walk]
  | case2 links place name rest hdir hdot ih =>
    rw [FileTree.walk, h.isDirectoryAt, if_pos hdir, if_pos hdot, ih]
  | case3 links place rest hdir hdot ih =>
    rw [FileTree.walk, h.isDirectoryAt, if_pos hdir, if_neg hdot, if_pos rfl, ih]
  | case4 links place name rest hdir hdot hup hlong =>
    rw [FileTree.walk, h.isDirectoryAt, if_pos hdir, if_neg hdot, if_neg hup, if_pos hlong]
  | case5 links place name rest hdir hdot hup hlong hnone hlast =>
    rw [FileTree.walk, h.isDirectoryAt, if_pos hdir, if_neg hdot, if_neg hup, if_neg hlong,
      h.node?_eq_none hnone]
    exact if_pos hlast
  | case6 links place name rest hdir hdot hup hlong hnone hlast =>
    rw [FileTree.walk, h.isDirectoryAt, if_pos hdir, if_neg hdot, if_neg hup, if_neg hlong,
      h.node?_eq_none hnone]
    exact if_neg hlast
  | case7 place name rest hdir hdot hup hlong target hlink =>
    rw [FileTree.walk, h.isDirectoryAt, if_pos hdir, if_neg hdot, if_neg hup, if_neg hlong,
      h.node?_eq_link hlink]
  | case8 place name rest hdir hdot hup hlong target hlink links ih =>
    rw [FileTree.walk, h.isDirectoryAt, if_pos hdir, if_neg hdot, if_neg hup, if_neg hlong,
      h.node?_eq_link hlink]
    exact ih
  | case9 links place name rest hdir hdot hup hlong n hn hnode ih =>
    rw [FileTree.walk, h.isDirectoryAt, if_pos hdir, if_neg hdot, if_neg hup, if_neg hlong]
    -- a file or a directory in the one tree is a file or a directory in the other
    rcases h.node? (place ++ [name]) with hsame | ⟨b, b', -, hfile⟩
    · rw [hsame, hnode]
      cases n with
      | link target => exact absurd rfl (hn target)
      | file b => exact ih
      | directory => exact ih
    · rw [hfile]
      exact ih
  | case10 links place name rest hdir => rw [FileTree.walk, h.isDirectoryAt, if_neg hdir]

theorem SameShape.follow (h : SameShape t t') (text : String) : t'.follow text = t.follow text := by
  unfold FileTree.follow
  rw [h.current, h.walk]

/-- A question that is not about contents has the same answer in both trees. -/
theorem SameShape.leadsTo (h : SameShape t t') {q : Node → Bool}
    (hq : ∀ b b', q (.file b) = q (.file b')) (path : Path) :
    t'.leadsTo q path = t.leadsTo q path := by
  unfold FileTree.leadsTo FileTree.status
  simp only [h.follow]
  by_cases hnul : path.render.toList.contains '\x00' = true
  · rw [if_pos hnul, if_pos hnul]
  · rw [if_neg hnul, if_neg hnul]
    cases t.follow path.render with
    | error f => rfl
    | ok landing =>
      cases landing with
      | absent place => rfl
      | found place =>
        rcases h.node? place with hsame | ⟨b, b', hn, hn'⟩
        · simp only [hsame]
        · simp only [hn, hn', hq b' b]

theorem node?_setNode {t : FileTree} {p : List String} (hne : p ≠ []) (b : List UInt8)
    (place : List String) :
    (t.setNode p (.file b)).node? place = if place = p then some (.file b) else t.node? place := by
  cases place with
  | nil => exact (if_neg (Ne.symm hne)).symm
  | cons name rest => exact Table.find?_insert p _ _ _

/-- The root is no file. -/
theorem ne_nil_of_file {t : FileTree} {place : List String} {b : List UInt8}
    (h : t.node? place = some (.file b)) : place ≠ [] := by
  rintro rfl
  cases h

/-- Appending to a file leaves alone what stands elsewhere. -/
theorem node?_appendText_of_ne {place p : List String} (hp : p ≠ place) (t : FileTree)
    (text : String) : (t.appendText place text).node? p = t.node? p := by
  unfold appendText
  split
  · next b hnode => rw [node?_setNode (ne_nil_of_file hnode), if_neg hp]
  · rfl

/-- Appending to a file changes no more than what the file contains. -/
theorem sameShape_appendText (t : FileTree) (place : List String) (text : String) :
    SameShape t (t.appendText place text) := by
  unfold appendText
  split
  · next b hnode =>
    refine ⟨rfl, fun p => ?_⟩
    rw [node?_setNode (ne_nil_of_file hnode)]
    by_cases hp : p = place
    · rw [if_pos hp, hp, hnode]
      rfl
    · rw [if_neg hp]
  · exact SameShape.refl t

/-! ### A new file -/

variable {t : FileTree}

/-- What an absent landing says of the tree. -/
theorem node?_of_absent {links : Nat} {place names p : List String}
    (h : t.walk links place names = .ok (.absent p)) : t.node? p = none ∧ p ≠ [] := by
  fun_induction FileTree.walk t links place names with
  | case1 => cases Except.ok.inj h
  | case2 links place name rest hdir hdot ih => exact ih h
  | case3 links place rest hdir hdot ih => exact ih h
  | case4 => cases h
  | case5 links place name rest hdir hdot hup hlong hnone hlast =>
    obtain rfl := Landing.absent.inj (Except.ok.inj h)
    exact ⟨hnone, by simp⟩
  | case6 => cases h
  | case7 => cases h
  | case8 place name rest hdir hdot hup hlong target hlink links ih => exact ih h
  | case9 links place name rest hdir hdot hup hlong n hn hnode ih => exact ih h
  | case10 => cases h

theorem node?_of_follow_absent {text : String} {p : List String}
    (h : t.follow text = .ok (.absent p)) : t.node? p = none ∧ p ≠ [] := by
  unfold follow at h
  split at h
  · cases h
  · exact node?_of_absent h

section

variable {p : List String} {b : List UInt8} (hnone : t.node? p = none) (hne : p ≠ [])
include hnone hne

theorem isDirectoryAt_setNode (place : List String) :
    (t.setNode p (.file b)).isDirectoryAt place = t.isDirectoryAt place := by
  unfold FileTree.isDirectoryAt
  rw [node?_setNode hne]
  split
  · next hp =>
    rw [hp, hnone]
    rfl
  · rfl

/-- Where nothing was there is a file: a walk that ended there finds it, and one that should go on
from there fails for another reason. Every other walk is the same as before. -/
theorem walk_setNode (links : Nat) (place names : List String) :
    (t.setNode p (.file b)).walk links place names = t.walk links place names ∨
      t.walk links place names = .ok (.absent p) ∧
        (t.setNode p (.file b)).walk links place names = .ok (.found p) ∨
      t.walk links place names = .error .noEntry ∧
        (t.setNode p (.file b)).walk links place names = .error .notDirectory := by
  have hdirs := isDirectoryAt_setNode (b := b) hnone hne
  have hnodes := node?_setNode (t := t) hne b
  have hother : ∀ {place : List String} {n : Node}, t.node? place = some n → place ≠ p := by
    rintro place n hn rfl
    rw [hnone] at hn
    cases hn
  fun_induction FileTree.walk t links place names with
  | case1 links place => exact Or.inl (by rw [FileTree.walk])
  | case2 links place name rest hdir hdot ih =>
    rw [FileTree.walk, hdirs, if_pos hdir, if_pos hdot]
    exact ih
  | case3 links place rest hdir hdot ih =>
    rw [FileTree.walk, hdirs, if_pos hdir, if_neg hdot, if_pos rfl]
    exact ih
  | case4 links place name rest hdir hdot hup hlong =>
    rw [FileTree.walk, hdirs, if_pos hdir, if_neg hdot, if_neg hup, if_pos hlong]
    exact Or.inl rfl
  | case5 links place name rest hdir hdot hup hlong habsent hlast =>
    rw [FileTree.walk, hdirs, if_pos hdir, if_neg hdot, if_neg hup, if_neg hlong, hnodes]
    by_cases hp : place ++ [name] = p
    · rw [if_pos hp]
      obtain rfl := List.isEmpty_iff.mp hlast
      dsimp only
      rw [FileTree.walk, hp]
      exact Or.inr (Or.inl ⟨rfl, rfl⟩)
    · rw [if_neg hp, habsent]
      exact Or.inl (if_pos hlast)
  | case6 links place name rest hdir hdot hup hlong habsent hlast =>
    rw [FileTree.walk, hdirs, if_pos hdir, if_neg hdot, if_neg hup, if_neg hlong, hnodes]
    by_cases hp : place ++ [name] = p
    · rw [if_pos hp]
      have hstop : t.isDirectoryAt p = false := by
        unfold FileTree.isDirectoryAt
        rw [hnone]
        rfl
      obtain ⟨next, rest', rfl⟩ := List.exists_cons_of_ne_nil (mt List.isEmpty_iff.mpr hlast)
      dsimp only
      rw [FileTree.walk, hdirs, hp, hstop]
      exact Or.inr (Or.inr ⟨rfl, rfl⟩)
    · rw [if_neg hp, habsent]
      exact Or.inl (if_neg hlast)
  | case7 place name rest hdir hdot hup hlong target hlink =>
    rw [FileTree.walk, hdirs, if_pos hdir, if_neg hdot, if_neg hup, if_neg hlong, hnodes,
      if_neg (hother hlink), hlink]
    exact Or.inl rfl
  | case8 place name rest hdir hdot hup hlong target hlink links ih =>
    rw [FileTree.walk, hdirs, if_pos hdir, if_neg hdot, if_neg hup, if_neg hlong, hnodes,
      if_neg (hother hlink), hlink]
    exact ih
  | case9 links place name rest hdir hdot hup hlong n hn hnode ih =>
    rw [FileTree.walk, hdirs, if_pos hdir, if_neg hdot, if_neg hup, if_neg hlong, hnodes,
      if_neg (hother hnode), hnode]
    cases n with
    | link target => exact absurd rfl (hn target)
    | file content => exact ih
    | directory => exact ih
  | case10 links place name rest hdir =>
    rw [FileTree.walk, hdirs, if_neg hdir]
    exact Or.inl rfl

theorem follow_setNode (text : String) :
    (t.setNode p (.file b)).follow text = t.follow text ∨
      t.follow text = .ok (.absent p) ∧ (t.setNode p (.file b)).follow text = .ok (.found p) ∨
      t.follow text = .error .noEntry ∧
        (t.setNode p (.file b)).follow text = .error .notDirectory := by
  unfold follow
  by_cases hsize : sizeLimit ≤ text.utf8ByteSize
  · rw [if_pos hsize, if_pos hsize]
    exact Or.inl rfl
  · rw [if_neg hsize, if_neg hsize]
    exact walk_setNode hnone hne _ _ _

/-- A new file does not change the answer to a question that holds of no file. -/
theorem leadsTo_setNode {q : Node → Bool} (hq : q (.file b) = false) (path : Path) :
    (t.setNode p (.file b)).leadsTo q path = t.leadsTo q path := by
  unfold FileTree.leadsTo FileTree.status
  by_cases hnul : path.render.toList.contains '\x00' = true
  · simp only [if_pos hnul]
  · simp only [if_neg hnul]
    rcases follow_setNode (b := b) hnone hne path.render with hsame | ⟨h, h'⟩ | ⟨h, h'⟩
    · rw [hsame]
      cases hfollow : t.follow path.render with
      | error f => rfl
      | ok landing =>
        cases landing with
        | absent place => rfl
        | found place =>
          dsimp only
          rw [node?_setNode hne]
          by_cases hp : place = p
          · rw [if_pos hp, hp, hnone]
            exact congrArg Except.ok hq
          · rw [if_neg hp]
    · rw [h, h']
      dsimp only
      rw [node?_setNode hne, if_pos rfl]
      exact congrArg Except.ok hq
    · rw [h, h']
      rfl

end

/-- A text that is opened for appending leads to an absent name, where a file is made, or to a file
that is there. -/
theorem openAppend_eq_ok {t₁ : FileTree} {text : String} {place : List String}
    (h : t.openAppend text = .ok (t₁, place)) :
    t.follow (t.absoluteText text) = .ok (.absent place) ∧ t₁ = t.setNode place (.file []) ∨
      t.follow (t.absoluteText text) = .ok (.found place) ∧ t₁ = t ∧
        ∃ b, t.node? place = some (.file b) := by
  unfold openAppend at h
  dsimp only at h
  split at h
  · cases h
  · split at h
    · next p hfollow =>
      obtain ⟨rfl, rfl⟩ := Prod.mk.inj (Except.ok.inj h)
      exact Or.inl ⟨hfollow, rfl⟩
    · next p hfollow =>
      split at h
      · next b hnode =>
        obtain ⟨rfl, rfl⟩ := Prod.mk.inj (Except.ok.inj h)
        exact Or.inr ⟨hfollow, rfl, b, hnode⟩
      · cases h
    · cases h

/-- Opening a file for appending does not change where there are directories. -/
theorem isDirectory_openAppend {t₁ : FileTree} {text : String} {place : List String}
    (h : t.openAppend text = .ok (t₁, place)) (path : Path) :
    t₁.isDirectory path = t.isDirectory path := by
  rcases openAppend_eq_ok h with ⟨hfollow, rfl⟩ | ⟨-, rfl, -⟩
  · obtain ⟨hnone, hne⟩ := node?_of_follow_absent hfollow
    exact leadsTo_setNode hnone hne rfl path
  · rfl

/-- Nor does it change what stands at other locations. -/
theorem node?_openAppend_of_ne {t₁ : FileTree} {text : String} {place p : List String}
    (h : t.openAppend text = .ok (t₁, place)) (hp : p ≠ place) : t₁.node? p = t.node? p := by
  rcases openAppend_eq_ok h with ⟨hfollow, rfl⟩ | ⟨-, rfl, -⟩
  · obtain ⟨-, hne⟩ := node?_of_follow_absent hfollow
    rw [node?_setNode hne, if_neg hp]
  · rfl

/-- A text that leads to an absent name makes a file there. -/
theorem openAppend_of_absent (t : FileTree) (text full : String) {p : List String}
    (hfull : t.absoluteText text = full) (hnul : full.toList.contains '\x00' = false)
    (hfollow : t.follow full = .ok (.absent p)) :
    t.openAppend text = .ok (t.setNode p (.file []), p) := by
  unfold openAppend
  simp only [hfull, hnul, hfollow, Bool.false_eq_true, if_false]

/-- A text that leads to a file opens it. -/
theorem openAppend_of_found (t : FileTree) (text full : String) {p : List String} {b : List UInt8}
    (hfull : t.absoluteText text = full) (hnul : full.toList.contains '\x00' = false)
    (hfollow : t.follow full = .ok (.found p)) (hfile : t.node? p = some (.file b)) :
    t.openAppend text = .ok (t, p) := by
  unfold openAppend
  simp only [hfull, hnul, hfollow, hfile, Bool.false_eq_true, if_false]

/-- A path text leads to a file at a location. -/
structure LeadsToFile (t : FileTree) (text : String) (place : List String) : Prop where
  found : t.follow (t.absoluteText text) = .ok (.found place)
  file : ∃ b, t.node? place = some (.file b)

/-- Where a walk found nothing, it finds the file that is put there. -/
theorem follow_setNode_of_absent {text : String} {p : List String} {b : List UInt8}
    (h : t.follow text = .ok (.absent p)) :
    p ≠ [] ∧ (t.setNode p (.file b)).follow text = .ok (.found p) := by
  obtain ⟨hnone, hne⟩ := node?_of_follow_absent h
  refine ⟨hne, ?_⟩
  rcases follow_setNode (b := b) hnone hne text with hsame | ⟨-, hfound⟩ | ⟨herror, -⟩
  · obtain ⟨hstill, -⟩ := node?_of_follow_absent (hsame.trans h)
    rw [node?_setNode hne, if_pos rfl] at hstill
    cases hstill
  · exact hfound
  · rw [h] at herror
    cases herror

/-- A text that was opened for appending leads to the file. -/
theorem leadsToFile_openAppend {t₁ : FileTree} {text : String} {place : List String}
    (h : t.openAppend text = .ok (t₁, place)) : t₁.LeadsToFile text place := by
  rcases openAppend_eq_ok h with ⟨hfollow, rfl⟩ | ⟨hfollow, rfl, hfile⟩
  · obtain ⟨hne, hfound⟩ := follow_setNode_of_absent (b := []) hfollow
    exact ⟨hfound, [], by rw [node?_setNode hne, if_pos rfl]⟩
  · exact ⟨hfollow, hfile⟩

theorem LeadsToFile.place_eq {text : String} {p q : List String} (hp : t.LeadsToFile text p)
    (hq : t.LeadsToFile text q) : p = q :=
  Landing.found.inj (Except.ok.inj (hp.found.symm.trans hq.found))

/-- It leads there whatever the files contain. -/
theorem LeadsToFile.sameShape {text : String} {place : List String} (h : t.LeadsToFile text place)
    (hshape : SameShape t t') : t'.LeadsToFile text place := by
  have htext : t'.absoluteText text = t.absoluteText text := by
    unfold absoluteText
    rw [hshape.current]
  obtain ⟨hfound, b, hnode⟩ := h
  refine ⟨by rw [htext, hshape.follow, hfound], ?_⟩
  rcases hshape.node? place with hsame | ⟨-, b', -, hnode'⟩
  · exact ⟨b, hsame.trans hnode⟩
  · exact ⟨b', hnode'⟩

theorem appendText_of_file {place : List String} {b : List UInt8}
    (h : t.node? place = some (.file b)) (text : String) :
    t.appendText place text = t.setNode place (.file (b ++ Text.encodeUtf8 text)) := by
  unfold appendText
  rw [h]

end VendorLaunch.FileTree
