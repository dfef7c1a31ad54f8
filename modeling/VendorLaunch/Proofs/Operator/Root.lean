import VendorLaunch.Program.Operator
import VendorLaunch.Proofs.Files
import VendorLaunch.Proofs.Pieces

/-!
# The vendor root of the operator's tool

Two programs read the variable that names the vendor root. The launcher trims its text, takes a
blank one for unset and puts a home directory in place of a tilde. The tool takes the text as it
is, unless it is empty. `Operator.prepare_root` says for which texts the two come to the same root:
where no home directory is named, for those that trimming leaves as they are.

A path keeps the blanks of its text (`Path.blanks_ofString`), so trimming that removes some of them
leads to another path.
-/

namespace VendorLaunch

/-! ### Blanks in paths -/

namespace Text

/-- The number of blanks in a text. -/
def blanks (s : List Char) : Nat := s.countP isBlank

/-- Cutting at a character that is no blank loses no blank. -/
theorem blanks_flatten_splitChars {x : Char} (hx : isBlank x = false) (s : List Char) :
    blanks (splitChars [x] s).flatten = blanks s := by
  induction s with
  | nil => rfl
  | cons c s ih =>
    rw [splitChars_cons]
    by_cases hc : x = c
    · subst hc
      rw [if_pos rfl]
      simpa [blanks, hx] using ih
    · rw [if_neg hc]
      cases hps : splitChars [x] s with
      | nil => exact absurd hps (splitFrom_ne_nil [x] 0 s)
      | cons p ps =>
        rw [hps] at ih
        change blanks (c :: (p :: ps).flatten) = blanks (c :: s)
        simp only [blanks, List.countP_cons] at ih ⊢
        rw [ih]

/-- A text that trimming leaves with all its blanks is left as it is. -/
theorem trimChars_eq_self_of_blanks {s : List Char} (h : blanks (trimChars s) = blanks s) :
    trimChars s = s := by
  obtain ⟨l, r, hs, hl, hr⟩ := exists_eq_trimChars s
  have hcount : blanks s = l.length + blanks (trimChars s) + r.length :=
    calc blanks s = blanks (l ++ trimChars s ++ r) := congrArg blanks hs
      _ = _ := by
        simp only [blanks, List.countP_append, List.countP_eq_length.mpr hl,
          List.countP_eq_length.mpr hr]
  obtain rfl : l = [] := List.length_eq_zero_iff.mp (by omega)
  obtain rfl : r = [] := List.length_eq_zero_iff.mp (by omega)
  simpa using hs.symm

end Text

namespace Path

open Text

/-- The number of blanks in the components of a path. -/
def blanks (p : Path) : Nat := Text.blanks (p.parts.flatMap String.toList)

/-- A path keeps the blanks of its text. -/
theorem blanks_ofString (s : String) : (ofString s).blanks = Text.blanks s.toList := by
  have hdropped : ∀ ps : List String,
      Text.blanks ((ps.filter fun p => p ≠ "" && p ≠ ".").flatMap String.toList) =
        Text.blanks (ps.flatMap String.toList) := by
    intro ps
    induction ps with
    | nil => rfl
    | cons p ps ih =>
      simp only [Text.blanks] at ih ⊢
      by_cases hp : (p ≠ "" && p ≠ ".") = true
      · rw [List.filter_cons_of_pos (p := fun q : String => q ≠ "" && q ≠ ".") hp]
        simp only [List.flatMap_cons, List.countP_append, ih]
      · -- what is dropped is empty or a dot, and neither has a blank
        have hnone : p.toList.countP Text.isBlank = 0 := by
          have hcases : p = "" ∨ p = "." := by
            by_cases he : p = ""
            · exact Or.inl he
            · exact Or.inr (by simpa [he] using hp)
          rcases hcases with rfl | rfl
          · decide
          · decide
        rw [List.filter_cons_of_neg (p := fun q : String => q ≠ "" && q ≠ ".") hp]
        simp only [List.flatMap_cons, List.countP_append, ih, hnone, Nat.zero_add]
  have hslash : ("/" : String).toList = ['/'] := by decide
  rw [blanks, ofString, components, hdropped, splitOn, hslash, List.flatMap_map,
    ← blanks_flatten_splitChars (x := '/') (by decide) s.toList]
  simp only [String.toList_ofList, List.flatMap_id']

/-- The components of a text are made of its characters. -/
theorem mem_of_mem_parts {s p : String} {c : Char} (hp : p ∈ (ofString s).parts)
    (hc : c ∈ p.toList) : c ∈ s.toList := by
  have hslash : ("/" : String).toList = ['/'] := by decide
  obtain ⟨hmem, -⟩ := List.mem_filter.mp hp
  rw [splitOn, hslash] at hmem
  obtain ⟨q, hq, rfl⟩ := List.mem_map.mp hmem
  exact (mem_of_mem_splitChars hq (by simpa using hc)).1

/-- A text and its trimming denote one path when trimming leaves the text as it is. -/
theorem ofString_trim_eq_iff {s : String} : ofString (trim s) = ofString s ↔ trim s = s := by
  constructor
  · intro h
    have hblanks := congrArg Path.blanks h
    rw [blanks_ofString, blanks_ofString, toList_trim] at hblanks
    rw [trim, trimChars_eq_self_of_blanks hblanks, String.ofList_toList]
  · intro h
    rw [h]

theorem anchorOf_eq_here_iff {s : List Char} : anchorOf s = .here ↔ s.head? ≠ some '/' := by
  unfold anchorOf
  cases s with
  | nil => simp
  | cons c s =>
    by_cases hc : c = '/'
    · subst hc
      rw [List.takeWhile_cons_of_pos (by decide)]
      split <;> simp_all
    · simp [hc]

/-- A text begins at the current directory when its trimming does: a slash is no blank. -/
theorem anchor_ofString_of_trim {s : String} (h : (ofString (trim s)).anchor = .here) :
    (ofString s).anchor = .here := by
  simp only [ofString, anchorOf_eq_here_iff, toList_trim] at h ⊢
  intro hs
  apply h
  cases hcs : s.toList with
  | nil =>
    rw [hcs] at hs
    cases hs
  | cons c cs =>
    rw [hcs] at hs
    obtain rfl : c = '/' := Option.some.inj hs
    have hleft : trimLeft ('/' :: cs) = '/' :: cs := trimLeft_eq_self (by simp; decide)
    rw [trimChars, hleft, trimRight]
    split <;> rfl

/-- The path begins with the home directory of a user, named by a tilde. -/
def NamesHome (p : Path) : Prop :=
  p.anchor = .here ∧ ∃ first name rest, p.parts = first :: rest ∧ first.toList = '~' :: name

end Path

namespace Installation

variable {i : Installation} {env : Env} {settings : Settings}

/-- A path that names no home directory stays as it is. -/
theorem expandHome_of_not_namesHome {p : Path} (h : ¬p.NamesHome) : i.expandHome p = .ok p := by
  unfold expandHome
  split
  · next first rest hanchor hparts =>
    split
    · next name hfirst => exact absurd ⟨hanchor, first, name, rest, hparts, hfirst⟩ h
    · rfl
  · rfl

theorem vendorRoot_of_settings (h : i.settings env = .ok settings) :
    i.vendorRoot env = .ok settings.vendorRoot := by
  unfold Installation.settings at h
  cases hroot : i.vendorRoot env with
  | error f =>
    rw [hroot] at h
    cases h
  | ok root =>
    rw [hroot] at h
    obtain rfl := Except.ok.inj h
    rfl

end Installation

namespace Operator

open CommandLine

variable {t : FileTree} {i : Installation} {env : Env} {args rest : List String}
  {g : GlobalChoices} {r : Reading Key} {settings : Settings} {s s' : Session} {root : Path}

/-- Without an option the chosen root is the text of the variable, as it stands there. -/
theorem root_readTool (hread : readTool t env args = .ok (g, rest)) (hr : tool.read args = .ok r)
    (hflag : r.value? .vendorRoot = none) :
    g.root = (rawVariable? env vendorRootVar).map Path.ofString := by
  have hchosen : chosenRoot t env r = .ok g.root := by
    unfold readTool at hread
    split at hread
    · cases hread
    · rw [hr] at hread
      simp only at hread
      split at hread
      · cases hread
      · split at hread
        · cases hread
        · next root heq =>
          obtain ⟨rfl, -⟩ := Prod.mk.inj (Except.ok.inj hread)
          exact heq
  unfold chosenRoot valueOrVariable? at hchosen
  rw [hflag] at hchosen
  simp only at hchosen
  cases hraw : rawVariable? env vendorRootVar with
  | none =>
    rw [hraw] at hchosen
    exact (Except.ok.inj hchosen).symm
  | some text =>
    rw [hraw] at hchosen
    simp only [rootOf] at hchosen
    split at hchosen
    · cases hchosen
    · split at hchosen
      · cases hchosen
      · exact (Except.ok.inj hchosen).symm

/-- The root of a subcommand is the chosen one, or that of the settings. -/
theorem rootOr_of_prepare (hset : i.settings env = .ok settings)
    (hprep : prepare i env g s = (s', .ok root)) : root = g.rootOr settings := by
  unfold prepare at hprep
  rw [hset] at hprep
  simp only at hprep
  split at hprep
  · cases (Prod.mk.inj hprep).2
  · exact (Except.ok.inj (Prod.mk.inj hprep).2).symm

/-- The launcher's root for a text that is not blank. -/
theorem expandHome_of_settings {text : String} (hset : i.settings env = .ok settings)
    (hraw : rawVariable? env vendorRootVar = some text) :
    Text.trim text = "" ∧ settings.vendorRoot = i.defaultRoot ∨
      Text.trim text ≠ "" ∧ i.expandHome (.ofString (Text.trim text)) = .ok settings.vendorRoot := by
  have hroot := Installation.vendorRoot_of_settings hset
  have hfind : Table.find? vendorRootVar env = some text := by
    unfold rawVariable? at hraw
    split at hraw
    · next v heq =>
      split at hraw
      · cases hraw
      · rw [heq, Option.some.inj hraw]
    · cases hraw
  unfold Installation.vendorRoot Env.setting? at hroot
  rw [hfind] at hroot
  by_cases hblank : Text.trim text = ""
  · refine Or.inl ⟨hblank, ?_⟩
    simp only [if_pos hblank] at hroot
    exact (Except.ok.inj hroot).symm
  · refine Or.inr ⟨hblank, ?_⟩
    simpa only [if_neg hblank] using hroot

/-- The root that comes with an installation is not denoted by a blank text. -/
theorem defaultRoot_ne_of_blank {text : String} (hblank : Text.trim text = "") :
    Path.ofString text ≠ i.defaultRoot := by
  intro h
  have hall : ∀ c ∈ text.toList, Text.isBlank c = true := by
    rw [← Text.trimChars_eq_nil_iff, ← Text.toList_trim, hblank]
    rfl
  have hvendor : "vendor" ∈ i.defaultRoot.parts := by
    have hparts : Path.ofString "vendor" = ⟨.here, ["vendor"]⟩ := by rfl
    rw [Installation.defaultRoot, Path.join, hparts, Path.append_of_here rfl]
    exact List.mem_append_right _ (List.mem_singleton.mpr rfl)
  rw [← h] at hvendor
  have hv : Text.isBlank 'v' = true :=
    hall _ (Path.mem_of_mem_parts hvendor (by decide))
  exact absurd hv (by decide)

/-- An installation whose user has a home directory. -/
def homeInstallation : Installation where
  package := ⟨.root, ["opt"]⟩
  home := some "/home/user"
  accounts := []

/-- A session without files. -/
def bareSession : Session where
  tree := ⟨[], []⟩
  seconds := 0
  process := 1

/-- The choices of a run that is given nothing but a subcommand and a text for the root. -/
def choicesFor (text : String) : GlobalChoices := ⟨false, false, false, some (.ofString text)⟩

theorem read_which : tool.read ["which"] = .ok ⟨[], ["which"]⟩ := by rfl

theorem readTool_which (text : String) (hne : text ≠ "")
    (hnul : text.toList.contains '\x00' = false)
    (habsent : bareSession.tree.directStatus text = some (.error .noEntry)) :
    readTool bareSession.tree [(vendorRootVar, text)] ["which"] =
      .ok (choicesFor text, ["which"]) := by
  have hroot : chosenRoot bareSession.tree [(vendorRootVar, text)] ⟨[], ["which"]⟩ =
      .ok (some (.ofString text)) := by
    have hvalue : valueOrVariable? ⟨[], ["which"]⟩ Key.vendorRoot [(vendorRootVar, text)]
        vendorRootVar = some text := if_neg hne
    rw [chosenRoot, hvalue]
    simp only [rootOf, hnul, Bool.false_eq_true, if_false,
      FileTree.status_of_directStatus habsent]
    rfl
  unfold readTool
  rw [read_which]
  simp only [hroot]
  rfl

/-- The settings of an environment that holds nothing but a text for the root. -/
def settingsAt (root : Path) : Settings := ⟨root, none, defaultLogLevel, none, none⟩

/-- A run without a log file is prepared whatever its root. -/
theorem prepare_bareSession {text : String} {root : Path}
    (hset : homeInstallation.settings [(vendorRootVar, text)] = .ok (settingsAt root)) :
    ∃ s', prepare homeInstallation [(vendorRootVar, text)] (choicesFor text) bareSession =
      (s', .ok (.ofString text)) := by
  unfold prepare
  rw [hset]
  exact ⟨_, rfl⟩

/-- Without an option for it, the tool works on the root that the launcher launches from as long as
the variable is absent or empty. Otherwise the tool takes the text of the variable as it stands
there. It is the launcher's root exactly when trimming leaves the text as it is, unless the text
names a home directory, which the launcher puts in its place and the tool does not. -/
theorem prepare_root (hread : readTool t env args = .ok (g, rest)) (hr : tool.read args = .ok r)
    (hflag : r.value? .vendorRoot = none) (hset : i.settings env = .ok settings)
    (hprep : prepare i env g s = (s', .ok root)) :
    (rawVariable? env vendorRootVar = none → root = settings.vendorRoot) ∧
    ∀ text, rawVariable? env vendorRootVar = some text →
      root = .ofString text ∧
      (¬(Path.ofString (Text.trim text)).NamesHome →
        (root = settings.vendorRoot ↔ Text.trim text = text)) ∧
      ((Path.ofString (Text.trim text)).NamesHome → settings.vendorRoot.isAbsolute = true →
        root ≠ settings.vendorRoot) := by
  have hroot := rootOr_of_prepare hset hprep
  have hchosen := root_readTool hread hr hflag
  refine ⟨fun hraw => ?_, fun text hraw => ?_⟩
  · rw [hroot, GlobalChoices.rootOr, hchosen, hraw]
    rfl
  · have htext : root = .ofString text := by
      rw [hroot, GlobalChoices.rootOr, hchosen, hraw]
      rfl
    refine ⟨htext, fun hnot => ?_, fun ⟨hhere, _⟩ habs h => ?_⟩
    · rcases expandHome_of_settings hset hraw with ⟨hblank, hdefault⟩ | ⟨-, hexpand⟩
      · have hne : text ≠ "" := by
          rintro rfl
          unfold rawVariable? at hraw
          split at hraw
          · split at hraw
            · cases hraw
            · next hv => exact hv (Option.some.inj hraw)
          · cases hraw
        rw [htext, hdefault, hblank]
        exact iff_of_false (defaultRoot_ne_of_blank hblank) (Ne.symm hne)
      · rw [Installation.expandHome_of_not_namesHome hnot] at hexpand
        rw [htext, ← Except.ok.inj hexpand, eq_comm]
        exact Path.ofString_trim_eq_iff
    · have hanchor : settings.vendorRoot.anchor = .here := by
        rw [← h, htext]
        exact Path.anchor_ofString_of_trim hhere
      rw [Path.isAbsolute, hanchor] at habs
      exact absurd habs (by decide)

/-- A text between blanks is one that trimming changes: the tool looks below ` v ` for what the
launcher runs below `v`. -/
theorem prepare_root_padded :
    ∃ settings s' root, homeInstallation.settings [(vendorRootVar, " v ")] = .ok settings ∧
      prepare homeInstallation [(vendorRootVar, " v ")] (choicesFor " v ") bareSession =
        (s', .ok root) ∧
      root = .ofString " v " ∧ root ≠ settings.vendorRoot := by
  have hset : homeInstallation.settings [(vendorRootVar, " v ")] =
      .ok (settingsAt ⟨.here, ["v"]⟩) := by rfl
  obtain ⟨s', hprep⟩ := prepare_bareSession hset
  have hread := readTool_which " v " (by decide) (by decide) (by rfl)
  obtain ⟨-, htexts⟩ := prepare_root hread read_which rfl hset hprep
  obtain ⟨hroot, hiff, -⟩ := htexts " v " rfl
  refine ⟨_, s', _, hset, hprep, hroot, fun h => ?_⟩
  have hplain : Path.ofString (Text.trim " v ") = ⟨.here, ["v"]⟩ := by rfl
  have hnames : ¬(Path.ofString (Text.trim " v ")).NamesHome := by
    rw [hplain]
    rintro ⟨-, first, name, rest, hparts, hfirst⟩
    obtain ⟨rfl, -⟩ := List.cons.inj hparts
    cases hfirst
  exact absurd ((hiff hnames).mp h) (by decide)

/-- The two programs do not always work on the same root: a tilde is a directory of that name to the
tool and the home directory to the launcher. -/
theorem not_forall_prepare_root_eq :
    ¬∀ (i : Installation) (env : Env) (args rest : List String) (g : GlobalChoices)
      (r : Reading Key) (settings : Settings) (s s' : Session) (root : Path),
      readTool s.tree env args = .ok (g, rest) → tool.read args = .ok r →
      r.value? .vendorRoot = none → i.settings env = .ok settings →
      prepare i env g s = (s', .ok root) → root = settings.vendorRoot := by
  intro h
  have hset : homeInstallation.settings [(vendorRootVar, "~/v")] =
      .ok (settingsAt ⟨.root, ["home", "user", "v"]⟩) := by rfl
  obtain ⟨s', hprep⟩ := prepare_bareSession hset
  have hread := readTool_which "~/v" (by decide) (by decide) (by rfl)
  have hroot := h _ _ _ _ _ _ _ _ _ _ hread read_which rfl hset hprep
  exact absurd hroot (by decide)

end Operator

end VendorLaunch
