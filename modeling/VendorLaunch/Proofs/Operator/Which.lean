import VendorLaunch.Program.Operator
import VendorLaunch.Proofs.Launch.SearchPath
import VendorLaunch.Proofs.Launch.Trace
import VendorLaunch.Proofs.Output

/-!
# What the tool says would be run

The tool resolves, searches and checks on its own to show which binary the launcher would run. A
launch below the same root does the same three steps and goes on. Here the two are compared:
`Operator.which_agrees` says that the tool shows a build exactly when the launch attempts to start a
child, that what it shows is the program of this child and the directory put in front of its search
path, and that the tool and the launch fail alike.

JSON shows the texts as they are. Lines leave out the style sequences of terminals, so a root with
such a sequence in its name is shown without it (`Operator.not_forall_which_shows_program`).
-/

namespace VendorLaunch.Operator

open Logged

/-! ### What is shown -/

/-- The directory that is put in front of the search path. -/
def helperDir (b : Build) (has : Bool) : Option String := if has then some b.helpers.render else none

/-- What is shown of the build for a triple with a helper directory or none. -/
def shownBuild (json : Bool) (triple binary : String) (dir : Option String) : String :=
  if json then
    Json.render Json.indented 0 (record [("ok", .bool true), ("triple", .text triple),
      ("binary", .text binary), ("path_dir", Platform.optionText dir)]) ++ "\n"
  else
    Text.plain binary ++ "\n" ++ match dir with
      | some d => Text.plain ("  PATH += " ++ d) ++ "\n"
      | none => ""

/-- A session `s'` shows a failure that the session `s` had not met: in its output as JSON, or at
the end of its messages. -/
def ShowsFailure (json : Bool) (s s' : Session) (e : Failure) : Prop :=
  if json then
    s'.out = s.out ++ Json.render Json.indented 0
      (record [("ok", .bool false), ("error", .text e.message)]) ++ "\n"
  else s'.out = s.out ∧ ∃ before, s'.err = before ++ Text.plain (failureLine e) ++ "\n"

/-- Lines of output. -/
def lines (ls : List String) : String := String.join (ls.map (· ++ "\n"))

/-- What is shown of a platform and its candidate triples. -/
def shownTargets (json : Bool) (key : Platform) (triples : List String) : String :=
  if json then
    Json.render Json.indented 0 (record [("platform", key.toData), ("targets", textList triples)]) ++
      "\n"
  else Text.plain ("Platform: " ++ key.render) ++ "\n" ++ lines (numbered 1 triples)

theorem out_foldl_print {ls : List String} (h : ∀ l ∈ ls, '\x1b' ∉ l.toList) (s : Session) :
    (ls.foldl Session.print s).out = s.out ++ lines ls := by
  induction ls generalizing s with
  | nil => simp [lines]
  | cons l ls ih =>
    obtain ⟨hl, hls⟩ := List.forall_mem_cons.mp h
    rw [List.foldl_cons, ih hls, Session.print, Text.plain_of_notMem hl]
    simp only [lines, List.map_cons, String.join_cons, String.append_assoc]

/-- JSON is printed as it is. -/
theorem out_printJson (s : Session) (fields : List (String × Data)) :
    (printJson s Json.indented fields).out =
      s.out ++ Json.render Json.indented 0 (record fields) ++ "\n" :=
  s.out_print_render _ _

variable {host : Host} {root : Path} {s : Session} {b : Build} {has : Bool} {e : Failure}
  {f : Fault} (json : Bool)

/-! ### The tool -/

/-- The log has no part in whether there are helper executables. -/
theorem hasHelpers_noteAll (b : Build) (s : Session) (rs : List LogRecord) :
    b.hasHelpers (s.noteAll rs).tree = b.hasHelpers s.tree :=
  (s.sameShape_noteAll rs).leadsTo (fun _ _ => rfl) b.helpers

/-- A selected build is shown with its helper directory. -/
theorem which_of_ok (hsel : (selectOn s.tree host root s.reading).result = .ok b)
    (hhas : b.hasHelpers s.tree = .ok has) :
    (which host root json s).2 = .exit 0 ∧ (which host root json s).1.out =
      s.out ++ shownBuild json b.triple b.binary.render (helperDir b has) := by
  have hseen := hasHelpers_noteAll b s (selectOn s.tree host root s.reading).log
  unfold which printBuild
  simp only [hsel]
  cases json with
  | true =>
    have hdir : Platform.optionText (helperDir b has) =
        if has = true then .text b.helpers.render else .null := by
      cases has with
      | true => rfl
      | false => rfl
    simp only [if_true, hseen, hhas, out_printJson, Session.out_noteAll, shownBuild, hdir,
      String.append_assoc, and_self]
  | false =>
    simp only [Bool.false_eq_true, if_false, Session.tree_print, hseen, hhas, shownBuild]
    cases has with
    | true =>
      simp only [if_true, Session.print, Session.out_noteAll, helperDir, String.append_assoc,
        and_self]
    | false =>
      simp only [Bool.false_eq_true, if_false, Session.print, Session.out_noteAll, helperDir,
        String.append_assoc, String.append_empty, and_self]

/-- A selected build whose helper directory cannot be looked at ends the run. -/
theorem which_of_unseen (hsel : (selectOn s.tree host root s.reading).result = .ok b)
    (hhas : b.hasHelpers s.tree = .error f) :
    (which host root json s).2 = .failed (.fault f) := by
  have hseen := hasHelpers_noteAll b s (selectOn s.tree host root s.reading).log
  unfold which printBuild
  simp only [hsel]
  cases json with
  | true => simp only [if_true, hseen, hhas]
  | false => simp only [Bool.false_eq_true, if_false, Session.tree_print, hseen, hhas]

/-- A failure of the launcher's own is shown. -/
theorem which_of_error (hsel : (selectOn s.tree host root s.reading).result = .error e)
    (hown : e.isLauncherError = true) :
    (which host root json s).2 = .exit 1 ∧ ShowsFailure json s (which host root json s).1 e := by
  unfold which
  simp only [hsel, hown, if_true, refuse, ShowsFailure]
  cases json with
  | true =>
    simp only [if_true, out_printJson, Session.out_noteAll, and_self]
  | false =>
    simp only [Bool.false_eq_true, if_false, Session.out_complain, Session.out_noteAll, true_and]
    exact ⟨_, rfl⟩

/-- Any other failure ends the run. -/
theorem which_of_fault (hsel : (selectOn s.tree host root s.reading).result = .error e)
    (hown : e.isLauncherError = false) : (which host root json s).2 = .failed e := by
  unfold which
  simp only [hsel, hown, Bool.false_eq_true, if_false]

/-- The lines for the candidates of a packaged rule have no escape character. -/
theorem esc_notMem_numbered {rule : Rule} (hrule : rule ∈ Catalog.packaged.rules)
    (libc : Option Libc) : ∀ l ∈ numbered 1 (rule.triplesFor libc), '\x1b' ∉ l.toList := by
  have hall : ∀ libc ∈ [none, some Libc.gnu, some Libc.musl], ∀ rule ∈ Catalog.packaged.rules,
      ∀ l ∈ numbered 1 (rule.triplesFor libc), '\x1b' ∉ l.toList := by decide +kernel
  refine hall libc ?_ rule hrule
  rcases libc with - | - | -
  · simp
  · simp
  · simp

/-- All candidates of the platform are shown, the most preferred first. -/
theorem targets_of_ok {key : Platform} {triples : List String}
    (hkey : host.detect.result = .ok key)
    (hres : (Catalog.packaged.resolve key).result = .ok triples) :
    (targets host json s).2 = .exit 0 ∧
      (targets host json s).1.out = s.out ++ shownTargets json key triples := by
  obtain ⟨rule, hrule, rfl⟩ := Catalog.resolve_eq_ok_iff.mp hres
  unfold targets
  simp only [hkey, hres, shownTargets]
  cases json with
  | true =>
    simp only [if_true, out_printJson, Session.out_noteAll, String.append_assoc, and_self]
  | false =>
    have hesc := esc_notMem_numbered (List.mem_of_find?_eq_some hrule) key.libc
    simp only [Bool.false_eq_true, if_false, out_foldl_print hesc, Session.print,
      Session.out_noteAll, String.append_assoc, and_self]

/-! ### The launch -/

/-- The launch of a packaged build below a root. -/
def launching (root : Path) (args : List String) (env : Env) : LaunchRequest where
  args := args
  root := some root
  key := none
  env := env
  catalog := .packaged

variable {site : Site} {key : Platform} {w : Surroundings} {rs : List LogRecord}
  (args : List String) (env : Env)

theorem selectOn_eq (t : FileTree) (rs : List LogRecord) (hkey : host.detect.result = .ok key) :
    (selectOn t host root rs).result = (Catalog.packaged.select t root key).result := by
  unfold selectOn
  rw [result_bind, hkey, ok_bind, result_noteAll_bind]

/-- A launch is planned with the build that the tool selects. -/
theorem plan_of_ok (hsel : (selectOn site.tree site.host root rs).result = .ok b)
    (hhas : b.hasHelpers site.tree = .ok has) :
    ((launching root args env).plan site).result = .ok {
      binary := b.binary
      args := args
      env := environmentWith (helperDir b has).toList env ((launching root args env).managerAt site)
      } := by
  obtain ⟨key, hkey⟩ := site.host.exists_detect
  rw [selectOn_eq _ _ hkey] at hsel
  have hdirs : (helperDir b has).toList = b.helperDirs has := by
    cases has with
    | true => rfl
    | false => rfl
  rw [hdirs]
  exact LaunchRequest.plan_eq_ok_iff.mpr
    ⟨root, key, b, _, rfl, hkey, hsel, Build.environment_eq_ok hhas _ _, rfl⟩

variable {args env}

/-- A launch has no plan when nothing is selected, or when it cannot be seen whether there are
helpers. -/
theorem plan_launching_eq_error_iff (hkey : site.host.detect.result = .ok key) :
    ((launching root args env).plan site).result = .error e ↔
      (Catalog.packaged.select site.tree root key).result = .error e ∨
      ∃ b f, (Catalog.packaged.select site.tree root key).result = .ok b ∧
        b.hasHelpers site.tree = .error f ∧ e = .fault f :=
  LaunchRequest.plan_eq_error_iff (r := launching root args env) rfl hkey

theorem plan_of_error (hsel : (selectOn site.tree site.host root rs).result = .error e) :
    ((launching root args env).plan site).result = .error e := by
  obtain ⟨key, hkey⟩ := site.host.exists_detect
  rw [selectOn_eq _ _ hkey] at hsel
  exact (plan_launching_eq_error_iff hkey).mpr (Or.inl hsel)

theorem plan_of_unseen (hsel : (selectOn site.tree site.host root rs).result = .ok b)
    (hhas : b.hasHelpers site.tree = .error f) :
    ((launching root args env).plan site).result = .error (.fault f) := by
  obtain ⟨key, hkey⟩ := site.host.exists_detect
  rw [selectOn_eq _ _ hkey] at hsel
  exact (plan_launching_eq_error_iff hkey).mpr (Or.inr ⟨b, f, hsel, hhas, rfl⟩)

/-- A launch that misses a binary does so for the candidates of its platform. -/
theorem resolve_of_missing {triples : List String} {root' : Path}
    (hkey : site.host.detect.result = .ok key)
    (herr : ((launching root args env).run site w.boot).2 = .error (.missingBinary triples root')) :
    root' = root ∧ (Catalog.packaged.resolve key).result = .ok triples := by
  cases hplan : ((launching root args env).plan site).result with
  | ok child =>
    rw [LaunchRequest.run_of_ok hplan] at herr
    rcases Machine.superviseChild_eq_error herr with ⟨f, hf⟩ | ⟨b, f, hf⟩
    · cases hf
    · cases hf
  | error e =>
    rw [LaunchRequest.run_of_error hplan] at herr
    obtain rfl := Except.error.inj herr
    rcases (plan_launching_eq_error_iff hkey).mp hplan with hsel | ⟨b, f, -, -, hf⟩
    · rcases Catalog.select_eq_error_iff.mp hsel with hres | ⟨ts, hres, hdisc | ⟨b, -, -, hb⟩⟩
      · obtain ⟨-, hres⟩ := Catalog.resolve_eq_error_iff.mp hres
        cases hres
      · rcases Catalog.discoverFrom_eq_error_iff.mp hdisc with ⟨-, hmiss⟩ | ⟨_, _, _, _, -, -, -, hf⟩
        · obtain ⟨rfl, rfl⟩ := Failure.missingBinary.inj hmiss
          exact ⟨rfl, hres⟩
        · cases hf
      · cases hb
    · cases hf

/-! ### The two agree -/

/-- What is told of the build to be run below a root agrees with the run of a launch below it, on a
platform `key`. -/
structure Agrees (site : Site) (root : Path) (args : List String) (env : Env) (json : Bool)
    (s : Session) (key : Platform) (told : Session × Ending)
    (run : Machine × Except Failure Termination) : Prop where
  /-- A build is told exactly when the launch attempts to start a child. -/
  succeeds : told.2 = .exit 0 ↔ ∃ argv childEnv, .spawned argv childEnv ∈ run.1.events
  /-- The child is the first candidate whose binary exists. What is told is its program, which the
  launch runs with the arguments, and the directory that the launch puts in front of the search
  path, if it does. -/
  shows : ∀ argv childEnv, .spawned argv childEnv ∈ run.1.events →
    ∃ before triple after dir,
      (Catalog.packaged.resolve key).result = .ok (before ++ triple :: after) ∧
      (∀ t ∈ before, (Catalog.packaged.build root t).present site.tree = .ok false) ∧
      (Catalog.packaged.build root triple).present site.tree = .ok true ∧
      argv = (Catalog.packaged.build root triple).binary.render :: args ∧
      told.1.out = s.out ++
        shownBuild json triple (Catalog.packaged.build root triple).binary.render dir ∧
      Table.find? pathVar childEnv = some
        (searchEntries pathSeparator dir.toList ((Table.find? pathVar env).getD ""))
  /-- A failure of the launcher's own that keeps the launch from starting a child is told. -/
  tells : ∀ e, e.isLauncherError = true → run.2 = .error e →
    (∀ argv childEnv, .spawned argv childEnv ∉ run.1.events) →
    told.2 = .exit 1 ∧ ShowsFailure json s told.1 e
  /-- A failure that is told is that of the launch, of which there are no events. -/
  raises : told.2 = .exit 1 → ∃ e, e.isLauncherError = true ∧ run.2 = .error e ∧
    run.1.events = [] ∧ ShowsFailure json s told.1 e
  /-- So is a failure that is not handled. -/
  fails : ∀ e, told.2 = .failed e → run.2 = .error e ∧ run.1.events = []
  /-- The candidates that a launch misses are those of the platform. -/
  misses : ∀ triples root', run.2 = .error (.missingBinary triples root') →
    root' = root ∧ (Catalog.packaged.resolve key).result = .ok triples

/-- With a plan a build is told and a child is started. -/
theorem agrees_of_ok (htree : site.tree = s.tree) (hi : w.RefusesInstalls)
    (hkey : site.host.detect.result = .ok key)
    (hsel : (selectOn s.tree site.host root s.reading).result = .ok b)
    (hhas : b.hasHelpers s.tree = .ok has) :
    Agrees site root args env json s key (which site.host root json s)
      ((launching root args env).run site w.boot) := by
  obtain ⟨hexit, hout⟩ := which_of_ok json hsel hhas
  rw [← htree] at hsel hhas
  have hplan := plan_of_ok args env hsel hhas
  have hmem := LaunchRequest.mem_run_of_ok hi hplan
  rw [selectOn_eq _ _ hkey] at hsel
  obtain ⟨triples, hres, hdisc, -⟩ := Catalog.select_eq_ok_iff.mp hsel
  obtain ⟨before, triple, after, rfl, hbefore, hp, rfl⟩ := Catalog.discoverFrom_eq_ok_iff.mp hdisc
  refine ⟨iff_of_true hexit ⟨_, _, hmem⟩, fun argv childEnv hspawned => ?_, fun e _ herr hnone => ?_,
    fun h => ?_, fun e h => ?_, fun _ _ herr => resolve_of_missing hkey herr⟩
  · obtain ⟨child, hchild, rfl, rfl⟩ := LaunchRequest.spawned_run hspawned
    obtain rfl := Except.ok.inj (hplan.symm.trans hchild)
    refine ⟨before, triple, after, _, hres, hbefore, hp, ?_, hout, find?_environmentWith ..⟩
    rw [Child.argv]
  · exact absurd hmem (hnone _ _)
  · rw [hexit] at h
    cases h
  · rw [hexit] at h
    cases h

/-- Without a plan the tool and the launch fail alike: the tool with a message when the failure is
the launcher's own. -/
theorem agrees_of_error (hkey : site.host.detect.result = .ok key)
    (hplan : ((launching root args env).plan site).result = .error e)
    (hown : e.isLauncherError = true → (which site.host root json s).2 = .exit 1 ∧
      ShowsFailure json s (which site.host root json s).1 e)
    (hforeign : e.isLauncherError = false → (which site.host root json s).2 = .failed e) :
    Agrees site root args env json s key (which site.host root json s)
      ((launching root args env).run site w.boot) := by
  have hrun := LaunchRequest.run_of_error hplan w.boot
  have hquiet : ∀ argv childEnv, .spawned argv childEnv ∉
      ((launching root args env).run site w.boot).1.events := by
    rw [hrun]
    exact fun _ _ => List.not_mem_nil
  have hraised : ((launching root args env).run site w.boot).2 = .error e := by rw [hrun]
  have hevents : ((launching root args env).run site w.boot).1.events = [] := by
    rw [hrun]
    rfl
  cases he : e.isLauncherError with
  | true =>
    obtain ⟨hexit, hshown⟩ := hown he
    refine ⟨iff_of_false ?_ fun ⟨_, _, hmem⟩ => hquiet _ _ hmem,
      fun _ _ hmem => absurd hmem (hquiet _ _), fun e' _ herr _ => ?_,
      fun _ => ⟨e, he, hraised, hevents, hshown⟩, fun e' h => ?_,
      fun _ _ herr => resolve_of_missing hkey herr⟩
    · rw [hexit]
      exact fun h => absurd (Ending.exit.inj h) (by decide)
    · obtain rfl := Except.error.inj (hraised.symm.trans herr)
      exact ⟨hexit, hshown⟩
    · rw [hexit] at h
      cases h
  | false =>
    have hfailed := hforeign he
    refine ⟨iff_of_false ?_ fun ⟨_, _, hmem⟩ => hquiet _ _ hmem,
      fun _ _ hmem => absurd hmem (hquiet _ _), fun e' hown' herr _ => ?_, fun h => ?_,
      fun e' h => ?_, fun _ _ herr => resolve_of_missing hkey herr⟩
    · rw [hfailed]
      exact Ending.noConfusion
    · obtain rfl := Except.error.inj (hraised.symm.trans herr)
      rw [he] at hown'
      cases hown'
    · rw [hfailed] at h
      cases h
    · rw [hfailed] at h
      obtain rfl := Ending.failed.inj h
      exact ⟨hraised, hevents⟩

/-- On the same files, the same host and the same root, what the tool tells of the build to be run
agrees with what a launch does, whatever the surroundings refuse to the launch, and the candidates
that the tool shows are those that both of them try. -/
theorem which_agrees (htree : site.tree = s.tree) (hi : w.RefusesInstalls) (root : Path)
    (args : List String) (env : Env) (json : Bool) :
    ∃ key, site.host.detect.result = .ok key ∧
      Agrees site root args env json s key (which site.host root json s)
        ((launching root args env).run site w.boot) ∧
      ∀ triples, (Catalog.packaged.resolve key).result = .ok triples →
        (targets site.host json s).2 = .exit 0 ∧
          (targets site.host json s).1.out = s.out ++ shownTargets json key triples := by
  obtain ⟨key, hkey⟩ := site.host.exists_detect
  refine ⟨key, hkey, ?_, fun triples hres => targets_of_ok json hkey hres⟩
  cases hsel : (selectOn s.tree site.host root s.reading).result with
  | error e =>
    exact agrees_of_error json hkey (plan_of_error (htree ▸ hsel)) (which_of_error json hsel)
      (which_of_fault json hsel)
  | ok b =>
    cases hhas : b.hasHelpers s.tree with
    | error f =>
      refine agrees_of_error json hkey (plan_of_unseen (htree ▸ hsel) (htree ▸ hhas)) (fun hown => ?_)
        fun _ => which_of_unseen json hsel hhas
      cases hown
    | ok has => exact agrees_of_ok json htree hi hkey hsel hhas

/-- A session on the files of an installation. -/
def sessionAt (site : Site) : Session := { tree := site.tree, seconds := 0, process := 1 }

theorem selectOn_muslOnly :
    (selectOn Site.muslOnly.tree Site.muslOnly.host Site.muslOnlyRoot []).result =
      .ok Site.muslOnlyBuild := by
  rw [selectOn_eq _ _ Site.detect_muslOnly]
  exact Site.select_muslOnly

/-- Where the musl build alone is installed, the tool tells its binary and the launch runs it. -/
theorem which_agrees_muslOnly :
    ∃ triple program dir childEnv, .spawned [program, "--help"] childEnv ∈
        ((launching Site.muslOnlyRoot ["--help"] []).run Site.muslOnly
          (World.surroundings {}).boot).1.events ∧
      (which Site.muslOnly.host Site.muslOnlyRoot true (sessionAt Site.muslOnly)).1.out =
        "" ++ shownBuild true triple program dir := by
  have hi : (World.surroundings {}).RefusesInstalls := World.refusesInstalls (by decide)
  have htree : Site.muslOnly.tree = (sessionAt Site.muslOnly).tree := rfl
  obtain ⟨key, -, hagrees, -⟩ := which_agrees htree hi Site.muslOnlyRoot ["--help"] [] true
  obtain ⟨argv, childEnv, hmem⟩ := hagrees.succeeds.mp
    (which_of_ok (s := sessionAt Site.muslOnly) true selectOn_muslOnly Site.hasHelpers_muslOnly).1
  obtain ⟨_, triple, _, dir, -, -, -, rfl, hout, -⟩ := hagrees.shows argv childEnv hmem
  exact ⟨triple, _, dir, childEnv, hmem, hout⟩

/-- A glibc system on which the vendor root has a style sequence in its name. -/
def styled : Site where
  installation := Site.muslOnly.installation
  host := {}
  tree :=
    { current := []
      nodes := [(["a\x1b[31mb"], .directory),
        (["a\x1b[31mb", "x86_64-unknown-linux-gnu"], .directory),
        (["a\x1b[31mb", "x86_64-unknown-linux-gnu", "codex"], .directory),
        (["a\x1b[31mb", "x86_64-unknown-linux-gnu", "codex", "codex"], .file [])] }

/-- The vendor root with a style sequence in its name. -/
def styledRoot : Path := ⟨.root, ["a\x1b[31mb"]⟩

/-- The build below that root. -/
def styledBuild : Build where
  triple := "x86_64-unknown-linux-gnu"
  root := ⟨.root, ["a\x1b[31mb", "x86_64-unknown-linux-gnu"]⟩
  binary := ⟨.root, ["a\x1b[31mb", "x86_64-unknown-linux-gnu", "codex", "codex"]⟩
  helpers := ⟨.root, ["a\x1b[31mb", "x86_64-unknown-linux-gnu", "path"]⟩

theorem selectOn_styled :
    (selectOn styled.tree styled.host styledRoot []).result = .ok styledBuild := by
  have hbuild : Catalog.packaged.build styledRoot "x86_64-unknown-linux-gnu" = styledBuild := by
    rfl
  have hpresent : styledBuild.present styled.tree = .ok true :=
    Build.present_of_glance (by rfl)
  have hkey : styled.host.detect.result = .ok Site.muslOnlyKey := Site.detect_muslOnly
  rw [selectOn_eq _ _ hkey]
  refine Catalog.select_eq_ok_iff.mpr
    ⟨["x86_64-unknown-linux-gnu", "x86_64-unknown-linux-musl"], ?_, ?_, by rfl⟩
  · exact Catalog.resolve_eq_ok_iff.mpr
      ⟨.ofPair ["linux", "android"] "x64" "x86_64-unknown-linux-gnu" "x86_64-unknown-linux-musl",
        by decide, by decide⟩
  · refine Catalog.discoverFrom_eq_ok_iff.mpr
      ⟨[], "x86_64-unknown-linux-gnu", _, rfl, by simp, ?_, hbuild.symm⟩
    rw [hbuild]
    exact hpresent

/-- In lines the tool does not always show the program that a launch runs: a style sequence in the
name of the root is left out. -/
theorem not_forall_which_shows_program :
    ¬∀ (site : Site) (s : Session) (w : Surroundings) (root : Path) (args : List String) (env : Env)
      (program : String) (rest : List String) (childEnv : Env),
      site.tree = s.tree → w.RefusesInstalls →
      .spawned (program :: rest) childEnv ∈ ((launching root args env).run site w.boot).1.events →
      ∃ more, (which site.host root false s).1.out = s.out ++ program ++ "\n" ++ more := by
  intro h
  have hi : (World.surroundings {}).RefusesInstalls := World.refusesInstalls (by decide)
  have hhas : styledBuild.hasHelpers styled.tree = .ok false :=
    Build.hasHelpers_of_glance (by rfl)
  have hmem := LaunchRequest.mem_run_of_ok hi (plan_of_ok [] [] selectOn_styled hhas)
  obtain ⟨more, hmore⟩ := h styled (sessionAt styled) _ styledRoot [] [] _ _ _ rfl hi hmem
  obtain ⟨-, hout⟩ := which_of_ok (s := sessionAt styled) false selectOn_styled hhas
  have hprogram : '\x1b' ∈ styledBuild.binary.render.toList := by decide +kernel
  have hshown : '\x1b' ∉ (shownBuild false styledBuild.triple styledBuild.binary.render
      (helperDir styledBuild false)).toList := by decide +kernel
  have hesc : '\x1b' ∈ ((sessionAt styled).out ++ styledBuild.binary.render ++ "\n" ++ more).toList := by
    simp only [String.toList_append, List.mem_append]
    exact Or.inl (Or.inl (Or.inr hprogram))
  rw [← hmore, hout, String.toList_append] at hesc
  rcases List.mem_append.mp hesc with hempty | hesc
  · cases hempty
  · exact hshown hesc

end VendorLaunch.Operator
