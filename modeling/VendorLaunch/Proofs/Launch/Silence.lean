import VendorLaunch.Proofs.Launch.LogSettings
import VendorLaunch.Proofs.Launch.Records
import VendorLaunch.Proofs.Log.Thresholds
import VendorLaunch.Proofs.Output
import VendorLaunch.Proofs.Relay.Frame

/-!
# A terminal for the child

The child writes to the terminal of the launcher, so a launcher that has started it writes nothing
there itself. All that it logs is less than a warning, and a console that takes warnings and worse
(`Log.State.Reserved`) shows none of it, whatever the level of the log file; and a launch that has
started its child does not fail with an error of the launcher's own
(`LaunchRequest.not_isLauncherError_of_started`).

A stream shows what is written to the file that it leads to as well (`Session.shown`), and the log
file may be this file: a terminal, like any device that takes what is appended to it, can be named
as a log file. So unless the environment asks for more than warnings, a run that starts its child
leaves both streams as they were, if its log file is no file that a stream leads to
(`Launcher.run_silent`). Without this condition they need not stay as they were, and a run can fail
where it signals itself, of which a line on standard error tells (`Launcher.not_forall_run_silent`).
-/

namespace VendorLaunch

/-! ### Launches that have started their child -/

namespace Machine

variable {m : Machine} {i : Nat} {b : Path} {f : Fault}

/-- A child that cannot be started leaves no status behind. -/
theorem statuses_start_of_spawn (h : (m.start i).2 = .error (.spawn b f)) :
    (m.start i).1.statuses = m.statuses := by
  cases hf : m.world.spawnFault m.events with
  | some g =>
    obtain ⟨m', heq, hadd⟩ := start_of_some hf
    rw [heq]
    exact hadd.statuses
  | none =>
    -- Once the process is there, a start fails with nothing but a fault.
    have hf' : (m.debug (m.child i).announcement).world.spawnFault
      (m.debug (m.child i).announcement).events = none := hf
    simp only [start, spawn, hf'] at h
    split at h
    · cases h
    · cases Except.error.inj h

theorem statuses_superviseChild_of_spawn (h : (m.superviseChild i).2 = .error (.spawn b f)) :
    (m.superviseChild i).1.statuses = m.statuses := by
  obtain ⟨es, hopen, -⟩ := (tends_openBlock (P := fun _ => True) (m := m) (i := i)
    (fun _ => trivial) (fun _ => trivial) Signal.forwarded).1
  unfold superviseChild at h ⊢
  split at h
  · cases Except.error.inj h
  · next m₁ saved heq =>
    rw [heq] at hopen
    rcases leaveBlock_eq_error h with ⟨g, hg⟩ | hrun
    · cases hg
    · have hsaved : saved.All fun _ => True := fun _ _ => trivial
      obtain ⟨fs, hleave, -⟩ := tends_leaveBlock hsaved (m₁.runChild i).1 (m₁.runChild i).2
      -- What failed is the start, for a wait fails with nothing but a fault.
      have hstart : (m₁.start i).2 = .error (.spawn b f) ∧
          (m₁.runChild i).1 = (m₁.start i).1 := by
        simp only [runChild] at hrun ⊢
        split at hrun
        · next m₂ e heq₂ =>
          obtain rfl := Except.error.inj hrun
          simp only [heq₂, and_self]
        · obtain ⟨g, hg⟩ := wait_eq_error hrun
          cases hg
      have hstatuses := statuses_start_of_spawn hstart.1
      rw [hleave.statuses, hstart.2, hstatuses, hopen.statuses]

end Machine

/-- A launch that has started its child does not fail with an error of its own. -/
theorem LaunchRequest.not_isLauncherError_of_started {r : LaunchRequest} {site : Site}
    {w : Surroundings} {e : Failure} (h : (r.run site w.boot).2 = .error e)
    (hstart : (r.run site w.boot).1.statuses ≠ []) : e.isLauncherError = false := by
  cases hplan : (r.plan site).result with
  | error e' =>
    rw [run_of_error hplan] at hstart
    exact absurd rfl hstart
  | ok child =>
    rw [run_of_ok hplan] at h hstart
    rcases Machine.superviseChild_eq_error h with ⟨f, rfl⟩ | ⟨b, f, rfl⟩
    · rfl
    · exact absurd (Machine.statuses_superviseChild_of_spawn h) hstart

/-! ### The console -/

namespace Log

/-- The console takes warnings and worse. -/
structure State.Reserved (s : State) : Prop where
  handled : s.handlers ≠ []
  console : ∀ h ∈ s.handlers, h.sink = .console → warning ≤ h.level

/-- Minor records are not shown on such a console. -/
theorem State.Reserved.consoleText {s : State} (h : s.Reserved) {l : Line}
    (hl : l.record.Minor) : s.consoleText l = "" := by
  have hnone : (s.takers l.record.level).filter (fun h => h.sink = .console) = [] := by
    refine List.filter_eq_nil_iff.mpr fun g hg hsink => ?_
    obtain ⟨hmem, hreached⟩ := mem_handlers_of_mem_takers hg
    have hwarning := h.console g hmem (of_decide_eq_true hsink)
    exact absurd (Int.le_trans hwarning hreached) (Int.not_le.mpr hl.lt_warning)
  have hlast : lastResort s l = "" := by
    have hempty : s.handlers.isEmpty = false := by simpa using h.handled
    simp [lastResort, hempty]
  rw [State.consoleText, hnone, hlast]
  rfl

/-- A console for warnings and worse is reserved, whatever the level of the file. -/
theorem Request.Configures.reserved {r : Request} {s : State} {t : FileTree}
    (h : r.Configures s t) (hlevel : warning ≤ levelOf r.level) : s.Reserved := by
  have hhandlers : s.handlers ≠ [] := List.ne_nil_of_mem (h.mem_handlers_iff.mpr (Or.inl rfl))
  refine ⟨hhandlers, fun g hg hsink => ?_⟩
  rcases h.mem_handlers_iff.mp hg with rfl | ⟨f, place, -, -, rfl⟩
  · rwa [level_console]
  · cases hsink

/-- A text that is no name of a level below warnings sets the level of warnings or a higher one. -/
theorem warning_le_levelOf {text : String}
    (h : ∀ n ∈ levelNames, n.1 = Text.upper text → warning ≤ n.2) : warning ≤ levelOf text := by
  unfold levelOf
  dsimp only
  split
  · next n hfind =>
    exact h n (List.mem_of_find?_eq_some hfind) (by simpa using List.find?_some hfind)
  · exact Int.le_refl _

end Log

namespace Session

variable {s s₁ : Session}

theorem noteAll_append (s : Session) (rs rs' : List LogRecord) :
    s.noteAll (rs ++ rs') = (s.noteAll rs).noteAll rs' := List.foldl_append

/-- Minor records do not reach standard error. -/
theorem err_noteAll_of_reserved (h : s.log.Reserved) {rs : List LogRecord}
    (hrs : ∀ r ∈ rs, r.Minor) : (s.noteAll rs).err = s.err := by
  induction rs generalizing s with
  | nil => rfl
  | cons r rs ih =>
    obtain ⟨hr, hrs⟩ := List.forall_mem_cons.mp hrs
    have hnote : (s.note r).err = s.err := by
      rw [note, h.consoleText (l := s.line r) hr, String.append_empty]
    exact (ih (s := s.note r) h hrs).trans hnote

/-- Setting up a log of warnings and worse reserves the console. -/
theorem reserved_setUp {r : Log.Request} (hlevel : Log.warning ≤ Log.levelOf r.level)
    (h : s.setUp r = (s₁, .ok ())) : s₁.log.Reserved :=
  (Log.configures_of_setup (setup_of_setUp h)).reserved hlevel

/-! ### Streams -/

/-- What the program has written to a stream. -/
def text (s : Session) : Stream → String
  | .out => s.out
  | .err => s.err

/-- What a stream shows: what the program has written to it, and what is in the file of the tree
that it leads to, if it leads to one. -/
def shown (s : Session) (leads : Stream → Option (List String)) (stream : Stream) :
    String × Option Node := (s.text stream, (leads stream).bind s.tree.node?)

theorem shown_congr {leads : Stream → Option (List String)} (hout : s₁.out = s.out)
    (herr : s₁.err = s.err)
    (htree : ∀ stream p, leads stream = some p → s₁.tree.node? p = s.tree.node? p)
    (stream : Stream) : s₁.shown leads stream = s.shown leads stream := by
  have htext : s₁.text stream = s.text stream := by
    cases stream with
    | out => exact hout
    | err => exact herr
  cases hleads : leads stream with
  | none => simp only [shown, htext, hleads, Option.bind_none]
  | some p => simp only [shown, htext, hleads, Option.bind_some, htree stream p hleads]

/-- A location that is not that of the log file is no sink of the log, and setting the log up leaves
alone what stands there. -/
theorem node?_setUp {r : Log.Request} (h : s.setUp r = (s₁, .ok ())) {p : List String}
    (hp : ∀ f t, r.Names f → s.tree.openAppend f ≠ .ok (t, p)) :
    s₁.tree.node? p = s.tree.node? p ∧ ∀ g ∈ s₁.log.handlers, g.sink ≠ .file p := by
  have hsetup := setup_of_setUp h
  by_cases hfile : ∃ f, r.Names f
  · obtain ⟨f, hf⟩ := hfile
    obtain ⟨place, hopen, hlog⟩ := Log.openAppend_of_setup hf hsetup
    have hne : p ≠ place := by
      rintro rfl
      exact hp f s₁.tree hf hopen
    refine ⟨FileTree.node?_openAppend_of_ne hopen hne, fun g hg hsink => ?_⟩
    rw [hlog] at hg
    rcases List.mem_cons.mp hg with rfl | hg
    · cases hsink
    · rw [List.mem_singleton.mp hg] at hsink
      exact hne (Log.Sink.file.inj hsink).symm
  · rw [Log.setup_of_no_file (not_exists.mp hfile)] at hsetup
    obtain ⟨hlog, hrest⟩ := Prod.mk.inj hsetup
    obtain ⟨htree, -⟩ := Prod.mk.inj hrest
    refine ⟨by rw [← htree], fun g hg hsink => ?_⟩
    rw [← hlog] at hg
    obtain rfl := List.mem_singleton.mp hg
    cases hsink

/-- A log file that takes everything gets at least a byte for every minor record. -/
theorem exists_file_noteAll {r : Log.Request} (hr : r.Configures s.log s.tree) {f : String}
    {place : List String} {b : List UInt8} (hf : r.Names f) (hleads : s.tree.LeadsToFile f place)
    (hnode : s.tree.node? place = some (.file b)) (hlevel : r.levelOfFile ≤ Log.debug)
    (hprogram : '%' ∉ r.program.toList) {rs : List LogRecord} (hrs : ∀ x ∈ rs, x.Minor) :
    ∃ b', (s.noteAll rs).tree.node? place = some (.file b') ∧
      b.length + rs.length ≤ b'.length := by
  induction rs generalizing s b with
  | nil => exact ⟨b, hnode, Nat.le_refl _⟩
  | cons x rs ih =>
    obtain ⟨hx, hrs⟩ := List.forall_mem_cons.mp hrs
    let l := s.line x
    have hpos : 0 < l.record.level := Int.lt_of_lt_of_le (by decide) hx.debug_le
    obtain ⟨place', hleads', hwrite⟩ := hr.writeFiles_of_file (l := l) hpos hf
    obtain rfl := hleads.place_eq hleads'
    have hreached : r.levelOfFile ≤ l.record.level := Int.le_trans hlevel hx.debug_le
    rw [if_pos hreached, FileTree.appendText_of_file hnode] at hwrite
    obtain ⟨head, htext⟩ := Log.exists_text_fileHandler hprogram r.levelOfFile place l
    have hone : 1 ≤ (Text.encodeUtf8 ((r.fileAt place).text l)).length := by
      have hnewline : "\n".utf8ByteSize = 1 := by decide
      rw [Log.Request.fileAt, htext, Text.length_encodeUtf8, String.utf8ByteSize_append, hnewline]
      exact Nat.le_add_left 1 _
    have hplace : place ≠ [] := FileTree.ne_nil_of_file hnode
    have hnode' : (s.note x).tree.node? place =
        some (.file (b ++ Text.encodeUtf8 ((r.fileAt place).text l))) := by
      rw [show (s.note x).tree = _ from hwrite, FileTree.node?_setNode hplace, if_pos rfl]
    obtain ⟨b', hb', hle⟩ := ih (s := s.note x) (hr.writeFiles l)
      (hleads.sameShape (s.sameShape_note x)) hnode' hrs
    refine ⟨b', hb', ?_⟩
    rw [List.length_append] at hle
    rw [List.length_cons]
    omega

end Session

/-- The environment asks for no more than warnings: it does not set the level of the log, or what
it sets is no name of a lower level. -/
def Env.Reserves (env : Env) : Prop :=
  ∀ text, Env.setting? env logLevelVar = some text →
    ∀ n ∈ Log.levelNames, n.1 = Text.upper text → Log.warning ≤ n.2

theorem Installation.warning_le_of_reserves {i : Installation} {env : Env} {settings : Settings}
    (henv : env.Reserves) (h : i.settings env = .ok settings) :
    Log.warning ≤ Log.levelOf settings.logLevel := by
  unfold Installation.settings at h
  split at h
  · cases h
  · obtain rfl := Except.ok.inj h
    cases hset : Env.setting? env logLevelVar with
    | none => exact show Log.warning ≤ Log.levelOf defaultLogLevel by decide
    | some text => exact Log.warning_le_levelOf (henv text hset)

/-! ### Runs -/

namespace Launcher

variable {site : Site} {settings : Settings} {env : Env} {args : List String} {s : Session}
  {w : Surroundings}

/-- A run that has started its child does nothing to its session but to write its log. -/
theorem runChild_eq_noteAll
    (hstart : (runChild site settings env args s w.boot).2.1.statuses ≠ []) :
    (runChild site settings env args s w.boot).1 =
      s.noteAll (runChild site settings env args s w.boot).2.1.log := by
  rcases h : (request settings env args s.unread).run { site with tree := s.tree } w.boot with
    ⟨m₁, e | t⟩
  · rw [runChild_of_error h] at hstart ⊢
    have he : e.isLauncherError = false :=
      LaunchRequest.not_isLauncherError_of_started (congrArg Prod.snd h) (by rw [h]; exact hstart)
    unfold runChild
    rw [h]
    simp only [refuse, he, Bool.false_eq_true, if_false]
    rfl
  · obtain ⟨rs, hrs, -⟩ :=
      (Machine.steps_endAs (P := fun _ => True) (fun _ _ => trivial) m₁ t).log
    rw [machine_runChild_of_ok h, hrs, Session.noteAll_append]
    unfold runChild
    rw [h]
    simp only [hrs, List.drop_left]
    rfl

/-- A run that mirrors its child exits. -/
theorem Mirrors.exits {m : Machine} {ending : Ending} {rc : Option Int}
    (h : Mirrors m ending rc) : ∃ c, ending = .exit c := by
  cases h with
  | unknown hexit => exact ⟨_, hexit⟩
  | code _ hexit => exact ⟨_, hexit⟩
  | signal _ _ _ _ _ _ _ hexit => exact ⟨_, hexit⟩

/-- A run that has started its child mirrors it or fails in the flush of its streams, when every
handler can be put back and nothing else fails but with refusals. -/
theorem exists_ends_runChild (hi : w.RefusesInstalls) (hs : w.RefusesSends) (hk : w.RefusesKills)
    (hr : ∀ argv childEnv,
      .spawned argv childEnv ∈ (runChild site settings env args s w.boot).2.1.events →
        (w.outset argv childEnv).Releases)
    (hstart : (runChild site settings env args s w.boot).2.1.statuses ≠ []) :
    ∃ argv childEnv,
      .spawned argv childEnv ∈ (runChild site settings env args s w.boot).2.1.events ∧
        Ends (w.outset argv childEnv) (runChild site settings env args s w.boot).2.1
          (runChild site settings env args s w.boot).2.2 := by
  cases hplan : ((request settings env args s.unread).plan { site with tree := s.tree }).result with
  | error e =>
    rw [runChild_of_error (LaunchRequest.run_of_error hplan w.boot)] at hstart
    exact absurd rfl hstart
  | ok child =>
    have hmem := mem_runChild (LaunchRequest.mem_run_of_ok hi hplan)
    have hreleases := hr _ _ hmem
    cases hspawn : (w.outset child.argv child.env).spawnFault with
    | none => exact ⟨_, _, hmem, runChild_ends hi hs hk hmem hspawn hreleases⟩
    | some f =>
      obtain ⟨m₁, heq, -, -, -, hstatuses, -⟩ := LaunchRequest.run_course hi hs hplan hreleases
      rw [Outset.outcome, hspawn] at heq
      rw [runChild_of_error heq, hstatuses, Outset.collected, hspawn] at hstart
      exact absurd rfl hstart

/-- The log file of a run is at a location. -/
def LogsTo (site : Site) (env : Env) (s : Session) (place : List String) : Prop :=
  ∃ settings f t, site.installation.settings env = .ok settings ∧
    (settings.logRequest name).Names f ∧ s.tree.openAppend f = .ok (t, place)

/-- Unless the environment asks for more than warnings, a run that starts its child leaves both
streams as they were, before, while and after the child runs, if no stream leads to its log file:
whatever the log file is told, whatever arrives, whatever fails and however the child ends. When the
handlers can be put back and installations, sends and the signal to the own process fail with
refusals only, such a run also ends by an exit and not by a failure; but where a signal has killed
its child and the streams cannot be flushed, it fails with the fault of the flush. -/
theorem run_silent {leads : Stream → Option (List String)} (henv : env.Reserves)
    (hstart : (run site env args s w.boot).2.1.statuses ≠ [])
    (hlog : ∀ stream place, leads stream = some place → ¬LogsTo site env s place) :
    (∀ stream, (run site env args s w.boot).1.shown leads stream = s.shown leads stream) ∧
      (w.RefusesInstalls → w.RefusesSends → w.RefusesKills →
        (∀ argv childEnv, .spawned argv childEnv ∈ (run site env args s w.boot).2.1.events →
          (w.outset argv childEnv).Releases) →
        ∃ argv childEnv, .spawned argv childEnv ∈ (run site env args s w.boot).2.1.events ∧
          ((w.outset argv childEnv).flushFault = none →
            ∃ c, (run site env args s w.boot).2.2 = .exit c) ∧
          ∀ f, (w.outset argv childEnv).flushFault = some f →
            (run site env args s w.boot).2.2 = .failed (.fault f)) := by
  have hchanged : (run site env args s w.boot).2.1 ≠ w.boot := fun h => by
    rw [h] at hstart
    exact hstart rfl
  obtain ⟨settings, s₁, hset, hsetup, hrun⟩ := exists_runChild hchanged
  rw [hrun] at hstart ⊢
  constructor
  · intro stream
    have hlevel := Installation.warning_le_of_reserves henv hset
    have hreserved : s₁.log.Reserved :=
      Session.reserved_setUp (r := settings.logRequest name) hlevel hsetup
    rw [runChild_eq_noteAll hstart]
    refine Session.shown_congr ?_ ?_ (fun stream p hp => ?_) stream
    · rw [Session.out_noteAll, ← s.out_setUp (settings.logRequest name), hsetup]
    · rw [Session.err_noteAll_of_reserved hreserved (minor_runChild site settings env args s₁ w),
        ← s.err_setUp (settings.logRequest name), hsetup]
    · obtain ⟨htree, hsinks⟩ := Session.node?_setUp hsetup fun f t hf hopen =>
        hlog stream p hp ⟨settings, f, t, hset, hf, hopen⟩
      rw [Session.node?_noteAll hsinks, htree]
  · intro hi hs hk hr
    obtain ⟨argv, childEnv, hmem, hends⟩ := exists_ends_runChild hi hs hk hr hstart
    exact ⟨argv, childEnv, hmem, fun hflush => (hends.mirrors hflush).exits,
      fun f hf => (hends.unflushed f hf).2.2⟩

/-! ### A terminal in the tree -/

/-- The files of the installation, a log file, and a terminal. -/
def terminalTree : FileTree :=
  { Site.muslOnly.tree with
    nodes := Site.muslOnly.tree.nodes ++
      [(["log"], .file []), (["dev"], .directory), (["dev", "stderr"], .file [])] }

/-- The installation on a system with a terminal. -/
def terminalSite : Site := { Site.muslOnly with tree := terminalTree }

/-- A session at the terminal. -/
def terminalSession : Session := { muslOnlySession with tree := terminalTree }

/-- Standard error leads to the terminal. -/
def terminalLeads : Stream → Option (List String)
  | .out => none
  | .err => some ["dev", "stderr"]

/-- An environment that has everything written to a log file. -/
def loggingEnv (file : String) : Env := [(logFileVar, file), (logFileLevelVar, "debug")]

/-- The settings that such an environment makes. -/
def loggingSettings (file : String) : Settings :=
  ⟨Site.muslOnlyRoot, none, "WARNING", some file, some "debug"⟩

/-- A run at the terminal whose child is killed. -/
def terminalRun (file : String) : Session × Machine × Ending :=
  run terminalSite (loggingEnv file) ["--help"] terminalSession killedWorld.surroundings.boot

theorem reserves_loggingEnv (file : String) : Env.Reserves (loggingEnv file) := by
  intro text htext
  cases htext

theorem openAppend_terminalLog :
    terminalTree.openAppend "/log" = .ok (terminalTree, ["log"]) :=
  FileTree.openAppend_of_found terminalTree "/log" "/log" (by rfl) (by decide)
    (FileTree.follow_of_direct (by decide) (by rfl)) rfl

theorem openAppend_terminal :
    terminalTree.openAppend "/dev/stderr" = .ok (terminalTree, ["dev", "stderr"]) :=
  FileTree.openAppend_of_found terminalTree "/dev/stderr" "/dev/stderr" (by rfl) (by decide)
    (FileTree.follow_of_direct (by decide) (by rfl)) rfl

theorem exists_plan_terminal (file : String) :
    ∃ child, ((request (loggingSettings file) (loggingEnv file) ["--help"] none).plan
      terminalSite).result = .ok child := by
  have habsent : (Catalog.packaged.build Site.muslOnlyRoot "x86_64-unknown-linux-gnu").present
      terminalTree = .ok false := Build.present_of_glance (by rfl)
  have hpresent : Site.muslOnlyBuild.present terminalTree = .ok true :=
    Build.present_of_glance (by rfl)
  have hhelpers : Site.muslOnlyBuild.hasHelpers terminalTree = .ok false :=
    Build.hasHelpers_of_glance (by rfl)
  obtain ⟨childEnv, henv⟩ : ∃ childEnv, Site.muslOnlyBuild.environment terminalTree
      (loggingEnv file) ((request (loggingSettings file) (loggingEnv file) ["--help"]
        none).managerAt terminalSite) = .ok childEnv := by
    rw [Build.environment, hhelpers]
    exact ⟨_, rfl⟩
  exact ⟨_, LaunchRequest.plan_eq_ok_iff.mpr ⟨Site.muslOnlyRoot, Site.muslOnlyKey,
    Site.muslOnlyBuild, childEnv, rfl, Site.detect_muslOnly,
    Site.select_of_absent habsent hpresent, henv, rfl⟩⟩

section

variable {file : String} {place : List String}

/-- A run at the terminal with a file that is there sets its log up with this file, starts its child
and collects its status. -/
theorem exists_terminalRun
    (hset : terminalSite.installation.settings (loggingEnv file) = .ok (loggingSettings file))
    (hne : file ≠ "") (hopen : terminalTree.openAppend file = .ok (terminalTree, place)) :
    ∃ (s₁ : Session) (rs : List LogRecord), s₁.tree = terminalTree ∧
      ((loggingSettings file).logRequest name).Configures s₁.log s₁.tree ∧
      (terminalRun file).1 = s₁.noteAll rs ∧ rs ≠ [] ∧ (∀ r ∈ rs, r.Minor) ∧
      (terminalRun file).2.1.statuses = [some (-9)] := by
  have hf : ((loggingSettings file).logRequest name).Names file := ⟨rfl, hne⟩
  obtain ⟨s₁, hsetup, htree, hunread⟩ : ∃ s₁,
      terminalSession.setUp ((loggingSettings file).logRequest name) = (s₁, .ok ()) ∧
        s₁.tree = terminalTree ∧ s₁.unread = none := by
    rw [Session.setUp, show terminalSession.tree = terminalTree from rfl,
      Log.setup_of_openAppend hf hopen]
    exact ⟨_, rfl, rfl, rfl⟩
  have hrun : terminalRun file = runChild terminalSite (loggingSettings file) (loggingEnv file)
      ["--help"] s₁ killedWorld.surroundings.boot := run_of_setUp hset hsetup _
  obtain ⟨child, hplan⟩ := exists_plan_terminal file
  have hplan' : ((request (loggingSettings file) (loggingEnv file) ["--help"] s₁.unread).plan
      { terminalSite with tree := s₁.tree }).result = .ok child := by
    rw [hunread, htree]
    exact hplan
  obtain ⟨hi, hs, hk⟩ := killedWorld_refuses
  obtain ⟨hspawn, hr, hstatus, -⟩ := killedWorld_outset child.argv child.env
  have hends := runChild_ends hi hs hk (mem_runChild (LaunchRequest.mem_run_of_ok hi hplan')) hspawn
    hr
  have hstatuses : (terminalRun file).2.1.statuses = [some (-9)] := by
    rw [hrun, hends.statuses, hstatus]
  obtain ⟨rs, hrs, -⟩ := exists_log_runChild terminalSite (loggingSettings file) (loggingEnv file)
    ["--help"] s₁ killedWorld.surroundings
  refine ⟨s₁, (terminalRun file).2.1.log, htree,
    Log.configures_of_setup (Session.setup_of_setUp hsetup), ?_, ?_, ?_, hstatuses⟩
  · rw [hrun] at hstatuses ⊢
    exact runChild_eq_noteAll (by rw [hstatuses]; exact List.cons_ne_nil _ _)
  · rw [hrun, hrs]
    exact List.append_ne_nil_of_left_ne_nil (LaunchRequest.log_plan_ne_nil hplan') _
  · rw [hrun]
    exact minor_runChild _ _ _ _ _ _

end

theorem settings_terminalLog :
    terminalSite.installation.settings (loggingEnv "/log") = .ok (loggingSettings "/log") := by rfl

theorem settings_terminal : terminalSite.installation.settings (loggingEnv "/dev/stderr") =
    .ok (loggingSettings "/dev/stderr") := by rfl

/-- A run whose child is killed, and that can neither reset the handler of the signal nor send it to
itself, leaves the terminal as it was, while it writes everything to its log file. -/
theorem run_silent_killedWorld :
    (terminalRun "/log").2.1.statuses = [some (-9)] ∧
      (∀ stream, (terminalRun "/log").1.shown terminalLeads stream =
        terminalSession.shown terminalLeads stream) ∧
      ∃ c, (terminalRun "/log").2.2 = .exit c := by
  obtain ⟨-, -, -, -, -, -, -, hstatuses⟩ :=
    exists_terminalRun settings_terminalLog (by decide) openAppend_terminalLog
  have hstart : (terminalRun "/log").2.1.statuses ≠ [] := by
    rw [hstatuses]
    exact List.cons_ne_nil _ _
  have hlog : ∀ stream place, terminalLeads stream = some place →
      ¬LogsTo terminalSite (loggingEnv "/log") terminalSession place := by
    rintro stream place hleads ⟨settings, f, t, hset, hf, hopen⟩
    obtain rfl := Except.ok.inj (settings_terminalLog.symm.trans hset)
    obtain rfl : f = "/log" := (Option.some.inj hf.1).symm
    have hplace := (Prod.mk.inj (Except.ok.inj (openAppend_terminalLog.symm.trans hopen))).2
    cases stream with
    | out => cases hleads
    | err =>
      obtain rfl := Option.some.inj hleads
      exact absurd hplace (by decide)
  obtain ⟨hi, hs, hk⟩ := killedWorld_refuses
  unfold terminalRun at hstatuses hstart ⊢
  obtain ⟨hshown, hends⟩ := run_silent (reserves_loggingEnv "/log") hstart hlog
  obtain ⟨argv, childEnv, -, hexit, -⟩ := hends hi hs hk fun argv childEnv _ =>
    (killedWorld_outset argv childEnv).2.1
  obtain ⟨-, -, -, hflush⟩ := killedWorld_outset argv childEnv
  exact ⟨hstatuses, hshown, hexit hflush⟩

/-- A run whose log file is the terminal shows its log there. -/
theorem shown_terminalRun : (terminalRun "/dev/stderr").1.shown terminalLeads .err ≠
    terminalSession.shown terminalLeads .err := by
  obtain ⟨s₁, rs, htree, hr, hrun, hne, hminor, -⟩ :=
    exists_terminalRun settings_terminal (by decide) openAppend_terminal
  have hleads : terminalTree.LeadsToFile "/dev/stderr" ["dev", "stderr"] :=
    FileTree.leadsToFile_openAppend openAppend_terminal
  have hlevel : ((loggingSettings "/dev/stderr").logRequest name).levelOfFile ≤ Log.debug := by
    decide
  obtain ⟨b, hb, hlength⟩ := Session.exists_file_noteAll (b := []) hr ⟨rfl, by decide⟩
    (htree ▸ hleads) (by rw [htree]; rfl) hlevel (by decide) hminor
  intro hshown
  have hnode : (terminalRun "/dev/stderr").1.tree.node? ["dev", "stderr"] =
      terminalTree.node? ["dev", "stderr"] := (Prod.mk.inj hshown).2
  rw [hrun, hb] at hnode
  obtain rfl : b = [] := Node.file.inj (Option.some.inj hnode)
  exact hne (List.eq_nil_of_length_eq_zero (by simpa using hlength))

/-- A launcher that cannot signal itself, for another reason than a refusal, fails. -/
theorem endAs_of_killFault {m : Machine} (hi : m.world.RefusesInstalls)
    (hflush : m.world.flushFaults m.events = none) {n : Int} {f : Fault}
    (hk : ∀ past, m.world.killFault past n = some f) (hf : f.isSignalRefusal = false)
    (name : String) :
    ∃ m', m.endAs (.signaled n name) = (m', .error f) ∧ m'.statuses = m.statuses := by
  obtain ⟨m₁, heq, hadd⟩ :=
    Machine.resetHandler_of_refusals (m := m.note (Machine.raising name)) hi n name
  have hkill : m₁.world.killFault m₁.events n = some f := by
    rw [hadd.world]
    exact hk _
  refine ⟨m₁.record (.killed n), ?_, hadd.statuses⟩
  rw [Machine.endAs_of_flushed hflush, Machine.endBySignal, heq]
  simp only [Machine.raiseSignal, Machine.killSelf, hkill, hf, Bool.false_eq_true, if_false]

/-- A system on which the child is killed, and a signal cannot be sent on for another reason than a
refusal. -/
def mutedWorld : World where
  endStatus := some (-2)
  killFaults := [(2, ⟨.runtime "no signals", 0⟩)]

theorem mutedWorld_refuses :
    mutedWorld.surroundings.RefusesInstalls ∧ mutedWorld.surroundings.RefusesSends :=
  ⟨World.refusesInstalls (by decide), World.refusesSends (by decide)⟩

theorem mutedWorld_outset (argv : List String) (childEnv : Env) :
    (mutedWorld.surroundings.outset argv childEnv).Releases ∧
      (mutedWorld.surroundings.outset argv childEnv).flushFault = none :=
  ⟨⟨rfl, rfl, rfl, trivial⟩, rfl⟩

theorem muslOnlyRun_mutedWorld :
    (muslOnlyRun ["--help"] mutedWorld).2.1.statuses = [some (-2)] ∧
      (muslOnlyRun ["--help"] mutedWorld).2.2 = .failed (.fault (.runtime "no signals")) := by
  obtain ⟨hi, hs⟩ := mutedWorld_refuses
  obtain ⟨hr, hflush⟩ := mutedWorld_outset (Site.muslOnlyChild ["--help"]).argv
    (Site.muslOnlyChild ["--help"]).env
  obtain ⟨m₁, heq, hw, -, -, hstatuses, -⟩ :=
    LaunchRequest.run_course hi hs (plan_request_muslOnly ["--help"]) hr
  obtain ⟨m₂, hend, hstatuses₂⟩ := endAs_of_killFault (m := m₁) (n := 2)
    (f := .runtime "no signals") (hw ▸ hi) (by rw [hw]; rfl) (fun _ => by rw [hw]; rfl) (by decide)
    (Signal.name 2)
  obtain ⟨s, hlaunch, hrun⟩ := exists_muslOnlyRun ["--help"] mutedWorld
  rw [hrun, runChild_of_endAs_error (hlaunch.trans heq) hend]
  exact ⟨hstatuses₂.trans hstatuses, rfl⟩

/-- A run that starts its child need not leave the streams as they were when its log file is the
file that standard error leads to, and it need not exit when it cannot signal itself. -/
theorem not_forall_run_silent :
    (¬∀ (site : Site) (env : Env) (args : List String) (s : Session) (w : World)
        (leads : Stream → Option (List String)), env.Reserves →
      (run site env args s w.surroundings.boot).2.1.statuses ≠ [] →
      w.surroundings.RefusesInstalls → w.surroundings.RefusesSends →
      w.surroundings.RefusesKills →
      (∀ argv childEnv, (w.surroundings.outset argv childEnv).Releases ∧
        (w.surroundings.outset argv childEnv).flushFault = none) →
      ∀ stream, (run site env args s w.surroundings.boot).1.shown leads stream =
        s.shown leads stream) ∧
    ¬∀ (site : Site) (env : Env) (args : List String) (s : Session) (w : World), env.Reserves →
      (run site env args s w.surroundings.boot).2.1.statuses ≠ [] →
      w.surroundings.RefusesInstalls → w.surroundings.RefusesSends →
      (∀ argv childEnv, (w.surroundings.outset argv childEnv).Releases ∧
        (w.surroundings.outset argv childEnv).flushFault = none) →
      ∃ c, (run site env args s w.surroundings.boot).2.2 = .exit c := by
  constructor
  · intro h
    obtain ⟨-, -, -, -, -, -, -, hstatuses⟩ :=
      exists_terminalRun settings_terminal (by decide) openAppend_terminal
    have hstart : (terminalRun "/dev/stderr").2.1.statuses ≠ [] := by
      rw [hstatuses]
      exact List.cons_ne_nil _ _
    obtain ⟨hi, hs, hk⟩ := killedWorld_refuses
    have hworld : ∀ argv childEnv, (killedWorld.surroundings.outset argv childEnv).Releases ∧
        (killedWorld.surroundings.outset argv childEnv).flushFault = none := fun argv childEnv => by
      obtain ⟨-, hr, -, hflush⟩ := killedWorld_outset argv childEnv
      exact ⟨hr, hflush⟩
    have hshown := shown_terminalRun
    unfold terminalRun at hstart hshown
    exact hshown (h _ _ _ _ _ terminalLeads (reserves_loggingEnv _) hstart hi hs hk hworld .err)
  · intro h
    obtain ⟨hstatuses, hending⟩ := muslOnlyRun_mutedWorld
    have hstart : (muslOnlyRun ["--help"] mutedWorld).2.1.statuses ≠ [] := by
      rw [hstatuses]
      exact List.cons_ne_nil _ _
    have henv : Env.Reserves [] := fun text htext => by cases htext
    obtain ⟨hi, hs⟩ := mutedWorld_refuses
    unfold muslOnlyRun at hstart hending
    obtain ⟨c, hc⟩ := h _ _ _ _ _ henv hstart hi hs mutedWorld_outset
    cases hending.symm.trans hc

end Launcher

end VendorLaunch
