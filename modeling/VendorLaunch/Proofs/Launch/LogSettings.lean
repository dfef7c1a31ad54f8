import VendorLaunch.Proofs.Launch.Ending
import VendorLaunch.Proofs.Relay.Projection

/-!
# What the settings of the log change

Three variables set the log of a run up. Taken out of the environment they leave the vendor root,
the platform and the package manager as they are, and the child's environment without them is the
one that the run without them gives its child. So a run with these variables has the same history
and the same ending as the run without them, up to the variables themselves in the environment of
the child, as long as its log can be set up and the log file is not put at the place of a binary
(`Launcher.run_withoutLog`).

A log file that cannot be opened ends the run before anything else happens, and so the launcher does
not always do what it does without it (`Launcher.not_forall_run_withoutLog`).
-/

namespace VendorLaunch

/-! ### Environments without the variables of the log -/

/-- An environment without the variables of the log. -/
def Env.withoutLog (env : Env) : Env :=
  Table.erase logFileLevelVar (Table.erase logFileVar (Table.erase logLevelVar env))

namespace Env

variable {name : String}

theorem find?_withoutLog (h₁ : name ≠ logLevelVar) (h₂ : name ≠ logFileVar)
    (h₃ : name ≠ logFileLevelVar) (env : Env) :
    Table.find? name env.withoutLog = Table.find? name env := by
  rw [withoutLog, Table.find?_erase_of_ne h₃, Table.find?_erase_of_ne h₂, Table.find?_erase_of_ne h₁]

theorem withoutLog_insert (h₁ : name ≠ logLevelVar) (h₂ : name ≠ logFileVar)
    (h₃ : name ≠ logFileLevelVar) (value : String) (env : Env) :
    withoutLog (Table.insert name value env) = Table.insert name value env.withoutLog := by
  rw [withoutLog, Table.erase_insert_of_ne h₁, Table.erase_insert_of_ne h₂,
    Table.erase_insert_of_ne h₃, withoutLog]

theorem setting?_withoutLog (h₁ : name ≠ logLevelVar) (h₂ : name ≠ logFileVar)
    (h₃ : name ≠ logFileLevelVar) (env : Env) :
    Env.setting? env.withoutLog name = Env.setting? env name := by
  rw [setting?, find?_withoutLog h₁ h₂ h₃, setting?]

theorem setting?_logLevel_withoutLog (env : Env) :
    Env.setting? env.withoutLog logLevelVar = none := by
  rw [setting?, withoutLog, Table.find?_erase_of_ne (by decide), Table.find?_erase_of_ne (by decide),
    Table.find?_erase_self]

theorem setting?_logFile_withoutLog (env : Env) :
    Env.setting? env.withoutLog logFileVar = none := by
  rw [setting?, withoutLog, Table.find?_erase_of_ne (by decide), Table.find?_erase_self]

theorem setting?_logFileLevel_withoutLog (env : Env) :
    Env.setting? env.withoutLog logFileLevelVar = none := by
  rw [setting?, withoutLog, Table.find?_erase_self]

end Env

/-- The settings with the default log. -/
def Settings.withoutLog (s : Settings) : Settings :=
  { s with logLevel := defaultLogLevel, logFile := none, logFileLevel := none }

namespace Installation

theorem vendorRoot_withoutLog (i : Installation) (env : Env) :
    i.vendorRoot env.withoutLog = i.vendorRoot env := by
  unfold Installation.vendorRoot
  rw [Env.setting?_withoutLog (by decide) (by decide) (by decide)]

/-- Without the variables of the log only the log of the settings is another. -/
theorem settings_withoutLog (i : Installation) (env : Env) :
    i.settings env.withoutLog = (i.settings env).map Settings.withoutLog := by
  unfold Installation.settings
  rw [vendorRoot_withoutLog]
  cases i.vendorRoot env with
  | error f => rfl
  | ok root =>
    have hgroups : Env.setting? env.withoutLog requiredGroupsVar =
        Env.setting? env requiredGroupsVar :=
      Env.setting?_withoutLog (by decide) (by decide) (by decide) env
    simp only [Env.setting?_logLevel_withoutLog, Env.setting?_logFile_withoutLog,
      Env.setting?_logFileLevel_withoutLog, hgroups, Except.map, Settings.withoutLog]
    rfl

end Installation

theorem PackageManager.guess_withoutLog (env : Env) (dir : String) :
    guess env.withoutLog dir = guess env dir := by
  unfold guess
  rw [Env.find?_withoutLog (by decide) (by decide) (by decide),
    Env.find?_withoutLog (by decide) (by decide) (by decide)]

theorem environmentWith_withoutLog (dirs : List String) (env : Env) (manager : PackageManager) :
    environmentWith dirs env.withoutLog manager =
      (environmentWith dirs env manager).withoutLog := by
  unfold environmentWith
  rw [Env.withoutLog_insert (by decide) (by decide) (by decide),
    Env.withoutLog_insert (by decide) (by decide) (by decide),
    Env.find?_withoutLog (by decide) (by decide) (by decide)]

/-! ### The plan -/

namespace Logged

variable {α β γ δ : Type}

/-- The computation with the value that it gives mapped. -/
def onOk (φ : α → β) (x : Logged α) : Logged β := ⟨x.log, x.result.map φ⟩

/-- A map goes through the steps of a computation. -/
theorem bind_onOk {ψ : α → β} {φ : γ → δ} {x : Logged α} {x' : Logged β} {f : α → Logged γ}
    {f' : β → Logged δ} (hx : x' = x.onOk ψ)
    (hf : ∀ a, x.result = .ok a → f' (ψ a) = (f a).onOk φ) : (x' >>= f') = (x >>= f).onOk φ := by
  subst hx
  rcases x with ⟨log, e | a⟩
  · rfl
  · change (⟨log ++ (f' (ψ a)).log, (f' (ψ a)).result⟩ : Logged δ) = _
    rw [hf a rfl]
    rfl

theorem onOk_id (x : Logged α) : x.onOk id = x := by
  rcases x with ⟨log, e | a⟩
  · rfl
  · rfl

/-- What follows a computation matters for the values that it can give. -/
theorem bind_congr {x : Logged α} {f g : α → Logged β}
    (h : ∀ a, x.result = .ok a → f a = g a) : (x >>= f) = (x >>= g) := by
  rcases x with ⟨log, e | a⟩
  · rfl
  · change (⟨log ++ (f a).log, (f a).result⟩ : Logged β) = ⟨log ++ (g a).log, (g a).result⟩
    rw [h a rfl]

end Logged

open Logged

namespace Catalog

/-- The binaries of the candidates of every rule are in one tree just when they are in the other. -/
def SameBinaries (c : Catalog) (root : Path) (t t' : FileTree) : Prop :=
  ∀ rule ∈ c.rules, ∀ libc, ∀ triple ∈ rule.triplesFor libc,
    (c.build root triple).present t' = (c.build root triple).present t

variable {c : Catalog} {root : Path} {t t' : FileTree}

theorem discoverFrom_congr {all triples : List String}
    (h : ∀ s ∈ triples, (c.build root s).present t' = (c.build root s).present t) :
    c.discoverFrom t' root all triples = c.discoverFrom t root all triples := by
  induction triples with
  | nil => rfl
  | cons s triples ih =>
    obtain ⟨hs, htriples⟩ := List.forall_mem_cons.mp h
    rw [discoverFrom, discoverFrom, Build.orElse, Build.orElse, hs, ih htriples]

/-- A selection looks at no more than the binaries of the candidates. -/
theorem select_congr (h : c.SameBinaries root t t') (key : Platform) :
    c.select t' root key = c.select t root key := by
  unfold select
  refine bind_congr fun triples hres => ?_
  obtain ⟨rule, hrule, rfl⟩ := resolve_eq_ok_iff.mp hres
  have hmem : rule ∈ c.rules := List.mem_of_find?_eq_some hrule
  rw [discover, discover, discoverFrom_congr (h rule hmem key.libc)]

end Catalog

namespace LaunchRequest

variable {r : LaunchRequest} {site : Site} {t : FileTree}

/-- The launch without the variables of the log. -/
def withoutLog (r : LaunchRequest) : LaunchRequest := { r with env := r.env.withoutLog }

theorem rootAt_withoutLog (r : LaunchRequest) (site : Site) :
    r.withoutLog.rootAt site = r.rootAt site := by
  unfold rootAt
  rw [withoutLog]
  cases r.root with
  | some root => rfl
  | none => exact site.installation.vendorRoot_withoutLog r.env

theorem managerAt_withoutLog (r : LaunchRequest) (site : Site) :
    r.withoutLog.managerAt site = r.managerAt site :=
  PackageManager.guess_withoutLog r.env _

/-- On trees with the same binaries and directories the same child is planned, but for the variables
of the log. -/
theorem plan_withoutLog
    (hbin : ∀ root, r.rootAt site = .ok root → r.catalog.SameBinaries root site.tree t)
    (hdir : ∀ path, t.isDirectory path = site.tree.isDirectory path) :
    r.withoutLog.plan { site with tree := t } =
      (r.plan site).onOk (Child.onEnv Env.withoutLog) := by
  have hroot : r.withoutLog.rootAt { site with tree := t } = r.rootAt site :=
    r.rootAt_withoutLog site
  have hmanager : r.withoutLog.managerAt { site with tree := t } = r.managerAt site :=
    r.managerAt_withoutLog site
  have henv : ∀ b : Build, ofFault (b.environment t r.env.withoutLog (r.managerAt site)) =
      (ofFault (b.environment site.tree r.env (r.managerAt site))).onOk Env.withoutLog := by
    intro b
    have hhas : b.hasHelpers t = b.hasHelpers site.tree := hdir b.helpers
    unfold Build.environment
    rw [hhas]
    cases b.hasHelpers site.tree with
    | error f => rfl
    | ok has =>
      dsimp only
      rw [environmentWith_withoutLog]
      rfl
  unfold plan
  rw [hroot, hmanager]
  refine bind_onOk (onOk_id _).symm fun root hr => ?_
  refine bind_onOk (onOk_id (r.platformAt site)).symm fun key _ => ?_
  refine bind_onOk (onOk_id (noteAll (r.catalog.reading r.unread))).symm fun _ _ => ?_
  have hselect := Catalog.select_congr (hbin root (result_ofFault_eq_ok.mp hr)) key
  refine bind_onOk (hselect.trans (onOk_id _).symm) fun b _ => ?_
  refine bind_onOk (henv b) fun env _ => ?_
  exact bind_onOk (onOk_id _).symm fun _ _ => rfl

variable {w : Surroundings}

/-- So is the launch the same: its history is that of the other, without the variables of the log in
the environment of the child. -/
theorem tracks_run (hw : w.Blind Env.withoutLog)
    (hbin : ∀ root, r.rootAt site = .ok root → r.catalog.SameBinaries root site.tree t)
    (hdir : ∀ path, t.isDirectory path = site.tree.isDirectory path) :
    Machine.Tracks Env.withoutLog (r.run site w.boot)
      (r.withoutLog.run { site with tree := t } w.boot) := by
  unfold run
  rw [plan_withoutLog hbin hdir]
  simp only [onOk]
  cases (r.plan site).result with
  | error e => exact ⟨_, _, rfl, rfl, hw⟩
  | ok child =>
    have hchild := Machine.setChild_onEnv (φ := Env.withoutLog)
      (m := { w.boot with log := w.boot.log ++ (r.plan site).log }) 0 child
    have hrun := Machine.tracks_superviseChild (φ := Env.withoutLog) (m := Machine.setChild
      { w.boot with log := w.boot.log ++ (r.plan site).log } 0 child) hw 0
    rw [← hchild] at hrun
    exact hrun

end LaunchRequest

/-! ### The launcher -/

/-- Setting the log up does not change where there are directories. -/
theorem Session.isDirectory_setUp {s s₁ : Session} {r : Log.Request}
    (h : s.setUp r = (s₁, .ok ())) (path : Path) :
    s₁.tree.isDirectory path = s.tree.isDirectory path := by
  have hsetup := setup_of_setUp h
  by_cases hfile : ∃ f, r.Names f
  · obtain ⟨f, hf⟩ := hfile
    obtain ⟨place, hopen, -⟩ := Log.openAppend_of_setup hf hsetup
    exact FileTree.isDirectory_openAppend hopen path
  · rw [Log.setup_of_no_file (not_exists.mp hfile)] at hsetup
    obtain ⟨-, hrest⟩ := Prod.mk.inj hsetup
    rw [← (Prod.mk.inj hrest).1]

/-- The log cannot be set up with a file that cannot be opened. -/
theorem Session.exists_setUp_of_error {s : Session} {r : Log.Request} {text : String} {f : Fault}
    (hfile : r.file = some text) (hne : text ≠ "") (h : s.tree.openAppend text = .error f) :
    ∃ s₁, s.setUp r = (s₁, .error f) := by
  rw [setUp, Log.setup_of_file ⟨hfile, hne⟩, h]
  exact ⟨_, rfl⟩

namespace Launcher

variable {site : Site} {settings settings' : Settings} {env : Env} {args : List String}
  {s s' : Session} {w : Surroundings}

theorem tracks_runChild (hw : w.Blind Env.withoutLog)
    (hroot : settings'.vendorRoot = settings.vendorRoot)
    (hbin : Catalog.packaged.SameBinaries settings.vendorRoot s.tree s'.tree)
    (hdir : ∀ path, s'.tree.isDirectory path = s.tree.isDirectory path)
    (hunread : s'.unread = s.unread) :
    Machine.Tracks Env.withoutLog (runChild site settings env args s w.boot).2
      (runChild site settings' env.withoutLog args s' w.boot).2 := by
  have hrun : Machine.Tracks Env.withoutLog
      ((request settings env args s.unread).run { site with tree := s.tree } w.boot)
      ((request settings env args s.unread).withoutLog.run { site with tree := s'.tree } w.boot) :=
    LaunchRequest.tracks_run hw (fun root hr => Except.ok.inj hr ▸ hbin) hdir
  obtain ⟨m, a, heq, heq', hw₁⟩ := hrun
  have hrequest : request settings' env.withoutLog args s'.unread =
      (request settings env args s.unread).withoutLog := by
    rw [request, hroot, hunread]
    rfl
  unfold runChild
  rw [hrequest, heq]
  simp only
  rw [heq']
  cases a with
  | error e =>
    by_cases he : e.isLauncherError = true
    · simp only [refuse, if_pos he]
      exact ⟨_, _, rfl, rfl, hw₁⟩
    · simp only [refuse, if_neg he]
      exact ⟨_, _, rfl, rfl, hw₁⟩
  | ok t =>
    obtain ⟨m₂, b, heq₂, heq₂', hw₂⟩ := Machine.tracks_endAs hw₁ t
    dsimp only
    rw [heq₂, heq₂']
    exact ⟨_, _, rfl, rfl, hw₂⟩

/-- The log of a run can be set up, and setting it up puts no file at the place of a binary and so
does not change which binaries there are. -/
def LogReady (site : Site) (env : Env) (s : Session) : Prop :=
  ∀ settings, site.installation.settings env = .ok settings →
    ∃ s₁, s.setUp (settings.logRequest name) = (s₁, .ok ()) ∧
      Catalog.packaged.SameBinaries settings.vendorRoot s.tree s₁.tree

theorem logReady_of_none (h : ∀ settings, site.installation.settings env = .ok settings →
    settings.logFile = none) : LogReady site env s := by
  intro settings hset
  obtain ⟨s₁, hs₁, htree⟩ := exists_setUp_of_none s settings (h settings hset)
  exact ⟨s₁, hs₁, fun _ _ _ _ _ => by rw [htree]⟩

/-- On a system that does not look at the variables of the log, a run whose log can be set up does
what the run without these variables does: it has the same history, but for the variables in the
environment of the child, and the same ending. A run whose log cannot be set up ends with this fault
and with nothing in its history. -/
theorem run_withoutLog (hw : w.Blind Env.withoutLog) (site : Site) (env : Env) (args : List String)
    (s : Session) :
    (LogReady site env s →
      (run site env.withoutLog args s w.boot).2.1.events =
        (run site env args s w.boot).2.1.events.map (Event.onEnv Env.withoutLog) ∧
      (run site env.withoutLog args s w.boot).2.2 = (run site env args s w.boot).2.2) ∧
    ∀ settings s₁ f, site.installation.settings env = .ok settings →
      s.setUp (settings.logRequest name) = (s₁, .error f) →
      (run site env args s w.boot).2.1.events = [] ∧
        (run site env args s w.boot).2.2 = .failed (.fault f) := by
  refine ⟨fun hready => ?_, fun settings s₁ f hset hsetup => ?_⟩
  · have hmapped := site.installation.settings_withoutLog env
    cases hset : site.installation.settings env with
    | error f =>
      rw [hset] at hmapped
      rw [run_of_settings hset, run_of_settings hmapped]
      exact ⟨rfl, rfl⟩
    | ok settings =>
      rw [hset] at hmapped
      obtain ⟨s₁, hsetup, hbin⟩ := hready settings hset
      obtain ⟨s₂, hsetup₂, htree⟩ := exists_setUp_of_none s settings.withoutLog rfl
      have hdir : ∀ path, s₂.tree.isDirectory path = s₁.tree.isDirectory path := by
        intro path
        rw [htree, Session.isDirectory_setUp hsetup]
      have hbin₂ : Catalog.packaged.SameBinaries settings.vendorRoot s₁.tree s₂.tree := by
        intro rule hrule libc triple hmem
        rw [htree, hbin rule hrule libc triple hmem]
      have htracks : Machine.Tracks Env.withoutLog (runChild site settings env args s₁ w.boot).2
          (runChild site settings.withoutLog env.withoutLog args s₂ w.boot).2 :=
        tracks_runChild hw rfl hbin₂ hdir
          ((Session.unread_of_setUp hsetup₂).trans (Session.unread_of_setUp hsetup).symm)
      obtain ⟨m, ending, heq, heq', -⟩ := htracks
      rw [run_of_setUp hset hsetup, run_of_setUp hmapped hsetup₂, heq, heq']
      exact ⟨rfl, rfl⟩
  · rw [run_of_setUp_error hset hsetup]
    exact ⟨rfl, rfl⟩

/-- The settings of the installation with a log. -/
def loggedSettings (level : String) (file : Option String) : Settings :=
  ⟨Site.muslOnlyRoot, none, level, file, none⟩

/-- A level of the log changes nothing that the launcher does. -/
theorem run_withoutLog_level :
    (run Site.muslOnly [] ["--help"] muslOnlySession (World.surroundings {}).boot).2.1.events =
        (run Site.muslOnly [(logLevelVar, "debug")] ["--help"] muslOnlySession
          (World.surroundings {}).boot).2.1.events.map (Event.onEnv Env.withoutLog) ∧
      (run Site.muslOnly [] ["--help"] muslOnlySession (World.surroundings {}).boot).2.2 =
        (run Site.muslOnly [(logLevelVar, "debug")] ["--help"] muslOnlySession
          (World.surroundings {}).boot).2.2 := by
  have hsettings : Site.muslOnly.installation.settings [(logLevelVar, "debug")] =
      .ok (loggedSettings "debug" none) := by rfl
  have hready : LogReady Site.muslOnly [(logLevelVar, "debug")] muslOnlySession := by
    refine logReady_of_none fun settings hset => ?_
    obtain rfl := Except.ok.inj (hsettings.symm.trans hset)
    rfl
  have hrun := (run_withoutLog (World.blind {} _) Site.muslOnly [(logLevelVar, "debug")] ["--help"]
    muslOnlySession).1 hready
  have hnone : Env.withoutLog [(logLevelVar, "debug")] = [] := by decide
  rw [hnone] at hrun
  exact hrun

/-- No log file can be made in a directory that is not there. -/
theorem openAppend_missing :
    Site.muslOnly.tree.openAppend "/missing/log" =
      .error (PathFault.toFault .noEntry "/missing/log") := by
  have hfull : Site.muslOnly.tree.absoluteText "/missing/log" = "/missing/log" := by rfl
  have hnul : ("/missing/log" : String).toList.contains '\x00' = false := by decide
  have hfollow : Site.muslOnly.tree.follow "/missing/log" = .error .noEntry :=
    FileTree.follow_of_direct (by decide) (by rfl)
  unfold FileTree.openAppend
  simp only [hfull, hnul, hfollow, Bool.false_eq_true, if_false]

/-- The settings of the log can change what the launcher does: a log file that cannot be opened ends
the run before the child is started. -/
theorem not_forall_run_withoutLog :
    ¬∀ (site : Site) (env : Env) (args : List String) (s : Session) (w : World),
      (run site env.withoutLog args s w.surroundings.boot).2.1.events =
        (run site env args s w.surroundings.boot).2.1.events.map (Event.onEnv Env.withoutLog) ∧
      (run site env.withoutLog args s w.surroundings.boot).2.2 =
        (run site env args s w.surroundings.boot).2.2 := by
  intro h
  have hi : (World.surroundings {}).RefusesInstalls := World.refusesInstalls (by decide)
  have hs : (World.surroundings {}).RefusesSends := World.refusesSends (by decide)
  obtain ⟨m₁, heq, -⟩ :=
    LaunchRequest.run_course hi hs (plan_request_muslOnly ["--help"]) ⟨rfl, rfl, rfl, trivial⟩
  have hplain : (muslOnlyRun ["--help"] (World.surroundings {})).2 = (m₁, .exit 0) :=
    muslOnlyRun_of_ok heq rfl
  have hsettings : Site.muslOnly.installation.settings [(logFileVar, "/missing/log")] =
      .ok (loggedSettings "WARNING" (some "/missing/log")) := by rfl
  obtain ⟨s₁, hsetup⟩ := Session.exists_setUp_of_error (s := muslOnlySession)
    (r := (loggedSettings "WARNING" (some "/missing/log")).logRequest name) rfl (by decide)
    openAppend_missing
  have hlogged : (run Site.muslOnly [(logFileVar, "/missing/log")] ["--help"] muslOnlySession
      (World.surroundings {}).boot).2 =
        ((World.surroundings {}).boot, .failed (.fault (PathFault.toFault .noEntry "/missing/log"))) :=
    run_of_setUp_error hsettings hsetup _
  obtain ⟨-, hending⟩ := h Site.muslOnly [(logFileVar, "/missing/log")] ["--help"] muslOnlySession {}
  rw [hlogged] at hending
  have hnone : Env.withoutLog [(logFileVar, "/missing/log")] = [] := by decide
  rw [hnone] at hending
  have hexit := hending.symm.trans (congrArg Prod.snd hplain)
  cases hexit

end Launcher

end VendorLaunch
