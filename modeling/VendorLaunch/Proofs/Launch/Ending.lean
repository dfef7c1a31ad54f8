import VendorLaunch.Program.Launcher
import VendorLaunch.Proofs.Launch.Trace

/-!
# How the launcher ends

A run of the launcher ends as its child ended. When a code was collected, or nothing, the run exits
with the code, or with 1. When a signal ended the child, the launcher makes one attempt to reset
the handler of that signal and then sends it to itself once; it exits with the status of a shell
if it outlives this. By then the relays have been taken off, so the handler in force is the
default one whether or not it could be reset.

Before that the launcher flushes its streams, and a stream that cannot be flushed ends the run with
this fault: the relays are off, and no attempt is made to reset a handler or to send a signal. So
`Launcher.run_mirrors` has two parts, for runs whose streams can be flushed at this moment and for
the others (`Outset.flushFault`).
-/

namespace VendorLaunch

open Event (inForce)

/-! ### Nothing is killed before the end -/

theorem Event.killed_notMem_released (n : Int) (ss : List Int) : .killed n ∉ Event.released ss := by
  intro h
  obtain ⟨_, -, he⟩ := List.mem_map.mp h
  cases he

namespace Outset

variable (o : Outset)

theorem killed_notMem_begun (n : Int) : .killed n ∉ o.begun := by
  intro h
  rcases List.mem_append.mp h with h | h
  · obtain ⟨_, -, he | he⟩ := Surroundings.eq_of_mem_attempts h
    · cases he
    · cases he
  · cases List.mem_singleton.mp h

theorem killed_notMem_receipt (n s : Int) : .killed n ∉ o.receipt s := by
  unfold receipt
  split
  · simp
  · simp

/-- Supervising a child does not signal the own process. -/
theorem killed_notMem_course (n : Int) : .killed n ∉ o.course := by
  unfold course
  split
  · exact o.killed_notMem_begun n
  · intro h
    rcases List.mem_append.mp h with h | h
    · rcases List.mem_append.mp h with h | h
      · exact o.killed_notMem_begun n h
      · obtain ⟨s, -, hs⟩ := List.mem_flatMap.mp h
        exact o.killed_notMem_receipt n s hs
    · cases List.mem_singleton.mp h

end Outset

/-! ### Flushing -/

/-- The events up to the moment at which the relays have been taken off again. -/
def Outset.history (o : Outset) : List Event := o.past ++ (o.course ++ Event.released o.caught)

/-- Why the launcher cannot flush its streams, which it does when a signal has ended its child. -/
def Outset.flushFault (o : Outset) : Option Fault :=
  if o.status.any (· < 0) then o.world.flushFaults o.history else none

theorem Outset.killed_notMem_history {o : Outset} (hpast : ∀ n, .killed n ∉ o.past) (n : Int) :
    .killed n ∉ o.history := by
  intro h
  rcases List.mem_append.mp h with h | h
  · exact hpast n h
  · rcases List.mem_append.mp h with h | h
    · exact o.killed_notMem_course n h
    · exact Event.killed_notMem_released n _ h

/-! ### Ending by a signal -/

namespace Machine

variable {m : Machine}

/-- One attempt to reset the handler is made, and a refusal is no fault. -/
theorem resetHandler_of_refusals (hi : m.world.RefusesInstalls) (n : Int) (name : String) :
    ∃ m', m.resetHandler n name = (m', .ok ()) ∧
      m.Adds [m.world.attempt m.events n .default] m' := by
  have hadd := m.adds_install n .default
  cases hf : m.world.installFault m.events n .default with
  | none =>
    refine ⟨(m.install n .default).1, ?_, hadd⟩
    simp only [resetHandler, install_of_none hf]
  | some f =>
    refine ⟨(m.install n .default).1.note (.debug launchLogger
      ("Could not reset handler for " ++ name ++ ": " ++ f.text)), ?_, hadd.trans (adds_note _ _)⟩
    simp only [resetHandler, install_of_some hf, hi _ _ _ _ hf, if_true]

/-- The signal is sent to the own process once, and a refusal is no fault. -/
theorem raiseSignal_of_refusals (hk : m.world.RefusesKills) (n : Int) (name : String) :
    ∃ m', m.raiseSignal n name = (m', .ok ()) ∧ m.Adds [.killed n] m' := by
  have hadd : m.Adds [.killed n] (m.record (.killed n)) := m.adds_record fun _ _ => rfl
  cases hf : m.world.killFault m.events n with
  | none =>
    refine ⟨m.record (.killed n), ?_, hadd⟩
    simp only [raiseSignal, killSelf, hf]
  | some f =>
    refine ⟨(m.record (.killed n)).note (.debug launchLogger
      ("Could not re-raise " ++ name ++ ": " ++ f.text)), ?_, hadd.trans (adds_note _ _)⟩
    simp only [raiseSignal, killSelf, hf, hk _ _ _ hf, if_true]

/-- Ending by a signal is one attempt to reset its handler and one attempt to send it, whatever
becomes of the two. -/
theorem endBySignal_of_refusals (hi : m.world.RefusesInstalls) (hk : m.world.RefusesKills) (n : Int)
    (name : String) :
    ∃ m', m.endBySignal n name = (m', .ok (128 + n)) ∧
      m.Adds [m.world.attempt m.events n .default, .killed n] m' := by
  obtain ⟨m₁, heq₁, hadd⟩ := resetHandler_of_refusals hi n name
  obtain ⟨m₂, heq₂, hadd₂⟩ := raiseSignal_of_refusals (hadd.world ▸ hk) n name
  refine ⟨m₂, ?_, hadd.trans hadd₂⟩
  simp only [endBySignal, heq₁, heq₂]
  rfl

theorem endAs_signaled (hi : m.world.RefusesInstalls) (hk : m.world.RefusesKills)
    (hf : m.world.flushFaults m.events = none) (n : Int) (name : String) :
    ∃ m', m.endAs (.signaled n name) = (m', .ok (128 + n)) ∧
      m.Adds [m.world.attempt m.events n .default, .killed n] m' := by
  obtain ⟨m', heq, hadd⟩ := endBySignal_of_refusals (m := m.note (raising name)) hi hk n name
  exact ⟨m', (endAs_of_flushed hf n name).trans heq, (m.adds_note (raising name)).trans hadd⟩

end Machine

/-! ### The ending of a run -/

namespace Launcher

/-- How a run mirrors the status of its child: the machine and the ending of the run are these. -/
inductive Mirrors (m : Machine) (ending : Ending) : Option Int → Prop where
  /-- No status was collected, and the run fails. -/
  | unknown (exit : ending = .exit 1) (alive : ∀ n, .killed n ∉ m.events) : Mirrors m ending none
  /-- The run exits with the code of its child. -/
  | code {c : Int} (nonneg : 0 ≤ c) (exit : ending = .exit c) (alive : ∀ n, .killed n ∉ m.events) :
      Mirrors m ending (some c)
  /-- After the wait the handler of the signal is reset as far as it can be; then, the default
  handler being in force, the run sends the signal to itself, once. -/
  | signal {c : Int} {before : List Event} {reset : Event} (neg : c < 0)
      (history : m.events = before ++ [reset, .killed (-c)])
      (attempt : reset = .installed (-c) .default ∨ reset = .installFailed (-c) .default)
      (waited : .waited firstProcess ∈ before) (alive : ∀ n, .killed n ∉ before)
      (inForce : inForce (before ++ [reset]) (-c) = .default)
      (handler : m.handlerOf (-c) = .default) (exit : ending = .exit (128 - c)) :
      Mirrors m ending (some c)

end Launcher

namespace Machine

variable {m : Machine}

/-- A machine on which the relays are off and a child has been waited for mirrors the status of
that child, if the streams can be flushed where the status is that of a signal. -/
theorem mirrors_endAs (hi : m.world.RefusesInstalls) (hk : m.world.RefusesKills)
    (ht : m.Truthful) (hd : ∀ s, m.handlerOf s = .default)
    (hw : .waited firstProcess ∈ m.events) (ha : ∀ n, .killed n ∉ m.events) {rc : Option Int}
    (hf : rc.any (· < 0) = true → m.world.flushFaults m.events = none) :
    ∃ m' c, m.endAs (Termination.ofStatus rc) = (m', .ok c) ∧ m'.statuses = m.statuses ∧
      Launcher.Mirrors m' (.exit c) rc := by
  cases rc with
  | none => exact ⟨m, 1, rfl, rfl, .unknown rfl ha⟩
  | some c =>
    by_cases hc : c < 0
    · obtain ⟨m', heq, hadd⟩ :=
        endAs_signaled hi hk (hf (by simpa using hc)) (-c) (Signal.name (-c))
      have hreset := m.world.attempt_eq_or m.events (-c) .default
      have hinForce : inForce (m.events ++ [m.world.attempt m.events (-c) .default]) (-c) =
          .default := by
        rw [Event.inForce_concat, ← ht (-c), hd (-c)]
        rcases hreset with he | he
        · simp [he, Event.leaves]
        · simp [he, Event.leaves]
      have hhandler : m'.handlerOf (-c) = .default := by
        rw [ht.adds hadd (-c), hadd.events, ← List.singleton_append (l := [Event.killed (-c)]),
          ← List.append_assoc, Event.inForce_concat, hinForce]
        rfl
      refine ⟨m', 128 + -c, ?_, hadd.statuses, ?_⟩
      · rw [Termination.ofStatus, if_pos hc]
        exact heq
      · exact .signal hc hadd.events hreset hw ha hinForce hhandler rfl
    · refine ⟨m, c, ?_, rfl, .code (Int.not_lt.mp hc) rfl ha⟩
      rw [Termination.ofStatus, if_neg hc]
      rfl

end Machine

namespace Launcher

variable {site : Site} {env : Env} {args : List String} {s : Session} {w : Surroundings}
  {argv : List String} {childEnv : Env}

section

variable {settings : Settings} {m m₁ m₂ : Machine}

/-- A run whose launch fails leaves the system as the launch left it. -/
theorem runChild_of_error {e : Failure}
    (h : (request settings env args s.unread).run { site with tree := s.tree } m = (m₁, .error e)) :
    (runChild site settings env args s m).2.1 = m₁ := by
  unfold runChild
  rw [h]

theorem machine_runChild_of_ok {t : Termination}
    (h : (request settings env args s.unread).run { site with tree := s.tree } m = (m₁, .ok t)) :
    (runChild site settings env args s m).2.1 = (m₁.endAs t).1 := by
  unfold runChild
  rw [h]

theorem runChild_of_ok {t : Termination} {c : Int}
    (h : (request settings env args s.unread).run { site with tree := s.tree } m = (m₁, .ok t))
    (hend : m₁.endAs t = (m₂, .ok c)) :
    (runChild site settings env args s m).2 = (m₂, .exit c) := by
  unfold runChild
  rw [h]
  simp only
  rw [hend]

/-- What a run attempts to start is what its launch attempts to start. -/
theorem spawned_runChild
    (hmem : .spawned argv childEnv ∈ (runChild site settings env args s m).2.1.events) :
    .spawned argv childEnv ∈
      ((request settings env args s.unread).run { site with tree := s.tree } m).1.events := by
  rcases h : (request settings env args s.unread).run { site with tree := s.tree } m with
    ⟨m₁, e | t⟩
  · rw [runChild_of_error h] at hmem
    exact hmem
  · rw [machine_runChild_of_ok h] at hmem
    exact (m₁.idles_endAs t).spawned hmem

/-- What a launch has done stays in the history of the run. -/
theorem mem_runChild {e : Event}
    (he : e ∈ ((request settings env args s.unread).run { site with tree := s.tree } m).1.events) :
    e ∈ (runChild site settings env args s m).2.1.events := by
  rcases h : (request settings env args s.unread).run { site with tree := s.tree } m with
    ⟨m₁, e' | t⟩
  · rw [runChild_of_error h]
    rw [h] at he
    exact he
  · rw [machine_runChild_of_ok h]
    rw [h] at he
    exact (m₁.idles_endAs t).mem he

theorem runChild_of_endAs_error {t : Termination} {f : Fault}
    (h : (request settings env args s.unread).run { site with tree := s.tree } m = (m₁, .ok t))
    (hend : m₁.endAs t = (m₂, .error f)) :
    (runChild site settings env args s m).2 = (m₂, .failed (.fault f)) := by
  unfold runChild
  rw [h]
  simp only
  rw [hend]

end

/-! ### The log of a run -/

section

variable {settings : Settings} {s₁ : Session} {m : Machine} {f : Fault}

theorem run_of_settings (h : site.installation.settings env = .error f) (m : Machine) :
    (run site env args s m).2 = (m, .failed (.fault f)) := by
  unfold run
  rw [h]

theorem run_of_setUp (h : site.installation.settings env = .ok settings)
    (hset : s.setUp (settings.logRequest name) = (s₁, .ok ())) (m : Machine) :
    run site env args s m = runChild site settings env args s₁ m := by
  unfold run
  rw [h]
  simp only
  rw [hset]

/-- When the log cannot be set up nothing else happens. -/
theorem run_of_setUp_error (h : site.installation.settings env = .ok settings)
    (hset : s.setUp (settings.logRequest name) = (s₁, .error f)) (m : Machine) :
    (run site env args s m).2 = (m, .failed (.fault f)) := by
  unfold run
  rw [h]
  simp only
  rw [hset]

/-- Without a log file the log can be set up, and no file is touched. -/
theorem exists_setUp_of_none (s : Session) (settings : Settings) (h : settings.logFile = none) :
    ∃ s₁, s.setUp (settings.logRequest name) = (s₁, .ok ()) ∧ s₁.tree = s.tree := by
  have hnone : ∀ f, ¬(settings.logRequest name).Names f := fun f hf => by
    cases h.symm.trans hf.1
  rw [Session.setUp, Log.setup_of_no_file hnone]
  exact ⟨_, rfl, rfl⟩

/-- A run that changes anything on the system has its log set up and launches the binary. -/
theorem exists_runChild (h : (run site env args s m).2.1 ≠ m) :
    ∃ settings s₁, site.installation.settings env = .ok settings ∧
      s.setUp (settings.logRequest name) = (s₁, .ok ()) ∧
      run site env args s m = runChild site settings env args s₁ m := by
  cases hset : site.installation.settings env with
  | error f =>
    rw [run_of_settings hset] at h
    exact absurd rfl h
  | ok settings =>
    rcases hsetup : s.setUp (settings.logRequest name) with ⟨s₁, f | ⟨⟩⟩
    · rw [run_of_setUp_error hset hsetup] at h
      exact absurd rfl h
    · exact ⟨settings, s₁, rfl, hsetup, run_of_setUp hset hsetup m⟩

end

/-! ### The two ways to end -/

/-- How a run ends that has started its child: with the status of the child, or where the streams
cannot be flushed. -/
structure Ends (o : Outset) (m : Machine) (ending : Ending) : Prop where
  statuses : m.statuses = [o.status]
  mirrors : o.flushFault = none → Mirrors m ending o.status
  unflushed : ∀ f, o.flushFault = some f →
    m.events = o.history ∧ (∀ n, .killed n ∉ m.events) ∧ ending = .failed (.fault f)

/-- A run that starts its child ends as the child ended, or where it cannot flush its streams. -/
theorem runChild_ends {settings : Settings} (hi : w.RefusesInstalls) (hs : w.RefusesSends)
    (hk : w.RefusesKills)
    (hstart : .spawned argv childEnv ∈ (runChild site settings env args s w.boot).2.1.events)
    (hspawn : (w.outset argv childEnv).spawnFault = none)
    (hr : (w.outset argv childEnv).Releases) :
    Ends (w.outset argv childEnv) (runChild site settings env args s w.boot).2.1
      (runChild site settings env args s w.boot).2.2 := by
  obtain ⟨child, hplan, rfl, rfl⟩ := LaunchRequest.spawned_run (spawned_runChild hstart)
  obtain ⟨m₁, heq₁, hw₁, he₁, hd₁, hst₁, ht₁⟩ := LaunchRequest.run_course hi hs hplan hr
  let o := w.outset child.argv child.env
  have hhistory : m₁.events = o.history := he₁
  rw [Outset.outcome, hspawn] at heq₁
  rw [Outset.collected, hspawn] at hst₁
  have hwaited : .waited firstProcess ∈ m₁.events := by
    rw [he₁, Outset.course, hspawn]
    simp [Surroundings.outset]
  have halive : ∀ n, .killed n ∉ m₁.events := by
    rw [hhistory]
    exact Outset.killed_notMem_history (fun _ => List.not_mem_nil)
  cases hf : o.flushFault with
  | none =>
    have hflushed : o.status.any (· < 0) = true → m₁.world.flushFaults m₁.events = none := by
      intro hneg
      rw [Outset.flushFault, if_pos hneg] at hf
      rw [hw₁, hhistory]
      exact hf
    obtain ⟨m₂, c, heq₂, hst₂, hmirrors⟩ :=
      Machine.mirrors_endAs (hw₁ ▸ hi) (hw₁ ▸ hk) ht₁ hd₁ hwaited halive hflushed
    rw [runChild_of_ok heq₁ heq₂]
    refine ⟨hst₂.trans hst₁, fun _ => hmirrors, fun f h => ?_⟩
    rw [hf] at h
    cases h
  | some f =>
    rw [Outset.flushFault] at hf
    split at hf
    · next hneg =>
      obtain ⟨c, hstatus, hc⟩ : ∃ c, o.status = some c ∧ c < 0 := by
        simpa [Option.any_eq_true] using hneg
      have hfaults : m₁.world.flushFaults m₁.events = some f := by
        rw [hw₁, hhistory]
        exact hf
      have hend := Machine.endAs_of_flushFaults hfaults (-c) (Signal.name (-c))
      rw [show (w.outset child.argv child.env).status = some c from hstatus, Termination.ofStatus,
        if_pos hc] at heq₁
      rw [runChild_of_endAs_error heq₁ hend]
      refine ⟨hst₁, fun h => ?_, fun g hg => ?_⟩
      · rw [Outset.flushFault, if_pos hneg] at h
        cases hf.symm.trans h
      · rw [Outset.flushFault, if_pos hneg] at hg
        obtain rfl := Option.some.inj (hf.symm.trans hg)
        exact ⟨hhistory, halive, rfl⟩
    · cases hf

/-- A system on which the child is killed and its signal can neither be reset nor sent on. -/
def killedWorld : World where
  endStatus := some (-9)
  arrivals := [2, 15]
  installFaults := [(9, ⟨.system 22 "Invalid argument" none, 0⟩)]
  killFaults := [(9, ⟨.system 1 "Operation not permitted" none, 0⟩)]

/-- The settings that an empty environment makes. -/
def muslOnlySettings : Settings := ⟨Site.muslOnlyRoot, none, "WARNING", none, none⟩

theorem settings_muslOnly : Site.muslOnly.installation.settings [] = .ok muslOnlySettings := by
  have hroot : Site.muslOnly.installation.vendorRoot [] = .ok Site.muslOnlyRoot :=
    congrArg Except.ok Site.root_muslOnly
  rw [Installation.settings, hroot]
  rfl

theorem plan_request_muslOnly (args : List String) :
    ((request muslOnlySettings [] args none).plan Site.muslOnly).result =
      .ok (Site.muslOnlyChild args) :=
  LaunchRequest.plan_eq_ok_iff.mpr
    ⟨Site.muslOnlyRoot, Site.muslOnlyKey, Site.muslOnlyBuild, Site.muslOnlyEnv, rfl,
      Site.detect_muslOnly, Site.select_muslOnly, Site.environment_muslOnly rfl, rfl⟩

/-- A session on the files of the installation. -/
def muslOnlySession : Session := { tree := Site.muslOnly.tree, seconds := 0, process := 1 }

/-- A run with an empty environment and no files but those of the installation. -/
def muslOnlyRun (args : List String) (w : Surroundings) : Session × Machine × Ending :=
  run Site.muslOnly [] args muslOnlySession w.boot

/-- The run launches what the settings ask for on the files of the installation. -/
theorem exists_muslOnlyRun (args : List String) (w : Surroundings) :
    ∃ s, (request muslOnlySettings [] args s.unread).run { Site.muslOnly with tree := s.tree }
        w.boot = (request muslOnlySettings [] args none).run Site.muslOnly w.boot ∧
      muslOnlyRun args w = runChild Site.muslOnly muslOnlySettings [] args s w.boot := by
  obtain ⟨s, hsetup, htree⟩ := exists_setUp_of_none muslOnlySession muslOnlySettings rfl
  have hunread : s.unread = none := Session.unread_of_setUp hsetup
  refine ⟨s, ?_, run_of_setUp settings_muslOnly hsetup w.boot⟩
  rw [htree, hunread]
  rfl

theorem muslOnlyRun_of_ok {args : List String} {w : Surroundings} {m₁ m₂ : Machine}
    {t : Termination} {c : Int}
    (h : (request muslOnlySettings [] args none).run Site.muslOnly w.boot = (m₁, .ok t))
    (hend : m₁.endAs t = (m₂, .ok c)) : (muslOnlyRun args w).2 = (m₂, .exit c) := by
  obtain ⟨s, hlaunch, hrun⟩ := exists_muslOnlyRun args w
  rw [hrun]
  exact runChild_of_ok (hlaunch.trans h) hend

/-- Nothing fails on this system but with a refusal. -/
theorem killedWorld_refuses : killedWorld.surroundings.RefusesInstalls ∧
    killedWorld.surroundings.RefusesSends ∧ killedWorld.surroundings.RefusesKills :=
  ⟨World.refusesInstalls (by decide), World.refusesSends (by decide),
    World.refusesKills (by decide)⟩

section

variable (argv : List String) (childEnv : Env)

theorem killedWorld_outset : (killedWorld.surroundings.outset argv childEnv).spawnFault = none ∧
    (killedWorld.surroundings.outset argv childEnv).Releases ∧
    (killedWorld.surroundings.outset argv childEnv).status = some (-9) ∧
    (killedWorld.surroundings.outset argv childEnv).flushFault = none :=
  ⟨rfl, ⟨rfl, rfl, rfl, trivial⟩, rfl, rfl⟩

end

end Launcher

end VendorLaunch
