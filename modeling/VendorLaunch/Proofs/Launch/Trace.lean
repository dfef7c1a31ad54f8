import VendorLaunch.Proofs.Launch.Planning
import VendorLaunch.Proofs.Relay.Spawning
import VendorLaunch.Proofs.Relay.Supervision

/-!
# The trace of a launch

The whole history of a launch on a system on which nothing has happened. When no plan can be made
there is none: no handler is touched and nothing is started. Otherwise it is the course of
supervising the planned child, followed by taking the relays off again, and it is told in full by
the plan and the surroundings (`LaunchRequest.run_trace`).
-/

namespace VendorLaunch

/-- The outset of running a child as the first act on a system. -/
def Surroundings.outset (w : Surroundings) (argv : List String) (env : Env) : Outset where
  world := w
  past := []
  relay := .relay 1 0
  process := firstProcess
  argv := argv
  env := env

namespace LaunchRequest

variable {r : LaunchRequest} {site : Site} {w : Surroundings}

/-- A launch without a plan leaves the system alone. -/
theorem run_of_error {e : Failure} (h : (r.plan site).result = .error e) (m : Machine) :
    r.run site m = ({ m with log := m.log ++ (r.plan site).log }, .error e) := by
  simp only [run, h]

/-- A launch with a plan supervises the planned child. -/
theorem run_of_ok {child : Child} (h : (r.plan site).result = .ok child) (m : Machine) :
    r.run site m =
      (({ m with log := m.log ++ (r.plan site).log } : Machine).setChild 0 child).superviseChild
        0 := by
  simp only [run, h]

/-- The only process that a launch attempts to start is the planned child. -/
theorem spawned_run {argv : List String} {env : Env}
    (h : .spawned argv env ∈ (r.run site w.boot).1.events) :
    ∃ child, (r.plan site).result = .ok child ∧ argv = child.argv ∧ env = child.env := by
  cases hplan : (r.plan site).result with
  | error e =>
    rw [run_of_error hplan] at h
    cases h
  | ok child =>
    rw [run_of_ok hplan] at h
    refine ⟨child, rfl, ?_⟩
    rcases Machine.spawned_superviseChild h with h | h
    · cases h
    · simpa [Machine.setChild] using h

/-- A launch with a plan attempts to start its child. -/
theorem mem_run_of_ok {child : Child} (hi : w.RefusesInstalls)
    (h : (r.plan site).result = .ok child) :
    .spawned child.argv child.env ∈ (r.run site w.boot).1.events := by
  rw [run_of_ok h]
  simpa [Machine.setChild] using Machine.mem_superviseChild (m := ({ w.boot with
    log := w.boot.log ++ (r.plan site).log } : Machine).setChild 0 child) hi 0

/-- A planned child has not been sent any signal. -/
theorem pending_of_plan {child : Child} (h : (r.plan site).result = .ok child) :
    child.pending = [] := by
  obtain ⟨root, key, b, env, -, -, -, -, rfl⟩ := plan_eq_ok_iff.mp h
  rfl

/-- The run of a planned launch, all of it known in advance. -/
theorem run_course {child : Child} (hi : w.RefusesInstalls) (hs : w.RefusesSends)
    (h : (r.plan site).result = .ok child) (hr : (w.outset child.argv child.env).Releases) :
    ∃ m', r.run site w.boot = (m', (w.outset child.argv child.env).outcome child.binary) ∧
      m'.world = w ∧
      m'.events = (w.outset child.argv child.env).course ++
        Event.released (w.outset child.argv child.env).caught ∧
      (∀ s, m'.handlerOf s = .default) ∧
      m'.statuses = (w.outset child.argv child.env).collected ∧ m'.Truthful := by
  let m : Machine := ({ w.boot with log := (r.plan site).log } : Machine).setChild 0 child
  have hchild : m.child 0 = child := by simp [m, Machine.setChild]
  have hout : m.outset 0 = w.outset child.argv child.env := by
    rw [Machine.outset, hchild]
    rfl
  have hpending : (m.child 0).pending = [] := by rw [hchild, pending_of_plan h]
  obtain ⟨m', heq, hw', he', hs', hst', ht'⟩ := Machine.superviseChild_of_releases (m := m) (i := 0)
    hi hs (fun _ => rfl) hpending (by rw [hout]; exact hr)
  rw [hout, hchild] at heq
  rw [hout] at he' hst'
  exact ⟨m', (run_of_ok h _).trans heq, hw', he', hs', hst', ht' fun _ => rfl⟩

/-- A launch for which no plan can be made has no events and touches no handler. A launch with a
plan runs the selected binary with the arguments unchanged and in the environment made from the
given one; its events are one attempt to install the relay for each forwarded signal, one attempt
to start the child, then, if it starts, the arriving signals and one wait, and at the end the
default handler for every signal that the relay was installed for, whether or not the child
could be started. -/
theorem run_trace (r : LaunchRequest) (site : Site) {w : Surroundings}
    (hi : w.RefusesInstalls) (hs : w.RefusesSends) :
    (∀ e, (r.plan site).result = .error e →
      (r.run site w.boot).2 = .error e ∧ (r.run site w.boot).1.events = [] ∧
        (r.run site w.boot).1.handlers = []) ∧
    ∀ child, (r.plan site).result = .ok child →
      (∃ root key b, r.rootAt site = .ok root ∧ (r.platformAt site).result = .ok key ∧
        (r.catalog.select site.tree root key).result = .ok b ∧
        b.environment site.tree r.env (r.managerAt site) = .ok child.env ∧
        child.binary = b.binary ∧ child.argv = b.binary.render :: r.args) ∧
      ((w.outset child.argv child.env).Releases →
        (r.run site w.boot).2 = (w.outset child.argv child.env).outcome child.binary ∧
        (r.run site w.boot).1.events = (w.outset child.argv child.env).course ++
          Event.released (w.outset child.argv child.env).caught ∧
        ∀ s, (r.run site w.boot).1.handlerOf s = .default) := by
  refine ⟨fun e he => ?_, fun child hchild => ⟨?_, fun hr => ?_⟩⟩
  · rw [run_of_error he]
    exact ⟨rfl, rfl, rfl⟩
  · obtain ⟨root, key, b, env, hroot, hkey, hb, henv, rfl⟩ := plan_eq_ok_iff.mp hchild
    exact ⟨root, key, b, hroot, hkey, hb, henv, rfl, rfl⟩
  · obtain ⟨m', heq, -, he, hdefault, -, -⟩ := run_course hi hs hchild hr
    rw [heq]
    exact ⟨rfl, he, hdefault⟩

/-- A system that installs no handler for the signal that asks to end, refuses one send, and ends
the child by a signal. -/
def strictWorld : World where
  endStatus := some (-9)
  arrivals := [2, 15, 1]
  installFaults := [(15, ⟨.system 22 "Invalid argument" none, 0⟩)]
  sendFaults := [(2, ⟨.value "no such signal", 0⟩)]

theorem run_trace_strictWorld :
    ((Site.muslOnlyRequest ["--help"]).run Site.muslOnly strictWorld.surroundings.boot).1.events =
      [.installed 2 (.relay 1 0), .installFailed 15 (.relay 1 0), .installed 1 (.relay 1 0),
        .spawned ["/opt/vendor/x86_64-unknown-linux-musl/codex/codex", "--help"]
          [("PATH", ""), ("CODEX_INFINITE_MANAGED_BY", "unknown")],
        .handled 2 (.relay 1 0), .sent 100 2, .unhandled 15, .handled 1 (.relay 1 0), .sent 100 1,
        .waited 100, .installed 2 .default, .installed 1 .default] := by
  have hi : strictWorld.surroundings.RefusesInstalls := World.refusesInstalls (by decide)
  have hs : strictWorld.surroundings.RefusesSends := World.refusesSends (by decide)
  obtain ⟨-, h⟩ := run_trace (Site.muslOnlyRequest ["--help"]) Site.muslOnly hi hs
  obtain ⟨-, hcourse⟩ := h _ (Site.plan_muslOnly ["--help"])
  obtain ⟨-, hevents, -⟩ := hcourse ⟨rfl, rfl, trivial⟩
  rw [hevents]
  rfl

end LaunchRequest

end VendorLaunch
