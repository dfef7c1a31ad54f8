import VendorLaunch.Proofs.Relay.Delivery
import VendorLaunch.Proofs.Relay.Frame

/-!
# Scripts on a child

A script passes signals on to a child, lets signals arrive, opens and leaves relay blocks, starts
the child and waits for it, in any order. `Scene.run` plays a script and keeps book of the deeds:
which signals were submitted, which starts succeeded, which statuses were collected.

`Deed.dues` says which sends the deeds call for. At the first start that succeeds, all signals
submitted before it go to the new process; from then on each signal goes to the process of the
latest start, while no status of it has been collected. `Follows` is the invariant of the queue and
the process of the child that every act keeps (`Follows.act`), and `run_sends` says that exactly the
sends that are due are made, whatever calls fail.
-/

namespace VendorLaunch.Script

open Machine

/-! ### Deeds -/

/-- What happens to a child, as far as its signals are concerned. -/
inductive Deed where
  /-- A signal was submitted, directly or by a relay that took it. -/
  | submitted (signal : Int)
  /-- A start succeeded; the child is this process now. -/
  | started (process : Nat)
  /-- The exit status of the process was collected; it may be null. -/
  | collected (status : Option Int)
  deriving DecidableEq, Repr

namespace Deed

/-- The signal of a submission. -/
def signal? : Deed → Option Int
  | submitted s => some s
  | _ => none

/-- Whether the deed is a start. -/
def isStart : Deed → Bool
  | started _ => true
  | _ => false

/-- The signals submitted, in order. -/
def submissions (ds : List Deed) : List Int := ds.filterMap signal?

/-- Whether a start has succeeded. -/
def begun (ds : List Deed) : Bool := ds.any isStart

/-- The process that signals are sent to after a deed, when they were sent to `p` before it. -/
def next (p : Option Nat) : Deed → Option Nat
  | submitted _ => p
  | started q => some q
  | collected status => if status.isNone then p else none

/-- The process of the latest start, while the status collected of it is null. -/
def target (ds : List Deed) : Option Nat := ds.foldl next none

/-- The sends that a deed calls for. -/
def due (past : List Deed) : Deed → List (Nat × Int)
  | submitted s => (target past).toList.map (·, s)
  | started p => if begun past then [] else (submissions past).map (p, ·)
  | collected _ => []

/-- The sends that deeds call for after others. -/
def dues (past : List Deed) : List Deed → List (Nat × Int)
  | [] => []
  | d :: ds => due past d ++ dues (past ++ [d]) ds

/-- The submissions of signals. -/
def submits (ss : List Int) : List Deed := ss.map submitted

theorem dues_append (past ds es : List Deed) :
    dues past (ds ++ es) = dues past ds ++ dues (past ++ ds) es := by
  induction ds generalizing past with
  | nil => simp [dues]
  | cons d ds ih => simp [dues, ih]

@[simp] theorem target_concat (ds : List Deed) (d : Deed) :
    target (ds ++ [d]) = next (target ds) d := by
  simp [target, List.foldl_append]

@[simp] theorem target_submits (ds : List Deed) (ss : List Int) :
    target (ds ++ submits ss) = target ds := by
  induction ss generalizing ds with
  | nil => simp [submits]
  | cons s ss ih =>
    have h := ih (ds ++ [submitted s])
    rw [target_concat, List.append_assoc] at h
    exact h

@[simp] theorem begun_append (ds es : List Deed) : begun (ds ++ es) = (begun ds || begun es) := by
  simp [begun]

@[simp] theorem begun_submits (ss : List Int) : begun (submits ss) = false := by
  simp [begun, submits, isStart]

@[simp] theorem submissions_append (ds es : List Deed) :
    submissions (ds ++ es) = submissions ds ++ submissions es := by
  simp [submissions]

@[simp] theorem submissions_submits (ss : List Int) : submissions (submits ss) = ss := by
  induction ss with
  | nil => rfl
  | cons s ss ih => exact congrArg (s :: ·) ih

/-- Submitted signals go to the process that signals are sent to. -/
theorem dues_submits (past : List Deed) (ss : List Int) :
    dues past (submits ss) = ss.flatMap fun s => (target past).toList.map (·, s) := by
  induction ss generalizing past with
  | nil => rfl
  | cons s ss ih =>
    have h := ih (past ++ [submitted s])
    rw [target_concat] at h
    exact congrArg (due past (submitted s) ++ ·) h

end Deed

/-! ### Playing a script -/

/-- What a script does. -/
inductive Act where
  /-- A signal is passed on directly. -/
  | submit (signal : Int)
  /-- A signal arrives. -/
  | arrive (signal : Int)
  /-- A block is opened that relays signals to the child. -/
  | enter (signals : List Int)
  /-- The innermost block is left, if there is one. -/
  | leave
  /-- A start of the child is attempted. -/
  | start
  /-- The child is waited for. -/
  | wait
  deriving DecidableEq, Repr

/-- The machine, the open blocks with the innermost one first, and the deeds so far. -/
structure Scene where
  machine : Machine
  blocks : List Saved := []
  deeds : List Deed := []

/-- A signal that arrives is submitted if its handler is a relay. -/
def taken (m : Machine) (s : Int) : List Int :=
  match m.handlerOf s with
  | .default => []
  | .relay _ _ => [s]

namespace Scene

/-- One act with child `i`. A failure of the act is the caller's, who goes on. -/
def act (i : Nat) (x : Scene) : Act → Scene
  | .submit s =>
    { x with machine := (x.machine.submit i s).1, deeds := x.deeds ++ Deed.submits [s] }
  | .arrive s =>
    { x with
      machine := (x.machine.deliver s).1
      deeds := x.deeds ++ Deed.submits (taken x.machine s) }
  | .enter ss =>
    match x.machine.openBlock i ss with
    | (m, .ok saved) => { x with machine := m, blocks := saved :: x.blocks }
    | (m, .error _) => { x with machine := m }
  | .leave =>
    match x.blocks with
    | [] => x
    | saved :: blocks =>
      { x with machine := (x.machine.leaveBlock saved (.ok ())).1, blocks := blocks }
  | .start =>
    match x.machine.start i with
    | (m, .ok ()) =>
      { x with machine := m, deeds := x.deeds ++ (m.child i).process.toList.map .started }
    | (m, .error _) => { x with machine := m }
  | .wait =>
    match x.machine.wait i with
    | (m, .ok _) =>
      { x with
        machine := m
        deeds := x.deeds ++
          Deed.submits ((x.machine.world.arrivals x.machine.events).flatMap (taken x.machine)) ++
          (m.child i).process.toList.map fun p => .collected (m.statusOf p) }
    | (m, .error _) => { x with machine := m }

/-- Plays a script on child `i`. -/
def run (i : Nat) (x : Scene) (script : List Act) : Scene := script.foldl (act i) x

end Scene

/-! ### The invariant -/

/-- Where the child is, given its deeds. -/
inductive Phase (i : Nat) (m : Machine) (ds : List Deed) : Prop where
  /-- No start has succeeded: the signals submitted so far wait in the queue. -/
  | waiting (process : (m.child i).process = none) (begun : Deed.begun ds = false)
    (pending : (m.child i).pending = Deed.submissions ds)
  /-- A start has succeeded: the queue is empty, and the child is a process of the system. -/
  | running (p : Nat) (process : (m.child i).process = some p)
    (known : p - firstProcess < m.statuses.length) (begun : Deed.begun ds = true)
    (pending : (m.child i).pending = [])

/-- The machine follows the deeds: it has sent what is due, `sent` being what was sent at first,
and the queue and the process of child `i` are as the deeds say. -/
structure Follows (i : Nat) (sent : List (Nat × Int)) (x : Scene) : Prop where
  refuses : x.machine.world.RefusesSends
  serves : x.machine.ServedBy i
  saved : ∀ saved ∈ x.blocks, saved.All (Handler.Serves i)
  phase : Phase i x.machine x.deeds
  target : x.machine.target i = Deed.target x.deeds
  sends : Event.sends x.machine.events = sent ++ Deed.dues [] x.deeds

/-! ### Sends -/

theorem sends_sending (target : Option Nat) (s : Int) :
    Event.sends (sending target s) = target.toList.map (·, s) := by
  cases target <;> rfl

theorem sends_flatMap (ss : List Int) (f : Int → List Event) :
    Event.sends (ss.flatMap f) = ss.flatMap fun s => Event.sends (f s) := by
  induction ss with
  | nil => rfl
  | cons s ss ih => rw [List.flatMap_cons, List.flatMap_cons, Event.sends_append, ih]

/-- The sends of signals that arrive are those that their submission calls for. -/
theorem sends_receipts {i : Nat} {m : Machine} {ds : List Deed} (ht : m.target i = Deed.target ds)
    (ss : List Int) :
    Event.sends (ss.flatMap fun s => receipt (m.target i) s (m.handlerOf s)) =
      Deed.dues ds (Deed.submits (ss.flatMap (taken m))) := by
  rw [sends_flatMap, Deed.dues_submits, List.flatMap_assoc, ← ht]
  refine congrArg (ss.flatMap ·) (funext fun s => ?_)
  unfold taken
  cases m.handlerOf s with
  | default => rfl
  | relay n j =>
    rw [List.flatMap_singleton, ← sends_sending]
    rfl

theorem sends_sent (p : Nat) (ss : List Int) :
    Event.sends (ss.map (Event.sent p)) = ss.map (p, ·) := by
  induction ss with
  | nil => rfl
  | cons s ss ih => exact congrArg ((p, s) :: ·) ih

/-! ### What an act preserves -/

namespace Follows

variable {i : Nat} {sent : List (Nat × Int)} {x : Scene}

/-- Events that send nothing, after which the handlers still serve the child. -/
theorem quiet (h : Follows i sent x) {m : Machine} {es : List Event} (hadd : x.machine.Adds es m)
    (hsend : Event.sends es = []) (hserve : m.ServedBy i) :
    Follows i sent { x with machine := m } := by
  refine ⟨hadd.world ▸ h.refuses, hserve, h.saved, ?_, (hadd.target i).trans h.target, ?_⟩
  · cases h.phase with
    | waiting hp hbegun hq =>
      exact .waiting (hadd.child ▸ hp) hbegun (hadd.child ▸ hq)
    | running p hp hknown hbegun hq =>
      exact .running p (hadd.child ▸ hp) (hadd.statuses ▸ hknown) hbegun (hadd.child ▸ hq)
  · rw [hadd.events, Event.sends_append, hsend, List.append_nil]
    exact h.sends

/-- What blocks of the child do, to the machine and to the blocks that are open. -/
theorem tends (h : Follows i sent x) {m : Machine} (hm : Tends (Handler.Serves i) x.machine m)
    {blocks : List Saved} (hb : ∀ saved ∈ blocks, saved.All (Handler.Serves i)) :
    Follows i sent { x with machine := m, blocks := blocks } := by
  have hserve := hm.handlers h.serves
  obtain ⟨es, hadd, hcalm⟩ := hm
  have hquiet := h.quiet hadd (sends_of_calm hcalm) hserve
  exact ⟨hquiet.refuses, hquiet.serves, hb, hquiet.phase, hquiet.target, hquiet.sends⟩

/-- While the child waits for its start, a submitted signal joins the queue. -/
theorem queue (h : Follows i sent x) (hbegun : Deed.begun x.deeds = false) {m : Machine}
    (hm : Tends (Handler.Serves i) x.machine m) (s : Int) :
    Follows i sent { x with
      machine := m.setChild i
        { x.machine.child i with pending := (x.machine.child i).pending ++ [s] }
      deeds := x.deeds ++ Deed.submits [s] } := by
  have hquiet := h.tends hm h.saved
  obtain ⟨es, hadd, -⟩ := hm
  cases h.phase with
  | running p hp hknown hrun hq => rw [hbegun] at hrun; cases hrun
  | waiting hp _ hq =>
    have htarget : x.machine.target i = none := by simp [Machine.target, hp]
    refine ⟨hquiet.refuses, hquiet.serves, hquiet.saved, ?_, ?_, ?_⟩
    · refine .waiting ?_ (by simp [hbegun]) ?_
      · simpa [Machine.setChild] using hp
      · simp [Machine.setChild, hq]
    · rw [Deed.target_submits, ← h.target, htarget]
      simp [Machine.target, Machine.setChild, hp]
    · rw [Deed.dues_append, Deed.dues_submits, List.nil_append, ← h.target, htarget]
      simpa [Machine.setChild] using hquiet.sends

/-- Once the child has been started, submitted signals are sent while its process is a target. -/
theorem send (h : Follows i sent x) (hbegun : Deed.begun x.deeds = true) {m : Machine}
    {es : List Event} (hadd : x.machine.Adds es m) (hserve : m.ServedBy i) {ss : List Int}
    (hsend : Event.sends es = Deed.dues x.deeds (Deed.submits ss)) :
    Follows i sent { x with machine := m, deeds := x.deeds ++ Deed.submits ss } := by
  refine ⟨hadd.world ▸ h.refuses, hserve, h.saved, ?_, ?_, ?_⟩
  · cases h.phase with
    | waiting hp hwait hq => rw [hbegun] at hwait; cases hwait
    | running p hp hknown _ hq =>
      exact .running p (hadd.child ▸ hp) (hadd.statuses ▸ hknown) (by simp [hbegun])
        (hadd.child ▸ hq)
  · rw [Deed.target_submits]
    exact (hadd.target i).trans h.target
  · rw [hadd.events, Event.sends_append, hsend, Deed.dues_append, h.sends, List.append_assoc,
      List.nil_append]

/-! ### Acts -/

/-- A signal that is passed on joins the queue or is sent. -/
theorem act_submit (h : Follows i sent x) (s : Int) : Follows i sent (x.act i (.submit s)) := by
  cases h.phase with
  | waiting hp hbegun hq =>
    obtain ⟨m₁, heq, hadd⟩ := submit_of_waiting hp s
    have hqueue := h.queue hbegun hadd.tends_nil s
    simp only [Scene.act, heq]
    exact hqueue
  | running p hp hknown hbegun hq =>
    obtain ⟨m', heq, hadd⟩ := submit_of_started h.refuses hp s
    have hsend : Event.sends (sending (x.machine.target i) s) =
        Deed.dues x.deeds (Deed.submits [s]) := by
      rw [sends_sending, Deed.dues_submits, h.target, List.flatMap_singleton]
    have hserve : m'.ServedBy i := fun t => by
      rw [hadd.handlers t, foldl_leaves_sending]
      exact h.serves t
    simp only [Scene.act, heq]
    exact h.send hbegun hadd hserve hsend

/-- A signal that arrives is dealt with by the system, joins the queue or is sent. -/
theorem act_arrive (h : Follows i sent x) (s : Int) : Follows i sent (x.act i (.arrive s)) := by
  -- what is recorded before the signal is submitted is calm
  have hrecord : ∀ e : Event, (∀ t g, e.leaves t g = g) → e.Calm (Handler.Serves i) →
      Tends (Handler.Serves i) x.machine (x.machine.record e) :=
    fun e hleaves hcalm => (x.machine.adds_record hleaves).tends_singleton hcalm
  cases h.phase with
  | waiting hp hbegun hq =>
    cases hh : x.machine.handlerOf s with
    | default =>
      have hquiet := h.tends (hrecord (.unhandled s) (fun _ _ => rfl) trivial) h.saved
      simp only [Scene.act, deliver, taken, hh, Deed.submits, List.map_nil, List.append_nil]
      exact hquiet
    | relay n j =>
      have hserve := h.serves s
      rw [hh] at hserve
      obtain rfl : j = i := hserve
      obtain ⟨m₁, heq, hadd⟩ :=
        submit_of_waiting (m := x.machine.record (.handled s (.relay n j))) hp s
      have htends := hrecord (.handled s (.relay n j)) (fun _ _ => rfl) trivial
      have hqueue := h.queue hbegun (htends.trans hadd.tends_nil) s
      simp only [Scene.act, deliver, taken, hh, heq]
      exact hqueue
  | running p hp hknown hbegun hq =>
    obtain ⟨m', heq, hadd⟩ := deliver_of_started h.refuses hp (h.serves s)
    have hsend := sends_receipts h.target [s]
    rw [List.flatMap_singleton, List.flatMap_singleton] at hsend
    have hserve : m'.ServedBy i := fun t => by
      rw [hadd.handlers t, foldl_leaves_receipt]
      exact h.serves t
    simp only [Scene.act, heq]
    exact h.send hbegun hadd hserve hsend

theorem act_enter (h : Follows i sent x) (ss : List Int) :
    Follows i sent (x.act i (.enter ss)) := by
  obtain ⟨htends, hsaved⟩ := tends_openBlock h.serves (fun _ => rfl) ss
  rw [Scene.act]
  split
  · next m saved heq =>
    rw [heq] at htends hsaved
    refine h.tends htends fun saved' hmem => ?_
    rcases List.mem_cons.mp hmem with rfl | hmem
    · exact hsaved _ rfl
    · exact h.saved saved' hmem
  · next m f heq =>
    rw [heq] at htends
    exact h.tends htends h.saved

theorem act_leave (h : Follows i sent x) : Follows i sent (x.act i .leave) := by
  rw [Scene.act]
  split
  · exact h
  · next saved blocks heq =>
    have hsaved := h.saved
    rw [heq] at hsaved
    exact h.tends (tends_leaveBlock (hsaved saved List.mem_cons_self) _ _)
      fun saved' hmem => hsaved saved' (List.mem_cons_of_mem _ hmem)

/-- A start that fails changes nothing but the history; one that succeeds sends the queue to the
new process. -/
theorem act_start (h : Follows i sent x) : Follows i sent (x.act i .start) := by
  cases hf : x.machine.world.spawnFault x.machine.events with
  | some f =>
    obtain ⟨m', heq, hadd⟩ := start_of_some (i := i) hf
    have hserve : m'.ServedBy i := fun s => by
      rw [hadd.handlers s]
      exact h.serves s
    simp only [Scene.act, heq]
    exact h.quiet hadd rfl hserve
  | none =>
    obtain ⟨m₁, m', heq, hbegin, hadd⟩ := start_of_none (i := i) h.refuses hf
    have hchild : m'.child i = (x.machine.child i).begun x.machine.nextProcess := by
      rw [hadd.child, hbegin.child]
    have hdeeds : (m'.child i).process.toList.map Deed.started =
        [.started x.machine.nextProcess] := by rw [hchild]; rfl
    have hnone : ∀ s g, ((x.machine.child i).pending.map
        (Event.sent x.machine.nextProcess)).foldl (Event.leaves s) g = g := by
      intro s g
      induction (x.machine.child i).pending generalizing g with
      | nil => rfl
      | cons t ss ih => exact ih g
    have hdue : (x.machine.child i).pending.map (x.machine.nextProcess, ·) =
        Deed.due x.deeds (.started x.machine.nextProcess) := by
      cases h.phase with
      | waiting hp hbegun hq => simp [Deed.due, hbegun, hq]
      | running p hp hknown hbegun hq => simp [Deed.due, hbegun, hq]
    simp only [Scene.act, heq, hdeeds]
    refine ⟨?_, fun s => ?_, h.saved, ?_, ?_, ?_⟩
    · rw [hadd.world, hbegin.world]
      exact h.refuses
    · rw [hadd.handlers s, hbegin.handlers s, hnone]
      exact h.serves s
    · refine .running x.machine.nextProcess (by rw [hchild]; rfl) ?_ ?_ (by rw [hchild]; rfl)
      · rw [hadd.statuses, hbegin.statuses]
        simp [nextProcess]
      · simp [Deed.begun, Deed.isStart]
    · rw [hadd.target, hbegin.target, Deed.target_concat]
      rfl
    · rw [hadd.events, hbegin.events, Event.sends_append, Event.sends_append, sends_sent, hdue,
        h.sends, Deed.dues_append, List.nil_append]
      simp [startEvent, Event.sends, Event.sent?, Deed.dues]

/-- The status of a process is collected after the signals that arrive have been submitted. -/
theorem collect (h : Follows i sent x) {p : Nat} (hp : (x.machine.child i).process = some p)
    {m : Machine} (hm : x.machine.Collects p m) :
    Follows i sent { x with
      machine := m
      deeds := x.deeds ++ (m.child i).process.toList.map fun q => .collected (m.statusOf q) } := by
  cases h.phase with
  | waiting hwait hbegun hq => rw [hp] at hwait; cases hwait
  | running q hq hknown hbegun hqueue =>
    obtain rfl : p = q := Option.some.inj (hp.symm.trans hq)
    have hstatus : m.statusOf p = x.machine.collectable p := by
      simp [statusOf, hm.statuses, hknown]
    have hchild : (m.child i).process = some p := by rw [hm.child, hp]
    have hdeeds : ((m.child i).process.toList.map fun q => Deed.collected (m.statusOf q)) =
        [.collected (x.machine.collectable p)] := by rw [hchild, ← hstatus]; rfl
    rw [hdeeds]
    refine ⟨hm.world ▸ h.refuses, fun s => ?_, h.saved, ?_, ?_, ?_⟩
    · rw [hm.handlers s]
      exact h.serves s
    · refine .running p hchild ?_ (by simp [hbegun]) (hm.child ▸ hqueue)
      rw [hm.statuses, List.length_set]
      exact hknown
    · rw [Deed.target_concat, ← h.target]
      simp only [Machine.target, hchild, hp, Option.filter_some, hstatus, Deed.next]
      cases hc : x.machine.collectable p with
      | some c => simp
      | none =>
        have hnone : x.machine.statusOf p = none := by
          simp only [collectable, Option.or_eq_none_iff] at hc
          exact hc.1
        simp [hnone]
    · rw [hm.events, Event.sends_append, h.sends, Deed.dues_append]
      simp [Event.sends, Event.sent?, Deed.dues, Deed.due]

/-- Waiting lets signals arrive, and then collects the status. -/
theorem act_wait (h : Follows i sent x) : Follows i sent (x.act i .wait) := by
  cases h.phase with
  | waiting hp hbegun hq =>
    have heq : x.machine.wait i = (x.machine, .error (.fault notStarted)) := by
      simp only [Machine.wait, hp]
    simp only [Scene.act, heq]
    exact h
  | running p hp hknown hbegun hq =>
    obtain ⟨m₁, m', heq, hadd, hcollect⟩ := wait_of_started h.refuses hp h.serves
    have hserve : m₁.ServedBy i := fun t => by
      rw [hadd.handlers t, foldl_leaves_receipts]
      exact h.serves t
    have hp₁ : (m₁.child i).process = some p := by rw [hadd.child, hp]
    have h₁ := h.send hbegun hadd hserve (sends_receipts h.target _)
    simp only [Scene.act, heq]
    exact h₁.collect hp₁ hcollect

/-- Every act keeps the invariant. -/
theorem act (h : Follows i sent x) (a : Act) : Follows i sent (x.act i a) := by
  cases a with
  | submit s => exact h.act_submit s
  | arrive s => exact h.act_arrive s
  | enter ss => exact h.act_enter ss
  | leave => exact h.act_leave
  | start => exact h.act_start
  | wait => exact h.act_wait

/-- Every script keeps the invariant. -/
theorem run (h : Follows i sent x) (script : List Act) : Follows i sent (x.run i script) := by
  induction script generalizing x with
  | nil => exact h
  | cons a script ih => exact ih (h.act a)

end Follows

/-! ### Whole scripts -/

/-- A child that has not been started follows the empty list of deeds. -/
theorem follows_of_fresh {i : Nat} {m : Machine} (hw : m.world.RefusesSends) (hs : m.ServedBy i)
    (hp : (m.child i).process = none) (hq : (m.child i).pending = []) :
    Follows i (Event.sends m.events) { machine := m } where
  refuses := hw
  serves := hs
  saved _ hmem := by cases hmem
  phase := .waiting hp rfl hq
  target := by simp [Machine.target, hp, Deed.target]
  sends := (List.append_nil _).symm

/-- Over every script on a child that has not been started, the signals sent to processes are
exactly those that the deeds call for, in their order: at the first start that succeeds all that
were submitted before it, and from then on each one to the process of the latest start while the
status collected of it is null. Once a start has succeeded the queue is empty, and a start that
fails leaves the child as it is. -/
theorem run_sends {i : Nat} {m : Machine} (hw : m.world.RefusesSends) (hs : m.ServedBy i)
    (hp : (m.child i).process = none) (hq : (m.child i).pending = []) (script : List Act) :
    Event.sends (Scene.run i { machine := m } script).machine.events =
        Event.sends m.events ++ Deed.dues [] (Scene.run i { machine := m } script).deeds ∧
      (Deed.begun (Scene.run i { machine := m } script).deeds = true →
        ((Scene.run i { machine := m } script).machine.child i).pending = []) ∧
      ∀ e, ((Scene.run i { machine := m } script).machine.start i).2 = .error e →
        ((Scene.run i { machine := m } script).machine.start i).1.child =
          (Scene.run i { machine := m } script).machine.child := by
  have h := (follows_of_fresh hw hs hp hq).run script
  refine ⟨h.sends, fun hbegun => ?_, fun e he => ?_⟩
  · cases h.phase with
    | waiting _ hwait _ => rw [hbegun] at hwait; cases hwait
    | running _ _ _ _ hq => exact hq
  · cases hf : (Scene.run i { machine := m } script).machine.world.spawnFault
        (Scene.run i { machine := m } script).machine.events with
    | some f =>
      obtain ⟨m', heq, hadd⟩ := start_of_some (i := i) hf
      rw [heq]
      exact hadd.child
    | none =>
      obtain ⟨m₁, m', heq, -, -⟩ := start_of_none (i := i) h.refuses hf
      rw [heq] at he
      cases he

/-- A system on which the first start fails, the hang-up signal cannot be sent, and an interrupt
arrives during each wait. -/
def lateWorld : Surroundings :=
  { World.surroundings { arrivals := [2], sendFaults := [(1, ⟨.value "no such signal", 0⟩)] } with
    spawnFault := fun past => if past.isEmpty then some (.system 2 "No such file" none) else none }

theorem run_sends_lateWorld :
    Event.sends (Scene.run 0 { machine := lateWorld.boot }
      [.submit 1, .start, .enter [2], .arrive 2, .arrive 15, .start, .arrive 2, .submit 1, .wait,
        .submit 9, .leave, .arrive 2, .start, .submit 15]).machine.events =
      [(100, 1), (100, 2), (100, 2), (100, 1), (100, 2), (101, 15)] := by
  have hw : lateWorld.RefusesSends :=
    World.refusesSends (w := { sendFaults := [(1, ⟨.value "no such signal", 0⟩)] }) (by decide)
  obtain ⟨hsends, -, -⟩ := run_sends (i := 0) (m := lateWorld.boot) hw (fun _ => trivial) rfl rfl
    [.submit 1, .start, .enter [2], .arrive 2, .arrive 15, .start, .arrive 2, .submit 1, .wait,
      .submit 9, .leave, .arrive 2, .start, .submit 15]
  rw [hsends]
  rfl

end VendorLaunch.Script
