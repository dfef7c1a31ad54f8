import VendorLaunch.Proofs.History

/-!
# Delivery

What passing signals on, starting and waiting do to a machine whose surroundings refuse sends or
let them through. A signal for a child without a process joins its queue; for a child with one it
is sent while the process has no status, and dropped afterwards (`submit_of_started`), which
`Machine.target` sums up. A start that succeeds sends the queue to the new process
(`start_of_none`); one that fails changes nothing but the history (`start_of_some`). Waiting
delivers the arriving signals first and collects the status after them (`wait_of_started`).
-/

namespace VendorLaunch

/-- Whether a handler passes signals on to child `i` and to no other. -/
def Handler.Serves (i : Nat) : Handler → Prop
  | .default => True
  | .relay _ j => j = i

namespace Machine

/-- The process that a signal for child `i` is sent to: its own, while that has no status. -/
def target (m : Machine) (i : Nat) : Option Nat :=
  (m.child i).process.filter fun p => (m.statusOf p).isNone

/-- The handlers in force serve child `i`. -/
def ServedBy (m : Machine) (i : Nat) : Prop := ∀ s, (m.handlerOf s).Serves i

theorem Adds.target {m m' : Machine} {es : List Event} (h : m.Adds es m') (i : Nat) :
    m'.target i = m.target i := by
  simp only [Machine.target, h.child, h.statusOf]

/-! ### Passing signals on -/

/-- The events of sending a signal to a process, if there is one to send it to. -/
def sending (target : Option Nat) (s : Int) : List Event := target.toList.map (Event.sent · s)

theorem foldl_leaves_sending (target : Option Nat) (s t : Int) (h : Handler) :
    (sending target s).foldl (Event.leaves t) h = h := by
  cases target <;> rfl

/-- A signal for a child without a process waits at the end of the queue. -/
theorem submit_of_waiting {m : Machine} {i : Nat} (hp : (m.child i).process = none) (s : Int) :
    ∃ m₁, m.submit i s =
        (m₁.setChild i { m.child i with pending := (m.child i).pending ++ [s] }, .ok ()) ∧
      m.Adds [] m₁ :=
  ⟨m.debug ("Child not started yet, queueing signal " ++ toString s),
    by simp only [submit, hp], adds_debug _ _⟩

/-- A signal for a child with a process is sent while the process has no status. A refused send
is no fault. -/
theorem submit_of_started {m : Machine} {i p : Nat} (hw : m.world.RefusesSends)
    (hp : (m.child i).process = some p) (s : Int) :
    ∃ m', m.submit i s = (m', .ok ()) ∧ m.Adds (sending (m.target i) s) m' := by
  cases hs : m.statusOf p with
  | some c =>
    have ht : m.target i = none := by simp [target, hp, hs]
    refine ⟨m, by simp [submit, hp, hs], ?_⟩
    rw [ht]
    exact Adds.refl m
  | none =>
    have ht : m.target i = some p := by simp [target, hp, hs]
    have hadd : ∀ t, m.Adds [.sent p s] ((m.record (.sent p s)).debug t) := fun t =>
      (m.adds_record fun _ _ => rfl).trans (adds_debug _ t)
    rw [ht]
    cases hf : m.world.sendFault m.events p s with
    | none =>
      refine ⟨(m.record (.sent p s)).debug
        ("Forwarded signal " ++ toString s ++ " to pid " ++ toString p), ?_, hadd _⟩
      simp [submit, hp, hs, send, hf]
    | some f =>
      refine ⟨(m.record (.sent p s)).debug ("Signal forwarding failed: " ++ f.text), ?_, hadd _⟩
      simp [submit, hp, hs, send, hf, hw _ _ _ _ hf]

/-- Several signals for a child with a process are sent in their order. -/
theorem submitAll_of_started {i p : Nat} (ss : List Int) :
    ∀ {m : Machine}, m.world.RefusesSends → (m.child i).process = some p →
      ∃ m', m.submitAll i ss = (m', .ok ()) ∧ m.Adds (ss.flatMap (sending (m.target i))) m' := by
  induction ss with
  | nil => exact fun _ _ => ⟨_, rfl, Adds.refl _⟩
  | cons s ss ih =>
    intro m hw hp
    obtain ⟨m₁, heq, hadd⟩ := submit_of_started hw hp s
    obtain ⟨m', heq', hadd'⟩ := ih (m := m₁) (hadd.world ▸ hw) (hadd.child ▸ hp)
    refine ⟨m', by simp only [submitAll, heq, heq'], ?_⟩
    rw [hadd.target] at hadd'
    exact hadd.trans hadd'

/-! ### Arriving signals -/

/-- The events of a signal that arrives while `h` is its handler. -/
def receipt (target : Option Nat) (s : Int) : Handler → List Event
  | .default => [.unhandled s]
  | .relay n i => .handled s (.relay n i) :: sending target s

theorem foldl_leaves_receipt (target : Option Nat) (s t : Int) (h g : Handler) :
    (receipt target s h).foldl (Event.leaves t) g = g := by
  cases h with
  | default => rfl
  | relay n i => exact foldl_leaves_sending target s t g

/-- Arriving signals change no handler. -/
theorem foldl_leaves_receipts (target : Option Nat) (handler : Int → Handler) (ss : List Int)
    (t : Int) (g : Handler) :
    (ss.flatMap fun s => receipt target s (handler s)).foldl (Event.leaves t) g = g := by
  induction ss with
  | nil => rfl
  | cons s ss ih => rw [List.flatMap_cons, List.foldl_append, foldl_leaves_receipt, ih]

/-- A signal that arrives at a relay of a child with a process is passed on to it. -/
theorem deliver_of_started {m : Machine} {i p : Nat} (hw : m.world.RefusesSends)
    (hp : (m.child i).process = some p) {s : Int} (hs : (m.handlerOf s).Serves i) :
    ∃ m', m.deliver s = (m', .ok ()) ∧ m.Adds (receipt (m.target i) s (m.handlerOf s)) m' := by
  cases hh : m.handlerOf s with
  | default =>
    exact ⟨_, by simp only [deliver, hh], m.adds_record fun _ _ => rfl⟩
  | relay n j =>
    rw [hh] at hs
    obtain rfl : j = i := hs
    have hadd : m.Adds [.handled s (.relay n j)] (m.record (.handled s (.relay n j))) :=
      m.adds_record fun _ _ => rfl
    obtain ⟨m', heq, hadd'⟩ := submit_of_started (m := m.record (.handled s (.relay n j))) hw hp s
    exact ⟨m', by simp only [deliver, hh, heq], hadd.trans hadd'⟩

/-- Signals that arrive one after the other find the same handlers. -/
theorem deliverAll_of_started {i p : Nat} (ss : List Int) :
    ∀ {m : Machine}, m.world.RefusesSends → (m.child i).process = some p → m.ServedBy i →
      ∃ m', m.deliverAll ss = (m', .ok ()) ∧
        m.Adds (ss.flatMap fun s => receipt (m.target i) s (m.handlerOf s)) m' := by
  induction ss with
  | nil => exact fun _ _ _ => ⟨_, rfl, Adds.refl _⟩
  | cons s ss ih =>
    intro m hw hp hs
    obtain ⟨m₁, heq, hadd⟩ := deliver_of_started hw hp (hs s)
    have hsame : ∀ t, m₁.handlerOf t = m.handlerOf t := fun t => by
      rw [hadd.handlers t, foldl_leaves_receipt]
    obtain ⟨m', heq', hadd'⟩ := ih (m := m₁) (hadd.world ▸ hw) (hadd.child ▸ hp)
      fun t => by rw [hsame t]; exact hs t
    refine ⟨m', by simp only [deliverAll, heq, heq'], ?_⟩
    simp only [hadd.target, hsame] at hadd'
    exact hadd.trans hadd'

/-! ### Starting -/

/-- The number of the next process. -/
def nextProcess (m : Machine) : Nat := firstProcess + m.statuses.length

/-- The event of an attempt to start child `i`. -/
def startEvent (m : Machine) (i : Nat) : Event := .spawned (m.child i).argv (m.child i).env

/-- `m'` is `m` with the process of child `i` just started and nothing sent to it yet. -/
structure Begins (m : Machine) (i : Nat) (m' : Machine) : Prop where
  world : m'.world = m.world
  events : m'.events = m.events ++ [m.startEvent i]
  handlers : ∀ s, m'.handlerOf s = m.handlerOf s
  statuses : m'.statuses = m.statuses ++ [none]
  child : m'.child i = (m.child i).begun m.nextProcess

/-- A process that has just begun has no status, so signals are sent to it. -/
theorem Begins.target {m m' : Machine} {i : Nat} (h : m.Begins i m') :
    m'.target i = some m.nextProcess := by
  have hs : m'.statusOf m.nextProcess = none := by simp [statusOf, h.statuses, nextProcess]
  simp [Machine.target, h.child, Child.begun, hs]

theorem Begins.truthful {m m' : Machine} {i : Nat} (h : m.Begins i m') (hm : m.Truthful) :
    m'.Truthful := fun s => by
  rw [h.handlers s, h.events, Event.inForce_concat, hm s]
  rfl

/-- A start that fails leaves every child and every process as it was. -/
theorem start_of_some {m : Machine} {i : Nat} {f : Fault}
    (hf : m.world.spawnFault m.events = some f) :
    ∃ m', m.start i =
        (m', .error (if f.isSystem then .spawn (m.child i).binary f else .fault f)) ∧
      m.Adds [m.startEvent i] m' := by
  have hspawn : (m.debug (m.child i).announcement).spawn (m.child i).argv (m.child i).env =
      ((m.debug (m.child i).announcement).record (m.startEvent i), .error f) := by
    have hf' : (m.debug (m.child i).announcement).world.spawnFault
      (m.debug (m.child i).announcement).events = some f := hf
    simp only [spawn, hf', startEvent]
  refine ⟨(m.debug (m.child i).announcement).record (m.startEvent i), ?_,
    (m.adds_debug _).trans (adds_record _ fun _ _ => rfl)⟩
  simp only [start, hspawn]

/-- A start that succeeds sends the queue to the new process, in order. -/
theorem start_of_none {m : Machine} {i : Nat} (hw : m.world.RefusesSends)
    (hf : m.world.spawnFault m.events = none) :
    ∃ m₁ m', m.start i = (m', .ok ()) ∧ m.Begins i m₁ ∧
      m₁.Adds ((m.child i).pending.map (Event.sent m.nextProcess)) m' := by
  let m₀ := (m.debug (m.child i).announcement).record (m.startEvent i)
  let m₁ := (({ m₀ with statuses := m₀.statuses ++ [none] } : Machine).debug
    ("Child started (pid=" ++ toString m.nextProcess ++ ")")).setChild i
      ((m.child i).begun m.nextProcess)
  have hspawn : (m.debug (m.child i).announcement).spawn (m.child i).argv (m.child i).env =
      ({ m₀ with statuses := m₀.statuses ++ [none] }, .ok m.nextProcess) := by
    have hf' : (m.debug (m.child i).announcement).world.spawnFault
      (m.debug (m.child i).announcement).events = none := hf
    simp only [spawn, hf']
    rfl
  have hbegin : m.Begins i m₁ := ⟨rfl, rfl, fun _ => rfl, rfl, by simp [m₁, setChild]⟩
  have hp : (m₁.child i).process = some m.nextProcess := by rw [hbegin.child]; rfl
  obtain ⟨m', heq, hadd⟩ := submitAll_of_started (m.child i).pending (m := m₁) hw hp
  refine ⟨m₁, m', ?_, hbegin, ?_⟩
  · simp only [start, hspawn]
    simp only [m₁] at heq
    rw [heq]
  · rw [hbegin.target] at hadd
    rwa [List.map_eq_flatMap]

/-! ### Waiting -/

/-- The status that waiting for process `p` collects. -/
def collectable (m : Machine) (p : Nat) : Option Int :=
  (m.statusOf p).or (m.world.endStatus m.events p)

/-- `m'` is `m` with the status of process `p` just collected. -/
structure Collects (m : Machine) (p : Nat) (m' : Machine) : Prop where
  world : m'.world = m.world
  events : m'.events = m.events ++ [.waited p]
  handlers : ∀ s, m'.handlerOf s = m.handlerOf s
  statuses : m'.statuses = m.statuses.set (p - firstProcess) (m.collectable p)
  child : m'.child = m.child

theorem Collects.truthful {m m' : Machine} {p : Nat} (h : m.Collects p m') (hm : m.Truthful) :
    m'.Truthful := fun s => by
  rw [h.handlers s, h.events, Event.inForce_concat, hm s]
  rfl

/-- Waiting delivers the signals that arrive, and then collects the status. -/
theorem wait_of_started {m : Machine} {i p : Nat} (hw : m.world.RefusesSends)
    (hp : (m.child i).process = some p) (hs : m.ServedBy i) :
    ∃ m₁ m', m.wait i = (m', .ok (Termination.ofStatus (m₁.collectable p))) ∧
      m.Adds ((m.world.arrivals m.events).flatMap
        fun s => receipt (m.target i) s (m.handlerOf s)) m₁ ∧ m₁.Collects p m' := by
  obtain ⟨m₁, heq, hadd⟩ := deliverAll_of_started (m.world.arrivals m.events) hw hp hs
  have hcollect : m₁.collect p =
      ((m₁.setStatus p (m₁.collectable p)).record (.waited p), m₁.collectable p) := by
    cases h : m₁.statusOf p <;> simp [collect, collectable, h]
  let m' := ((m₁.setStatus p (m₁.collectable p)).record (.waited p)).debug
    ("Child " ++ toString p ++ " terminated: " ++
      (Termination.ofStatus (m₁.collectable p)).render)
  refine ⟨m₁, m', ?_, hadd, ⟨rfl, rfl, fun _ => rfl, rfl, rfl⟩⟩
  simp only [wait, hp, heq, hcollect, m']

/-! ### Running -/

/-- The events of a child that is started with an empty queue and waited for, up to the moment at
which its status is collected. -/
def upToStatus (m : Machine) (i : Nat) : List Event :=
  m.startEvent i :: (m.world.arrivals (m.events ++ [m.startEvent i])).flatMap
    fun s => receipt (some m.nextProcess) s (m.handlerOf s)

/-- A child whose queue is empty and that can be started runs to its end. -/
theorem runChild_of_none {m : Machine} {i : Nat} (hw : m.world.RefusesSends) (hs : m.ServedBy i)
    (hp : (m.child i).pending = []) (hf : m.world.spawnFault m.events = none) :
    ∃ m' status, status = m.world.endStatus (m.events ++ m.upToStatus i) m.nextProcess ∧
      m.runChild i = (m', .ok (Termination.ofStatus status)) ∧
      m'.world = m.world ∧
      m'.events = m.events ++ (m.upToStatus i ++ [.waited m.nextProcess]) ∧
      (∀ s, m'.handlerOf s = m.handlerOf s) ∧
      m'.statuses = m.statuses ++ [status] ∧
      (m.Truthful → m'.Truthful) := by
  obtain ⟨m₁, m₂, heq₁, hbegin, hadd₁⟩ := start_of_none (i := i) hw hf
  rw [hp] at hadd₁
  have hw₂ : m₂.world = m.world := hadd₁.world.trans hbegin.world
  have hs₂ : ∀ s, m₂.handlerOf s = m.handlerOf s :=
    fun s => (hadd₁.handlers s).trans (hbegin.handlers s)
  have he₂ : m₂.events = m.events ++ [m.startEvent i] := by
    rw [hadd₁.events, hbegin.events]; exact List.append_nil _
  have hchild : (m₂.child i).process = some m.nextProcess := by
    rw [hadd₁.child, hbegin.child]; rfl
  have htarget : m₂.target i = some m.nextProcess := by rw [hadd₁.target, hbegin.target]
  obtain ⟨m₃, m₄, heq₂, hadd₂, hcollect⟩ := wait_of_started (hw₂ ▸ hw) hchild
    fun s => by rw [hs₂ s]; exact hs s
  simp only [hw₂, he₂, hs₂, htarget] at hadd₂
  have he₃ : m₃.events = m.events ++ m.upToStatus i := by
    rw [hadd₂.events, he₂, List.append_assoc]; rfl
  have hst₃ : m₃.statuses = m.statuses ++ [none] := by
    rw [hadd₂.statuses, hadd₁.statuses, hbegin.statuses]
  have hstatus : m₃.collectable m.nextProcess =
      m.world.endStatus (m.events ++ m.upToStatus i) m.nextProcess := by
    have hnone : m₃.statusOf m.nextProcess = none := by simp [statusOf, hst₃, nextProcess]
    rw [collectable, hnone, he₃, hadd₂.world, hw₂]; rfl
  refine ⟨m₄, _, hstatus, ?_, ?_, ?_, fun s => ?_, ?_, fun hm => ?_⟩
  · simp only [runChild, heq₁, heq₂]
  · rw [hcollect.world, hadd₂.world, hw₂]
  · rw [hcollect.events, he₃, List.append_assoc]
  · rw [hcollect.handlers s, hadd₂.handlers s, hs₂ s, foldl_leaves_receipts]
  · rw [hcollect.statuses, hst₃]
    simp [nextProcess]
  · exact hcollect.truthful (((hbegin.truthful hm).adds hadd₁).adds hadd₂)

end Machine

end VendorLaunch
