import VendorLaunch.Proofs.Relay.Block
import VendorLaunch.Proofs.Relay.Delivery

/-!
# Supervising a child

A child is run inside a relay block: the block is opened, the child is started and waited for, and
the block is left. What is known at the outset decides the whole history of this, for surroundings
that fail with refusals and let the relays be taken off again. An `Outset` is what is known, and
`Outset.course` is that history up to the end of the block: the attempts to install the relay, one
attempt to start the child, and, if it starts, the arriving signals and one wait.

`superviseChild_of_releases` says that the program takes this course. It has two parts, the child
in the open block (`runChild_of_opening`) and the block around it.
-/

namespace VendorLaunch

open Event (installedOn)

/-- What decides the course of supervising a child: how the system answers, what has happened,
the relay of the block, the number of the next process, and what it is to run. -/
structure Outset where
  world : Surroundings
  past : List Event
  relay : Handler
  process : Nat
  argv : List String
  env : Env

namespace Outset

variable (o : Outset)

/-- One attempt to install the relay for each forwarded signal. -/
def opening : List Event := o.world.attempts o.relay o.past Signal.forwarded

/-- The signals that the relay takes: those whose attempt succeeds. -/
def caught : List Int := installedOn o.opening

/-- The events up to the attempt to start the child. -/
def begun : List Event := o.opening ++ [.spawned o.argv o.env]

/-- Why the child cannot be started. -/
def spawnFault : Option Fault := o.world.spawnFault (o.past ++ o.opening)

/-- A signal arrives while the child is waited for: the relay takes it and sends it on once, or
the system deals with it. -/
def receipt (s : Int) : List Event :=
  if s ∈ o.caught then [.handled s o.relay, .sent o.process s] else [.unhandled s]

/-- The events up to the moment at which the child, once started, ends. -/
def served : List Event := o.begun ++ (o.world.arrivals (o.past ++ o.begun)).flatMap o.receipt

/-- The status with which the child, once started, ends. -/
def status : Option Int := o.world.endStatus (o.past ++ o.served) o.process

/-- The events up to the end of the block. -/
def course : List Event :=
  match o.spawnFault with
  | some _ => o.begun
  | none => o.served ++ [.waited o.process]

/-- The statuses of the processes that are started. -/
def collected : List (Option Int) :=
  match o.spawnFault with
  | some _ => []
  | none => [o.status]

/-- What supervising a child with this binary ends in. -/
def outcome (binary : Path) : Except Failure Termination :=
  match o.spawnFault with
  | some f => .error (if f.isSystem then .spawn binary f else .fault f)
  | none => .ok (Termination.ofStatus o.status)

/-- The relays can be taken off at the end of the block. -/
def Releases : Prop := o.world.ReleasesAfter (o.past ++ o.course) o.caught

end Outset

namespace Machine

/-- The outset of supervising child `i`. -/
def outset (m : Machine) (i : Nat) : Outset where
  world := m.world
  past := m.events
  relay := m.nextRelay i
  process := m.nextProcess
  argv := (m.child i).argv
  env := (m.child i).env

variable {m : Machine} {i : Nat}

/-! ### The open block -/

/-- The block is open: the relay is in force where its attempt succeeded, and the handlers saved
are default ones. -/
theorem openBlock_forwarded (hi : m.world.RefusesInstalls) (hd : ∀ s, m.handlerOf s = .default) :
    ∃ m', m.openBlock i Signal.forwarded =
        (m', .ok ((m.outset i).caught.map fun s => (s, .default))) ∧
      m.Adds (m.outset i).opening m' ∧
      ∀ s, m'.handlerOf s = if s ∈ (m.outset i).caught then m.nextRelay i else .default := by
  obtain ⟨m', heq, hadd⟩ := openBlock_of_refusals hi i forwarded_nodup
  refine ⟨m', ?_, hadd, fun s => ?_⟩
  · rw [heq]
    simp only [savedHandlers, hd]
    rfl
  · rw [hadd.handlerOf_attempts s, hd s]
    rfl

section

variable {m₁ : Machine} (h : m.Adds (m.outset i).opening m₁)
  (hs₁ : ∀ s, m₁.handlerOf s = if s ∈ (m.outset i).caught then m.nextRelay i else .default)

include hs₁ in
/-- The relay and the default handler serve the child. -/
theorem servedBy_of_opening : m₁.ServedBy i := by
  intro s
  rw [hs₁ s]
  by_cases hmem : s ∈ (m.outset i).caught
  · rw [if_pos hmem]
    rfl
  · rw [if_neg hmem]
    trivial

include h

theorem startEvent_of_opening : m₁.startEvent i = m.startEvent i := by
  simp only [startEvent, h.child]

theorem nextProcess_of_opening : m₁.nextProcess = m.nextProcess := by
  simp only [nextProcess, h.statuses]

theorem spawnFault_of_opening :
    m₁.world.spawnFault m₁.events = (m.outset i).spawnFault := by
  rw [h.world, h.events]
  rfl

include hs₁

/-- The signals that arrive in the open block are those that the outset tells. -/
theorem upToStatus_of_opening :
    m₁.events ++ m₁.upToStatus i = m.events ++ (m.outset i).served := by
  have hreceipt : ∀ s, receipt (some m.nextProcess) s (m₁.handlerOf s) = (m.outset i).receipt s := by
    intro s
    rw [hs₁ s, Outset.receipt]
    by_cases hmem : s ∈ (m.outset i).caught
    · rw [if_pos hmem, if_pos hmem]
      rfl
    · rw [if_neg hmem, if_neg hmem]
      rfl
  simp only [upToStatus, startEvent_of_opening h, nextProcess_of_opening h, h.world, h.events,
    hreceipt, List.append_assoc]
  rw [Outset.served, Outset.begun, List.append_assoc]
  rfl

/-- A child in the open block is started once, and if that succeeds it is waited for once, after
every arriving signal that the relay takes has been sent to it. -/
theorem runChild_of_opening (hs : m.world.RefusesSends) (hp : (m.child i).pending = []) :
    ∃ m', m₁.runChild i = (m', (m.outset i).outcome (m.child i).binary) ∧
      m'.world = m.world ∧
      m'.events = m.events ++ (m.outset i).course ∧
      (∀ s, m'.handlerOf s = m₁.handlerOf s) ∧
      m'.statuses = m.statuses ++ (m.outset i).collected ∧
      (m₁.Truthful → m'.Truthful) := by
  have hspawn := spawnFault_of_opening h
  cases hf : (m.outset i).spawnFault with
  | some f =>
    rw [hf] at hspawn
    obtain ⟨m', heq, hadd⟩ := start_of_some (i := i) hspawn
    refine ⟨m', ?_, hadd.world.trans h.world, ?_, hadd.handlers, ?_, fun hm => hm.adds hadd⟩
    · simp only [runChild, heq, h.child, Outset.outcome, hf]
    · rw [hadd.events, h.events, startEvent_of_opening h, List.append_assoc, Outset.course, hf]
      rfl
    · rw [hadd.statuses, h.statuses, Outset.collected, hf, List.append_nil]
  | none =>
    rw [hf] at hspawn
    obtain ⟨m', _, rfl, heq, hw', he', hs', hst', ht'⟩ := runChild_of_none (i := i) (h.world ▸ hs)
      (servedBy_of_opening hs₁) (by rw [h.child, hp]) hspawn
    have hserved := upToStatus_of_opening h hs₁
    rw [hserved, nextProcess_of_opening h, h.world] at heq hst'
    refine ⟨m', ?_, hw'.trans h.world, ?_, hs', ?_, ht'⟩
    · rw [heq, Outset.outcome, hf]
      rfl
    · rw [he', ← List.append_assoc, hserved, nextProcess_of_opening h, Outset.course, hf,
        List.append_assoc]
      rfl
    · rw [hst', h.statuses, Outset.collected, hf]
      rfl

end

/-! ### The whole course -/

/-- Supervising a child takes the course that the outset tells, and then the relays are taken off,
whether or not the child could be started. -/
theorem superviseChild_of_releases (hi : m.world.RefusesInstalls) (hs : m.world.RefusesSends)
    (hd : ∀ s, m.handlerOf s = .default) (hp : (m.child i).pending = [])
    (hr : (m.outset i).Releases) :
    ∃ m', m.superviseChild i = (m', (m.outset i).outcome (m.child i).binary) ∧
      m'.world = m.world ∧
      m'.events = m.events ++ ((m.outset i).course ++ Event.released (m.outset i).caught) ∧
      (∀ s, m'.handlerOf s = .default) ∧
      m'.statuses = m.statuses ++ (m.outset i).collected ∧
      (m.Truthful → m'.Truthful) := by
  obtain ⟨m₁, heq₁, hadd₁, hs₁⟩ := openBlock_forwarded (i := i) hi hd
  obtain ⟨m₂, heq₂, hw₂, he₂, hs₂, hst₂, ht₂⟩ := runChild_of_opening hadd₁ hs₁ hs hp
  have hr₂ : m₂.world.ReleasesAfter m₂.events (m.outset i).caught := by
    rw [hw₂, he₂]
    exact hr
  obtain ⟨m₃, heq₃, hadd₃⟩ := leaveBlock_of_releases hr₂ ((m.outset i).outcome (m.child i).binary)
  refine ⟨m₃, ?_, hadd₃.world.trans hw₂, ?_, fun s => ?_, hadd₃.statuses.trans hst₂, fun hm => ?_⟩
  · simp only [superviseChild, heq₁, heq₂]
    exact heq₃
  · rw [hadd₃.events, he₂, List.append_assoc]
  · rw [hadd₃.handlers s, Event.foldl_leaves_released, hs₂ s, hs₁ s]
    by_cases hmem : s ∈ (m.outset i).caught
    · rw [if_pos hmem]
    · rw [if_neg hmem, if_neg hmem]
  · exact (ht₂ (hm.adds hadd₁)).adds hadd₃

end Machine

end VendorLaunch
