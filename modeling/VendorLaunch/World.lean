import VendorLaunch.Termination
import VendorLaunch.Logged
import VendorLaunch.Settings

/-!
# The world around a run

Starting a child, sending signals and installing handlers are acts on the operating system.
`Surroundings` say how the system answers them: which calls fail, which signals arrive while the
launcher waits, and with which status a child ends. An answer may depend on everything that has
happened before, so no order of successes and failures is left out; a `World` is the simple case
in which a few rules decide. A `Machine` is the state of such a system, and it records every act
as an event, a failing one too.

The functions of this module are the five system calls. Each of them gives the machine after the
call and the answer; none of them does anything else to the machine, which the lemmas at the end
state. The surroundings also say whether a stream can be flushed. That is an act on a stream of the
process and not on the system, so it is no event.
-/

namespace VendorLaunch

/-- What happens when a signal arrives. -/
inductive Handler where
  /-- What the system does by itself. -/
  | default
  /-- Relay `number` passes the signal on to child `child`. -/
  | relay (number child : Nat)
  deriving DecidableEq, Repr

/-- The name of a handler. -/
def Handler.name : Handler → String
  | default => "SIG_DFL"
  | relay n _ => "relay" ++ toString n

/-- An act on the system or of the system. -/
inductive Event where
  /-- A handler was installed. -/
  | installed (signal : Int) (handler : Handler)
  /-- A handler could not be installed. -/
  | installFailed (signal : Int) (handler : Handler)
  /-- A start was attempted. -/
  | spawned (argv : List String) (env : Env)
  /-- A signal was sent to a process. -/
  | sent (process : Nat) (signal : Int)
  /-- The status of a process was collected. -/
  | waited (process : Nat)
  /-- A signal was sent to the own process. -/
  | killed (signal : Int)
  /-- A signal arrived and its handler was called. -/
  | handled (signal : Int) (handler : Handler)
  /-- A signal arrived and the system dealt with it. -/
  | unhandled (signal : Int)
  deriving DecidableEq, Repr

namespace Event

/-- Whether an event is an attempt to install a handler for a signal. -/
def isInstall (signal : Int) : Event → Bool
  | installed s _ | installFailed s _ => s == signal
  | _ => false

/-- Whether an event sends a signal to a child. -/
def isSend (signal : Int) : Event → Bool
  | sent _ s => s == signal
  | _ => false

/-- Whether an event sends a signal to the own process. -/
def isKill (signal : Int) : Event → Bool
  | killed s => s == signal
  | _ => false

end Event

/-! ### How the system answers -/

/-- A stream that a process writes to. -/
inductive Stream where
  /-- Standard output. -/
  | out
  /-- Standard error. -/
  | err
  deriving DecidableEq, Repr

/-- How the system answers a call, given everything that has happened before it. -/
structure Surroundings where
  /-- The fault of an attempt to start a child. -/
  spawnFault : List Event → Option Fault
  /-- The status of a process that is waited for while it runs. -/
  endStatus : List Event → Nat → Option Int
  /-- The signals that arrive at the start of a wait. -/
  arrivals : List Event → List Int
  /-- The fault of sending a signal to a process. -/
  sendFault : List Event → Nat → Int → Option Fault
  /-- The fault of installing a handler for a signal. -/
  installFault : List Event → Int → Handler → Option Fault
  /-- The fault of signalling the own process. -/
  killFault : List Event → Int → Option Fault
  /-- The fault of flushing a stream: it is closed, or does not take what was written to it. -/
  flushFault : List Event → Stream → Option Fault

/-- The fault of flushing both streams, standard output first. -/
def Surroundings.flushFaults (w : Surroundings) (past : List Event) : Option Fault :=
  (w.flushFault past .out).or (w.flushFault past .err)

/-- A fault that calls raise after a number of calls that succeed. -/
structure FaultRule where
  fault : Fault
  after : Nat := 0
  deriving DecidableEq, Repr

/-- Surroundings that go by a few rules. -/
structure World where
  /-- The fault of every attempt to start a child. -/
  spawnFault : Option Fault := none
  /-- The status of a child that is waited for while it runs. -/
  endStatus : Option Int := some 0
  /-- The signals that arrive at the start of each wait. -/
  arrivals : List Int := []
  /-- The faults of sending a signal to a child, by signal. -/
  sendFaults : Table Int FaultRule := []
  /-- The faults of installing a handler, by signal. -/
  installFaults : Table Int FaultRule := []
  /-- The faults of signalling the own process, by signal. -/
  killFaults : Table Int FaultRule := []
  /-- The faults of flushing, by stream. -/
  flushFaults : Table Stream Fault := []

namespace World

/-- The fault that the next call raises when `done` calls for the signal have been made. -/
def faultAt? (rules : Table Int FaultRule) (signal : Int) (done : Nat) : Option Fault :=
  match Table.find? signal rules with
  | some r => if r.after ≤ done then some r.fault else none
  | none => none

/-- The answers that the rules give. -/
def surroundings (w : World) : Surroundings where
  spawnFault _ := w.spawnFault
  endStatus _ _ := w.endStatus
  arrivals _ := w.arrivals
  sendFault past _ s := faultAt? w.sendFaults s (past.countP (Event.isSend s))
  installFault past s _ := faultAt? w.installFaults s (past.countP (Event.isInstall s))
  killFault past s := faultAt? w.killFaults s (past.countP (Event.isKill s))
  flushFault _ stream := Table.find? stream w.flushFaults

instance : Coe World Surroundings := ⟨surroundings⟩

end World

/-! ### The state of the system -/

/-- A child: what to run, the process it is now, and the signals that wait for its start. -/
structure Child where
  binary : Path := ⟨.here, []⟩
  args : List String := []
  env : Env := []
  process : Option Nat := none
  pending : List Int := []
  deriving DecidableEq, Repr

/-- The state of the system during a run. -/
structure Machine where
  world : Surroundings
  /-- What has happened, in order. -/
  events : List Event := []
  /-- What has been logged, in order. -/
  log : List LogRecord := []
  /-- The handlers that have been installed. -/
  handlers : Table Int Handler := []
  /-- How many relays have been made. -/
  relays : Nat := 0
  /-- The statuses of the processes that were started, in the order of their numbers. -/
  statuses : List (Option Int) := []
  /-- The children of the launcher. -/
  child : Nat → Child := fun _ => {}

/-- A system on which nothing has happened yet. -/
def Surroundings.boot (w : Surroundings) : Machine := { world := w }

/-- The number of the first process that is started. -/
def firstProcess : Nat := 100

namespace Machine

/-- The handler in force for a signal. -/
def handlerOf (m : Machine) (signal : Int) : Handler :=
  (Table.find? signal m.handlers).getD .default

/-- The handlers that are not the default one. -/
def activeHandlers (m : Machine) : Table Int Handler :=
  m.handlers.filter fun h => h.2 ≠ .default

/-- The collected status of a process. -/
def statusOf (m : Machine) (process : Nat) : Option Int :=
  (m.statuses[process - firstProcess]?).join

/-- Records an event. -/
def record (m : Machine) (e : Event) : Machine := { m with events := m.events ++ [e] }

/-- Logs a record. -/
def note (m : Machine) (r : LogRecord) : Machine := { m with log := m.log ++ [r] }

/-- Changes a child. -/
def setChild (m : Machine) (i : Nat) (c : Child) : Machine :=
  { m with child := fun j => if j = i then c else m.child j }

/-- Makes a handler the one in force. -/
def setHandler (m : Machine) (signal : Int) (h : Handler) : Machine :=
  { m with handlers := Table.insert signal h m.handlers }

/-- Sets the collected status of a process. -/
def setStatus (m : Machine) (process : Nat) (status : Option Int) : Machine :=
  { m with statuses := m.statuses.set (process - firstProcess) status }

/-! ### System calls -/

/-- Installs a handler and gives the one before it. -/
def install (m : Machine) (signal : Int) (h : Handler) : Machine × Except Fault Handler :=
  match m.world.installFault m.events signal h with
  | some f => (m.record (.installFailed signal h), .error f)
  | none => ((m.record (.installed signal h)).setHandler signal h, .ok (m.handlerOf signal))

/-- Sends a signal to a process. -/
def send (m : Machine) (process : Nat) (signal : Int) : Machine × Except Fault Unit :=
  (m.record (.sent process signal), match m.world.sendFault m.events process signal with
    | some f => .error f
    | none => .ok ())

/-- Sends a signal to the own process, which outlives it here. -/
def killSelf (m : Machine) (signal : Int) : Machine × Except Fault Unit :=
  (m.record (.killed signal), match m.world.killFault m.events signal with
    | some f => .error f
    | none => .ok ())

/-- Flushes both streams. -/
def flush (m : Machine) : Except Fault Unit :=
  match m.world.flushFaults m.events with
  | some f => .error f
  | none => .ok ()

/-- Starts a process. -/
def spawn (m : Machine) (argv : List String) (env : Env) : Machine × Except Fault Nat :=
  match m.world.spawnFault m.events with
  | some f => (m.record (.spawned argv env), .error f)
  | none =>
    ({ m.record (.spawned argv env) with statuses := m.statuses ++ [none] },
      .ok (firstProcess + m.statuses.length))

/-- Collects the status of a process, which ends now if it has not ended before. -/
def collect (m : Machine) (process : Nat) : Machine × Option Int :=
  let status := match m.statusOf process with
    | some s => some s
    | none => m.world.endStatus m.events process
  ((m.setStatus process status).record (.waited process), status)

/-! ### What the calls do -/

@[simp] theorem handlerOf_setHandler (m : Machine) (s t : Int) (h : Handler) :
    (m.setHandler s h).handlerOf t = if t = s then h else m.handlerOf t := by
  simp only [handlerOf, setHandler, Table.find?_insert]
  split <;> rfl

@[simp] theorem handlerOf_record (m : Machine) (e : Event) (t : Int) :
    (m.record e).handlerOf t = m.handlerOf t := rfl

@[simp] theorem handlerOf_note (m : Machine) (r : LogRecord) (t : Int) :
    (m.note r).handlerOf t = m.handlerOf t := rfl

@[simp] theorem events_setHandler (m : Machine) (s : Int) (h : Handler) :
    (m.setHandler s h).events = m.events := rfl

@[simp] theorem events_record (m : Machine) (e : Event) :
    (m.record e).events = m.events ++ [e] := rfl

@[simp] theorem events_note (m : Machine) (r : LogRecord) : (m.note r).events = m.events := rfl

end Machine

end VendorLaunch
