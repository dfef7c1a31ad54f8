import VendorLaunch.World

/-!
# Running a child

Three operations make up the life of a child. `start` starts its process and passes on, in order,
the signals that came too early. `submit` passes a signal on, or keeps it while there is no
process; a process that has ended gets nothing, and a signal that the system refuses is dropped.
`wait` collects how the process ended; signals go on arriving while it waits, and `deliver` calls
their handlers.
-/

namespace VendorLaunch

/-- The name under which a child process writes to the log. -/
def childLogger : String := "codex_launcher.adapters.process"

namespace Child

/-- The arguments of the process of a child, the program first. -/
def argv (c : Child) : List String := c.binary.render :: c.args

/-- What the log says before a child is started. -/
def announcement (c : Child) : String :=
  "Spawning " ++ c.binary.render ++ " with " ++ toString c.args.length ++ " argument(s)"

/-- The child with a process, to which its queue is about to be passed on. -/
def begun (c : Child) (process : Nat) : Child := { c with process := some process, pending := [] }

end Child

namespace Machine

/-- Logs a record about a child process. -/
def debug (m : Machine) (message : String) : Machine := m.note (.debug childLogger message)

/-- Whether the process of a child is running. -/
def running (m : Machine) (i : Nat) : Bool :=
  match (m.child i).process with
  | some p => (m.statusOf p).isNone
  | none => false

/-- Passes a signal on to a child. -/
def submit (m : Machine) (i : Nat) (signal : Int) : Machine × Except Fault Unit :=
  let c := m.child i
  match c.process with
  | none =>
    let m := m.debug ("Child not started yet, queueing signal " ++ toString signal)
    (m.setChild i { c with pending := c.pending ++ [signal] }, .ok ())
  | some p =>
    if (m.statusOf p).isSome then (m, .ok ())
    else
      match m.send p signal with
      | (m, .ok ()) =>
        (m.debug ("Forwarded signal " ++ toString signal ++ " to pid " ++ toString p), .ok ())
      | (m, .error f) =>
        if f.isSignalRefusal then (m.debug ("Signal forwarding failed: " ++ f.text), .ok ())
        else (m, .error f)

/-- Passes several signals on to a child; a fault ends it. -/
def submitAll (m : Machine) (i : Nat) : List Int → Machine × Except Fault Unit
  | [] => (m, .ok ())
  | s :: ss =>
    match m.submit i s with
    | (m, .ok ()) => submitAll m i ss
    | (m, .error f) => (m, .error f)

/-- A signal arrives. -/
def deliver (m : Machine) (signal : Int) : Machine × Except Fault Unit :=
  match m.handlerOf signal with
  | .default => (m.record (.unhandled signal), .ok ())
  | .relay n i => (m.record (.handled signal (.relay n i))).submit i signal

/-- Several signals arrive; a fault of a handler ends it. -/
def deliverAll (m : Machine) : List Int → Machine × Except Fault Unit
  | [] => (m, .ok ())
  | s :: ss =>
    match m.deliver s with
    | (m, .ok ()) => deliverAll m ss
    | (m, .error f) => (m, .error f)

/-- Starts the process of a child. -/
def start (m : Machine) (i : Nat) : Machine × Except Failure Unit :=
  let c := m.child i
  match (m.debug c.announcement).spawn c.argv c.env with
  | (m, .error f) => (m, .error (if f.isSystem then .spawn c.binary f else .fault f))
  | (m, .ok p) =>
    let m := m.debug ("Child started (pid=" ++ toString p ++ ")")
    match (m.setChild i (c.begun p)).submitAll i c.pending with
    | (m, .ok ()) => (m, .ok ())
    | (m, .error f) => (m, .error (.fault f))

/-- The fault of waiting for a child that was never started. -/
def notStarted : Fault := .runtime "ChildProcess.wait() called before start()"

/-- Waits for the process of a child and says how it ended. -/
def wait (m : Machine) (i : Nat) : Machine × Except Failure Termination :=
  match (m.child i).process with
  | none => (m, .error (.fault notStarted))
  | some p =>
    match m.deliverAll (m.world.arrivals m.events) with
    | (m, .error f) => (m, .error (.fault f))
    | (m, .ok ()) =>
      let (m, status) := m.collect p
      let result := Termination.ofStatus status
      (m.debug ("Child " ++ toString p ++ " terminated: " ++ result.render), .ok result)

end Machine

end VendorLaunch
