import VendorLaunch.Relay
import VendorLaunch.Vendor

/-!
# Ending as the child ended

A launcher whose child ended with an exit code ends with that code. When a signal killed the
child, the launcher flushes its streams, resets the handler of that signal and sends it to itself;
should it outlive the signal, it ends with the status that a shell would report. Neither a handler
that cannot be reset nor a signal that cannot be sent keeps it from ending. A stream that cannot be
flushed does: nothing guards the flush, so the launcher fails there, before it has touched the
handler.
-/

namespace VendorLaunch

namespace Machine

/-- Resets the handler of a signal. -/
def resetHandler (m : Machine) (signal : Int) (name : String) : Machine × Except Fault Unit :=
  match m.install signal .default with
  | (m, .ok _) => (m, .ok ())
  | (m, .error f) =>
    if f.isSignalRefusal then
      (m.note (.debug launchLogger ("Could not reset handler for " ++ name ++ ": " ++ f.text)),
        .ok ())
    else (m, .error f)

/-- Sends a signal to the own process. -/
def raiseSignal (m : Machine) (signal : Int) (name : String) : Machine × Except Fault Unit :=
  match m.killSelf signal with
  | (m, .ok ()) => (m, .ok ())
  | (m, .error f) =>
    if f.isSignalRefusal then
      (m.note (.debug launchLogger ("Could not re-raise " ++ name ++ ": " ++ f.text)), .ok ())
    else (m, .error f)

/-- Ends the launcher by a signal; gives the exit status of a launcher that outlives it. -/
def endBySignal (m : Machine) (signal : Int) (name : String) : Machine × Except Fault Int :=
  match m.resetHandler signal name with
  | (m, .error f) => (m, .error f)
  | (m, .ok ()) =>
    match m.raiseSignal signal name with
    | (m, .error f) => (m, .error f)
    | (m, .ok ()) => (m, .ok (Termination.signaled signal name).statusForShell)

/-- What the launcher says before it ends by a signal. -/
def raising (name : String) : LogRecord :=
  .debug launchLogger ("Re-raising " ++ name ++ " in parent")

/-- Ends the launcher the way its child ended; gives its exit status. -/
def endAs (m : Machine) : Termination → Machine × Except Fault Int
  | .exited c => (m, .ok c)
  | .signaled n name =>
    let m := m.note (raising name)
    match m.flush with
    | .error f => (m, .error f)
    | .ok () => m.endBySignal n name

/-! ### The flush -/

variable {m : Machine}

theorem flush_note (r : LogRecord) : (m.note r).flush = m.flush := rfl

theorem endAs_of_flushFaults {f : Fault} (h : m.world.flushFaults m.events = some f) (n : Int)
    (name : String) : m.endAs (.signaled n name) = (m.note (raising name), .error f) := by
  have hflush : m.flush = .error f := by simp only [flush, h]
  rw [endAs, flush_note, hflush]

theorem endAs_of_flushed (h : m.world.flushFaults m.events = none) (n : Int) (name : String) :
    m.endAs (.signaled n name) = (m.note (raising name)).endBySignal n name := by
  have hflush : m.flush = .ok () := by simp only [flush, h]
  rw [endAs, flush_note, hflush]

end Machine

end VendorLaunch
