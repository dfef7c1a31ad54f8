import VendorLaunch.ChildRun

/-!
# Relaying signals

While a relay block is open, signals that arrive at the launcher are passed on to a child. Opening
a block installs one relay for each of its signals and saves the handlers that were there; a
signal whose handler cannot be installed is left out. Leaving the block restores the saved
handlers in order, and ends at the first one that cannot be restored.
-/

namespace VendorLaunch

/-- The handlers that a block has replaced, in the order of their signals' first mention. -/
abbrev Saved := Table Int Handler

namespace Machine

/-- Installs a relay for each signal and adds the replaced handlers to `saved`. A fault that is
no refusal ends it; the handlers saved so far are given either way. -/
def installRelay (m : Machine) (relay : Handler) (saved : Saved) :
    List Int → Machine × Saved × Except Fault Unit
  | [] => (m, saved, .ok ())
  | s :: ss =>
    match m.install s relay with
    | (m, .ok h) => installRelay m relay (Table.insert s h saved) ss
    | (m, .error f) =>
      if f.isSignalRefusal then
        installRelay (m.debug ("Cannot forward " ++ toString s ++ ": " ++ f.text)) relay saved ss
      else (m, saved, .error f)

/-- Restores saved handlers; a fault ends it. -/
def restore (m : Machine) : Saved → Machine × Except Fault Unit
  | [] => (m, .ok ())
  | (s, h) :: rest =>
    match m.install s h with
    | (m, .ok _) => restore m rest
    | (m, .error f) => (m, .error f)

/-- A relay that no block has used, for a block with these signals. A block without signals
needs none. -/
def newRelay (m : Machine) (i : Nat) (signals : List Int) : Machine × Handler :=
  let relays := if signals.isEmpty then m.relays else m.relays + 1
  ({ m with relays := relays }, .relay (m.relays + 1) i)

/-- Opens a block that relays signals to child `i`. When it cannot be opened, what it has
replaced is restored. -/
def openBlock (m : Machine) (i : Nat) (signals : List Int) : Machine × Except Fault Saved :=
  let (m, relay) := m.newRelay i signals
  match m.installRelay relay [] signals with
  | (m, saved, .ok ()) => (m, .ok saved)
  | (m, saved, .error f) =>
    match m.restore saved with
    | (m, .ok ()) => (m, .error f)
    | (m, .error g) => (m, .error g)

/-- Leaves a block whose body ended in `outcome`; a handler that cannot be restored outweighs
it. -/
def leaveBlock {α : Type} (m : Machine) (saved : Saved) (outcome : Except Failure α) :
    Machine × Except Failure α :=
  match m.restore saved with
  | (m, .ok ()) => (m, outcome)
  | (m, .error f) => (m, .error (.fault f))

/-- Starts a child and waits for it. -/
def runChild (m : Machine) (i : Nat) : Machine × Except Failure Termination :=
  match m.start i with
  | (m, .error e) => (m, .error e)
  | (m, .ok ()) => m.wait i

/-- Runs a child inside a block that relays the forwarded signals to it. -/
def superviseChild (m : Machine) (i : Nat) : Machine × Except Failure Termination :=
  match m.openBlock i Signal.forwarded with
  | (m, .error f) => (m, .error (.fault f))
  | (m, .ok saved) =>
    let (m, outcome) := m.runChild i
    m.leaveBlock saved outcome

end Machine

end VendorLaunch
