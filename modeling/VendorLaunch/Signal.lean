/-!
# Signals

Signals are numbers; their display names are those of Linux. The real-time signals between the
first and the last one are named by their distance from the first, and a number that is no signal
gets a name made of the number. Such a name has all digits of the number: the limit on the digits of
a number that is read (`Number.digitLimit`) is not put on a number that is written.
-/

namespace VendorLaunch.Signal

/-- The signals that have a name of their own. -/
def names : List (Int × String) :=
  [(1, "SIGHUP"), (2, "SIGINT"), (3, "SIGQUIT"), (4, "SIGILL"), (5, "SIGTRAP"), (6, "SIGABRT"),
    (7, "SIGBUS"), (8, "SIGFPE"), (9, "SIGKILL"), (10, "SIGUSR1"), (11, "SIGSEGV"),
    (12, "SIGUSR2"), (13, "SIGPIPE"), (14, "SIGALRM"), (15, "SIGTERM"), (16, "SIGSTKFLT"),
    (17, "SIGCHLD"), (18, "SIGCONT"), (19, "SIGSTOP"), (20, "SIGTSTP"), (21, "SIGTTIN"),
    (22, "SIGTTOU"), (23, "SIGURG"), (24, "SIGXCPU"), (25, "SIGXFSZ"), (26, "SIGVTALRM"),
    (27, "SIGPROF"), (28, "SIGWINCH"), (29, "SIGIO"), (30, "SIGPWR"), (31, "SIGSYS"),
    (34, "SIGRTMIN"), (64, "SIGRTMAX")]

/-- The first real-time signal. -/
def realTimeMin : Int := 34
/-- The last real-time signal. -/
def realTimeMax : Int := 64

/-- The display name of a signal number. -/
def name (n : Int) : String :=
  match names.find? fun s => s.1 == n with
  | some s => s.2
  | none =>
    if realTimeMin < n ∧ n < realTimeMax then "SIGRTMIN+" ++ toString (n - realTimeMin)
    else "SIG" ++ toString n

/-- The signal of an interrupt from the terminal. -/
def interrupt : Int := 2
/-- The signal that asks a process to end. -/
def terminate : Int := 15
/-- The signal of a terminal that is gone. -/
def hangup : Int := 1

/-- The signals that the launcher passes on to its child. -/
def forwarded : List Int := [interrupt, terminate, hangup]

end VendorLaunch.Signal
