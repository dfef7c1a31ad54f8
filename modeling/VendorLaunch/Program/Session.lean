import VendorLaunch.Catalog.File
import VendorLaunch.Log.Setup
import VendorLaunch.Settings
import VendorLaunch.Text.Plain

/-!
# Sessions

A session is what a run of a program changes outside of itself: the state of its log, the files,
and what it has written to its two output streams. The log writes to the second stream and to a
file; messages of the program go to either stream, without terminal styles.

`tree_print` and its neighbours say that writing to the streams changes no file.

Some of what a process does with its streams is not modelled. They take any text, as UTF-8, and
writing to them does not fail. A log line has the number 0 in place of the number of the line of
code that wrote it, and nothing is added to it where the code adds the history of a failure. Where a
stream leads is not known here either: when it leads to a file of the tree, what is written to the
stream is not written to the tree as well.
-/

namespace VendorLaunch

/-- The surroundings of a running program. -/
structure Session where
  tree : FileTree
  /-- The time, in seconds. -/
  seconds : Int
  /-- The process that the program runs in. -/
  process : Int
  log : Log.State := {}
  /-- The file of the catalog that comes with the launcher, as long as the process has not read
  it. -/
  unread : Option Path := none
  /-- What was written to standard output. -/
  out : String := ""
  /-- What was written to standard error. -/
  err : String := ""

/-- How a program ends. -/
inductive Ending where
  /-- With an exit status. -/
  | exit (status : Int)
  /-- With a failure that the program does not handle. Whatever runs the program then tells of it on
  standard error, which is not part of the session. -/
  | failed (cause : Failure)
  deriving DecidableEq, Repr

namespace Session

/-- Writes a line to standard output. -/
def print (s : Session) (text : String) : Session :=
  { s with out := s.out ++ Text.plain text ++ "\n" }

/-- Writes a line to standard error. -/
def complain (s : Session) (text : String) : Session :=
  { s with err := s.err ++ Text.plain text ++ "\n" }

/-- The line of the log for a record, with 0 for the number of the line of code. -/
def line (s : Session) (r : LogRecord) : Log.Line := ⟨r, 0, s.seconds, s.process⟩

/-- Logs a record. -/
def note (s : Session) (r : LogRecord) : Session :=
  { s with
    err := s.err ++ s.log.consoleText (s.line r)
    tree := s.log.writeFiles s.tree (s.line r) }

/-- Logs records in order. -/
def noteAll (s : Session) (rs : List LogRecord) : Session := rs.foldl note s

/-- What reading the catalog that comes with the launcher leaves in the log; nothing when the
process has read it before. -/
def reading (s : Session) : List LogRecord := Catalog.packaged.reading s.unread

/-- Sets the log up. -/
def setUp (s : Session) (r : Log.Request) : Session × Except Fault Unit :=
  let (log, tree, result) := s.log.setup s.tree r
  ({ s with log := log, tree := tree }, result)

theorem setup_of_setUp {s s₁ : Session} {r : Log.Request} {result : Except Fault Unit}
    (h : s.setUp r = (s₁, result)) : s.log.setup s.tree r = (s₁.log, s₁.tree, result) := by
  unfold setUp at h
  obtain ⟨rfl, rfl⟩ := Prod.mk.inj h
  rfl

theorem unread_of_setUp {s s₁ : Session} {r : Log.Request} {result : Except Fault Unit}
    (h : s.setUp r = (s₁, result)) : s₁.unread = s.unread := by
  unfold setUp at h
  obtain ⟨rfl, -⟩ := Prod.mk.inj h
  rfl

@[simp] theorem tree_print (s : Session) (t : String) : (s.print t).tree = s.tree := rfl

@[simp] theorem tree_complain (s : Session) (t : String) : (s.complain t).tree = s.tree := rfl

@[simp] theorem out_complain (s : Session) (t : String) : (s.complain t).out = s.out := rfl

@[simp] theorem out_note (s : Session) (r : LogRecord) : (s.note r).out = s.out := rfl

@[simp] theorem out_noteAll (s : Session) (rs : List LogRecord) : (s.noteAll rs).out = s.out := by
  induction rs generalizing s with
  | nil => rfl
  | cons r rs ih => simpa [noteAll] using ih (s.note r)

end Session

/-- The log that settings ask for. -/
def Settings.logRequest (s : Settings) (program : String) : Log.Request :=
  ⟨s.logLevel, s.logFile, s.logFileLevel, program⟩

end VendorLaunch
