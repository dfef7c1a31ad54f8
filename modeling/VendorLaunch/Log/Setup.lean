import VendorLaunch.FileTree
import VendorLaunch.Log.Level
import VendorLaunch.Log.Moment
import VendorLaunch.Log.Template

/-!
# Where the log goes

The log goes to the console and, if one is named, to a file. Each of the two has its own level and
its own form; how much a line of the console tells depends on the level of the console. A record
has to reach the level of the root, which is the lower one of the two, and then the level of the
console or of the file.

Setting the log up again replaces the console and drops the file (`setup_of_no_file`,
`setup_of_openAppend`). When the file cannot be opened, the new console stays and the level of the
root is what it was before.

The file is any that can be opened for appending. It may be the one that a stream of the process
leads to; then the stream shows the lines of the file too. A line that cannot be written is lost
without a word; here every line can be written.
-/

namespace VendorLaunch.Log

/-- Where a handler writes. -/
inductive Sink where
  /-- To the console. -/
  | console
  /-- To the file at a location. -/
  | file (place : List String)
  deriving DecidableEq, Repr

/-- How the time is written. -/
inductive TimeForm where
  /-- The time of day. -/
  | clock
  /-- The day and the time of day. -/
  | full
  /-- The day and the time of day with milliseconds. -/
  | fine
  deriving DecidableEq, Repr

/-- A place that lines are written to, from a level on. -/
structure LineHandler where
  sink : Sink
  level : Int
  template : String
  time : TimeForm
  deriving DecidableEq, Repr

/-- The state of the log: the level of the root and the handlers in order. -/
structure State where
  root : Int := warning
  handlers : List LineHandler := []
  deriving DecidableEq, Repr

/-- A record with where and when it was written. -/
structure Line where
  record : LogRecord
  /-- The number of the line of code that wrote it. -/
  number : Int
  /-- The moment, in seconds. -/
  seconds : Int
  /-- The process that wrote it. -/
  process : Int
  deriving DecidableEq, Repr

/-- What a setup asks for. -/
structure Request where
  level : String := "WARNING"
  file : Option String := none
  fileLevel : Option String := none
  program : String := "codex-infinity"
  deriving DecidableEq, Repr

/-! ### Forms -/

/-- The end of every detailed line. -/
def detail : String := "%(levelname)-5s %(name)s:%(lineno)d — %(message)s"

/-- The form of a line of the console. -/
def consoleForm (program : String) (level : Int) : String × TimeForm :=
  if level ≤ debug then (program ++ ": %(asctime)s " ++ detail, .clock)
  else if level ≤ info then (program ++ ": %(asctime)s [%(name)s] %(message)s", .clock)
  else (program ++ ": %(message)s", .fine)

/-- The form of a line of the file. -/
def fileForm (program : String) : String :=
  "%(asctime)s " ++ program ++ "[%(process)d] " ++ detail

/-- The console of a level. -/
def consoleHandler (program : String) (level : Int) : LineHandler :=
  let (template, time) := consoleForm program level
  ⟨.console, level, template, time⟩

@[simp] theorem level_consoleHandler (program : String) (level : Int) :
    (consoleHandler program level).level = level := rfl

@[simp] theorem sink_consoleHandler (program : String) (level : Int) :
    (consoleHandler program level).sink = .console := rfl

/-- The file at a location with a level. -/
def fileHandler (program : String) (level : Int) (place : List String) : LineHandler :=
  ⟨.file place, level, fileForm program, .full⟩

/-- A time in its form. -/
def TimeForm.write (form : TimeForm) (m : Moment) : String :=
  match form with
  | .clock => m.clockText
  | .full => m.text
  | .fine => m.text ++ ",000"

/-- The name of a logger; the one without a name is the root. -/
def loggerName (name : String) : String := if name = "" then "root" else name

/-- The fields of a line. The time is one only where the template asks for it. -/
def Line.fields (l : Line) (h : LineHandler) : Fields :=
  let r := l.record
  [("name", .text (loggerName r.logger)), ("levelname", .text (levelName r.level)),
    ("levelno", .number r.level), ("message", .text r.message), ("msg", .text r.message),
    ("lineno", .number l.number), ("process", .number l.process)] ++
  (if Text.contains "%(asctime)" h.template then
    [("asctime", .text (h.time.write (Moment.ofSeconds l.seconds)))] else [])

/-- The text that a handler writes for a line; nothing when its template cannot be written. -/
def LineHandler.text (h : LineHandler) (l : Line) : String :=
  match renderTemplate h.template (l.fields h) with
  | some s => s ++ "\n"
  | none => ""

/-! ### Setting up -/

/-- The level of the file: its own, or that of the console. -/
def Request.levelOfFile (r : Request) : Int :=
  match r.fileLevel with
  | some l => if l = "" then levelOf r.level else levelOf l
  | none => levelOf r.level

/-- Sets the log up. The state and the tree are given also when the file cannot be opened. -/
def State.setup (s : State) (t : FileTree) (r : Request) :
    State × FileTree × Except Fault Unit :=
  let level := levelOf r.level
  let console := consoleHandler r.program level
  let file := match r.file with
    | some f => if f = "" then none else some f
    | none => none
  match file with
  | none => (⟨level, [console]⟩, t, .ok ())
  | some f =>
    match t.openAppend f with
    | .error e => (⟨s.root, [console]⟩, t, .error e)
    | .ok (t, place) =>
      (⟨min level r.levelOfFile, [console, fileHandler r.program r.levelOfFile place]⟩, t, .ok ())

/-! ### What a setup leaves -/

section

variable {r : Request} {t : FileTree}

/-- The request names a file. -/
def Request.Names (r : Request) (f : String) : Prop := r.file = some f ∧ f ≠ ""

theorem Request.Names.eq {f g : String} (hf : r.Names f) (hg : r.Names g) : f = g :=
  Option.some.inj (hf.1.symm.trans hg.1)

/-- The console that a request asks for. -/
def Request.console (r : Request) : LineHandler := consoleHandler r.program (levelOf r.level)

/-- The file that a request asks for, at its location. -/
def Request.fileAt (r : Request) (place : List String) : LineHandler :=
  fileHandler r.program r.levelOfFile place

@[simp] theorem Request.level_console (r : Request) : r.console.level = levelOf r.level :=
  level_consoleHandler _ _

@[simp] theorem Request.sink_console (r : Request) : r.console.sink = .console :=
  sink_consoleHandler _ _

@[simp] theorem Request.level_fileAt (r : Request) (place : List String) :
    (r.fileAt place).level = r.levelOfFile := rfl

@[simp] theorem Request.sink_fileAt (r : Request) (place : List String) :
    (r.fileAt place).sink = .file place := rfl

theorem setup_of_no_file (h : ∀ f, ¬r.Names f) (s : State) (t : FileTree) :
    s.setup t r = (⟨levelOf r.level, [r.console]⟩, t, .ok ()) := by
  unfold State.setup
  dsimp only
  cases hfile : r.file with
  | none => rfl
  | some f =>
    have hf : f = "" := Decidable.not_not.mp fun hne => h f ⟨hfile, hne⟩
    dsimp only
    rw [if_pos hf]
    rfl

theorem setup_of_file {f : String} (h : r.Names f) (s : State) (t : FileTree) :
    s.setup t r = match t.openAppend f with
      | .error e => (⟨s.root, [r.console]⟩, t, .error e)
      | .ok (t', place) =>
        (⟨min (levelOf r.level) r.levelOfFile, [r.console, r.fileAt place]⟩, t', .ok ()) := by
  unfold State.setup
  dsimp only
  rw [h.1]
  dsimp only
  rw [if_neg h.2]
  rfl

theorem setup_of_openAppend {f : String} {t₁ : FileTree} {place : List String} (h : r.Names f)
    (hopen : t.openAppend f = .ok (t₁, place)) (s : State) :
    s.setup t r =
      (⟨min (levelOf r.level) r.levelOfFile, [r.console, r.fileAt place]⟩, t₁, .ok ()) := by
  rw [setup_of_file h, hopen]

/-- A setup with a file that returns has opened the file. -/
theorem openAppend_of_setup {f : String} {s s' : State} {t' : FileTree} (h : r.Names f)
    (hsetup : s.setup t r = (s', t', .ok ())) :
    ∃ place, t.openAppend f = .ok (t', place) ∧
      s' = ⟨min (levelOf r.level) r.levelOfFile, [r.console, r.fileAt place]⟩ := by
  cases hopen : t.openAppend f with
  | error e =>
    rw [setup_of_file h, hopen] at hsetup
    cases (Prod.mk.inj (Prod.mk.inj hsetup).2).2
  | ok opened =>
    obtain ⟨t₁, place⟩ := opened
    rw [setup_of_openAppend h hopen] at hsetup
    obtain ⟨rfl, hrest⟩ := Prod.mk.inj hsetup
    obtain ⟨rfl, -⟩ := Prod.mk.inj hrest
    exact ⟨place, rfl, rfl⟩

end

/-! ### Writing -/

/-- Whether a record of a level passes the root. -/
def State.passes (s : State) (level : Int) : Bool := 0 < level && s.root ≤ level

/-- The handlers that take a record of a level. -/
def State.takers (s : State) (level : Int) : List LineHandler :=
  if s.passes level then s.handlers.filter fun h => h.level ≤ level else []

/-- What a warning looks like before the log is set up. -/
def lastResort (s : State) (l : Line) : String :=
  if s.handlers.isEmpty && s.passes l.record.level && warning ≤ l.record.level then
    l.record.message ++ "\n"
  else ""

/-- What a line adds to the console. -/
def State.consoleText (s : State) (l : Line) : String :=
  String.join (((s.takers l.record.level).filter fun h => h.sink = .console).map fun h => h.text l)
    ++ lastResort s l

/-- The tree after a line has been written. -/
def State.writeFiles (s : State) (t : FileTree) (l : Line) : FileTree :=
  (s.takers l.record.level).foldl (fun t h => match h.sink with
    | .console => t
    | .file place => t.appendText place (h.text l)) t

end VendorLaunch.Log
