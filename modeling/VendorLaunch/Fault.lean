import VendorLaunch.Text.Quoted
import VendorLaunch.Text.Split

/-!
# Faults

What the surroundings of the launcher raise: a system call that fails with an error number, or a
named fault with a text of its own. The program reacts to three families of faults, which the
predicates `isSystem`, `isValue` and `isAbsence` describe; every other fault goes through.
-/

namespace VendorLaunch

/-- A fault raised by the surroundings. -/
inductive Fault where
  /-- A system call failed: error number, reason, and the file it was about. -/
  | system (number : Int) (reason : String) (file : Option String)
  /-- A fault of the named kind with a text. -/
  | named (kind text : String)
  deriving DecidableEq, Repr

namespace Fault

/-- The error numbers that have a kind of fault of their own. -/
def numberKinds : List (Int × String) :=
  [(1, "PermissionError"), (2, "FileNotFoundError"), (3, "ProcessLookupError"),
    (4, "InterruptedError"), (10, "ChildProcessError"), (11, "BlockingIOError"),
    (13, "PermissionError"), (17, "FileExistsError"), (20, "NotADirectoryError"),
    (21, "IsADirectoryError"), (32, "BrokenPipeError"), (103, "ConnectionAbortedError"),
    (104, "ConnectionResetError"), (108, "BrokenPipeError"), (110, "TimeoutError"),
    (111, "ConnectionRefusedError"), (114, "BlockingIOError"), (115, "BlockingIOError")]

/-- The kind of fault that goes with an error number. -/
def kindOfNumber (n : Int) : String :=
  match numberKinds.find? fun k => k.1 == n with
  | some k => k.2
  | none => "OSError"

/-- The kinds of fault that a failing system call can have. -/
def systemKinds : List String :=
  ["OSError", "BlockingIOError", "BrokenPipeError", "ChildProcessError", "ConnectionAbortedError",
    "ConnectionError", "ConnectionRefusedError", "ConnectionResetError", "FileExistsError",
    "FileNotFoundError", "InterruptedError", "IsADirectoryError", "NotADirectoryError",
    "PermissionError", "ProcessLookupError", "TimeoutError"]

/-- The kinds of fault that a value of the right type but the wrong content causes. -/
def valueKinds : List String :=
  ["ValueError", "UnicodeError", "UnicodeDecodeError", "UnicodeEncodeError",
    "UnicodeTranslateError"]

/-- The name of the kind of a fault. -/
def kind : Fault → String
  | system n _ _ => kindOfNumber n
  | named "IOError" _ | named "EnvironmentError" _ => "OSError"
  | named k _ => k

/-- The text of a fault. A missing key is shown in quotes. -/
def text : Fault → String
  | system n reason none => "[Errno " ++ toString n ++ "] " ++ reason
  | system n reason (some file) =>
    "[Errno " ++ toString n ++ "] " ++ reason ++ ": " ++ Text.quoted file
  | named "KeyError" t => Text.quoted t
  | named _ t => t

/-- A failed system call. -/
def isSystem (f : Fault) : Bool := systemKinds.contains f.kind

/-- A value with the wrong content. -/
def isValue (f : Fault) : Bool := valueKinds.contains f.kind

/-- A facility that the system does not have. -/
def isAbsence (f : Fault) : Bool := f.kind == "AttributeError"

/-- A fault of the kind that signal calls are allowed to raise. -/
def isSignalRefusal (f : Fault) : Bool := f.isSystem || f.isValue

/-- A fault about the content of a value. -/
def value (text : String) : Fault := .named "ValueError" text

/-- A fault of a step that cannot be taken. -/
def runtime (text : String) : Fault := .named "RuntimeError" text

/-- A failed system call is one, whatever its number. -/
@[simp] theorem isSystem_system (n : Int) (r : String) (f : Option String) :
    (system n r f).isSystem = true := by
  have hall : ∀ k ∈ numberKinds, systemKinds.contains k.2 = true := by decide
  simp only [isSystem, kind, kindOfNumber]
  split <;> rename_i h
  · exact hall _ (List.mem_of_find?_eq_some h)
  · decide

end Fault

end VendorLaunch
