import VendorLaunch.Failure
import VendorLaunch.Number.Checked
import VendorLaunch.Signal

/-!
# How a child ended

A child ends with an exit code or by a signal. `ofStatus` reads the status that the system
collects, in which a negative number is the signal that killed the child; `statusForShell` is the
status that a shell would report.

As data a result has four fields, of which an exit fills one and a signal two besides the kind.
`TerminationFields.result` says which combinations are results.
-/

namespace VendorLaunch

/-- How a child ended. -/
inductive Termination where
  /-- With an exit code. -/
  | exited (code : Int)
  /-- By the signal with this number and display name. -/
  | signaled (number : Int) (name : String)
  deriving DecidableEq, Repr

/-- The two kinds of results. -/
inductive TerminationKind where
  | code
  | signal
  deriving DecidableEq, Repr

/-- The name of a kind. -/
def TerminationKind.name : TerminationKind → String
  | code => "code"
  | signal => "signal"

/-- The kinds by name. -/
def TerminationKind.words : List (String × TerminationKind) :=
  [(code.name, code), (signal.name, signal)]

/-- The four fields of a result in data. -/
structure TerminationFields where
  kind : TerminationKind
  status : Option Int
  signalNumber : Option Int
  signal : Option String
  deriving DecidableEq, Repr

namespace TerminationFields

/-- The result that the fields describe, or what is wrong with them. -/
def result (f : TerminationFields) : Except String Termination :=
  match f.kind with
  | .code =>
    match f.status, f.signalNumber, f.signal with
    | some c, none, none => .ok (.exited c)
    | _, _, _ => .error "a 'code' result carries exit_code only"
  | .signal =>
    match f.status, f.signalNumber, f.signal with
    | none, some n, some s => .ok (.signaled n s)
    | _, _, _ => .error "a 'signal' result carries signal_number and signal only"

/-- The status that a shell would report; without a signal and a code it is that of a failure. -/
def statusForShell (f : TerminationFields) : Int :=
  match f.signalNumber, f.status with
  | some n, _ => 128 + n
  | none, some c => c
  | none, none => 1

end TerminationFields

namespace Termination

/-- The fields of a result. -/
def fields : Termination → TerminationFields
  | exited c => ⟨.code, some c, none, none⟩
  | signaled n s => ⟨.signal, none, some n, some s⟩

/-- The fields of a result describe it. -/
@[simp] theorem result_fields (r : Termination) : r.fields.result = .ok r := by
  cases r <;> rfl

/-- The name of the model. -/
def model : String := "ChildResult"

/-- Reads a result from data. -/
def ofData (d : Data) : Validated Termination := do
  let fs ← Validated.fields model d
  let (((kind, status), number), name) ←
    (((Validated.required "kind" (Validated.literal TerminationKind.words) fs).and
      (Validated.optional "exit_code" none (Validated.nullable Validated.int) fs)).and
      (Validated.optional "signal_number" none (Validated.nullable Validated.int) fs)).and
      (Validated.optional "signal" none (Validated.nullable Validated.text) fs)
  match (TerminationFields.mk kind status number name).result with
  | .ok r => return r
  | .error reason => Validated.complain (.rejected reason)

/-- A child killed by a signal. -/
def ofSignal (n : Int) : Termination := signaled n (Signal.name n)

/-- The result of a collected status; a status that is not known counts as a failure. -/
def ofStatus : Option Int → Termination
  | none => exited 1
  | some c => if c < 0 then ofSignal (-c) else exited c

/-- The signal that ended the child. -/
def signalNumber (r : Termination) : Option Int := r.fields.signalNumber

/-- The status that a shell would report. -/
def statusForShell (r : Termination) : Int := r.fields.statusForShell

/-- The result in words: its four fields. -/
def render (r : Termination) : String :=
  let f := r.fields
  let number := fun (v : Option Int) => match v with
    | some n => toString n
    | none => "None"
  "kind=" ++ Text.quoted f.kind.name ++ " exit_code=" ++ number f.status ++ " signal_number=" ++
    number f.signalNumber ++ " signal=" ++ (match f.signal with
      | some s => Text.quoted s
      | none => "None")

/-- The result as data, with the two numbers that are computed from it. -/
def toData (r : Termination) : Data :=
  let f := r.fields
  let number := fun (v : Option Int) => match v with
    | some n => Data.int n
    | none => Data.null
  .dict [(.text "kind", .text f.kind.name), (.text "exit_code", number f.status),
    (.text "signal_number", number f.signalNumber),
    (.text "signal", match f.signal with
      | some s => .text s
      | none => .null),
    (.text "signum", number r.signalNumber), (.text "shell_status", .int r.statusForShell)]

/-! ### Results of loosely typed values

A caller may give a code, a signal number or a status as any data. Codes are read the way the
fields of the model are; signal numbers are cut down to integers. Whatever is given, the result is
made by giving the model its fields, and goes through its check. -/

/-- The result whose fields are given by name. -/
def ofNamed (fields : List (String × Data)) : Except Failure Termination :=
  match ofData (.dict (fields.map fun f => (.text f.1, f.2))) with
  | .ok r => .ok r
  | .error vs => .error (.invalid model vs)

/-- The integer that a value is cut down to. -/
def cutToInt (d : Data) : Except Fault Int :=
  match d with
  | .int i => .ok i
  | .bool b => .ok (if b then 1 else 0)
  | .float x =>
    match x, x.truncate? with
    | _, some i => .ok i
    | .infinite _, none =>
      .error (.named "OverflowError" "cannot convert float infinity to integer")
    | _, none => .error (.value "cannot convert float NaN to integer")
  | .text s => Number.readInt 10 s
  | d => .error (.named "TypeError"
      ("int() argument must be a string, a bytes-like object or a real number, not " ++
        Text.quoted d.kindName))

/-- The result of an exit code given as data; no code counts as a failure. -/
def ofCodeData (d : Data) : Except Failure Termination :=
  let code := match d with
    | .null => .int 1
    | d => d
  ofNamed [("kind", .text TerminationKind.code.name), ("exit_code", code)]

/-- The result of a signal number given as data. -/
def ofSignalData (d : Data) : Except Failure Termination :=
  match cutToInt d with
  | .ok n => ofNamed [("kind", .text TerminationKind.signal.name), ("signal_number", .int n),
      ("signal", .text (Signal.name n))]
  | .error f => .error (.fault f)

/-- The result of a status given as data. -/
def ofStatusData (d : Data) : Except Failure Termination :=
  match d with
  | .int i => if i < 0 then ofSignalData (.int (-i)) else ofCodeData d
  | .null | .bool _ => ofCodeData d
  | .float x => if x.isNegative then ofSignalData (.float x.neg) else ofCodeData d
  | d => .error (.fault (.named "TypeError"
      ("'<' not supported between instances of " ++ Text.quoted d.kindName ++ " and 'int'")))

end Termination

end VendorLaunch
