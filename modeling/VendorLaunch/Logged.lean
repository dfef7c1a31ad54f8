import VendorLaunch.Failure

/-!
# Logged computations

A computation of the library leaves a log behind and ends in a value or a failure. Running one
after another puts their logs one behind the other; after a failure nothing more is run, and the
log up to there stays.

`result_bind` and `log_bind` say this of the two parts, so a statement about results never has to
look at the log. `result_bind_eq_ok` and `result_bind_eq_error` take a run apart: it gives a value
when both computations do, and it fails when the first one does or, after it, the second.
-/

namespace VendorLaunch

/-- A line of the log: how important it is, who wrote it, and what it says. -/
structure LogRecord where
  level : Int
  logger : String
  message : String
  deriving DecidableEq, Repr

/-- The levels of the library's own records. -/
def LogRecord.debugLevel : Int := 10
/-- The level of a notable event. -/
def LogRecord.infoLevel : Int := 20

/-- A record for whoever looks for a defect. -/
def LogRecord.debug (logger message : String) : LogRecord := ⟨debugLevel, logger, message⟩

/-- A record of a notable event. -/
def LogRecord.info (logger message : String) : LogRecord := ⟨infoLevel, logger, message⟩

/-- A log and a value or a failure. -/
structure Logged (α : Type) where
  log : List LogRecord
  result : Except Failure α

namespace Logged

variable {α β : Type}

instance : Monad Logged where
  pure a := ⟨[], .ok a⟩
  bind x f :=
    match x.result with
    | .ok a => ⟨x.log ++ (f a).log, (f a).result⟩
    | .error e => ⟨x.log, .error e⟩

/-- Leaves a record. -/
def note (r : LogRecord) : Logged Unit := ⟨[r], .ok ()⟩

/-- Leaves records in order. -/
def noteAll (rs : List LogRecord) : Logged Unit := ⟨rs, .ok ()⟩

/-- Ends in a failure. -/
def fail (e : Failure) : Logged α := ⟨[], .error e⟩

/-- A result without a log. -/
def ofExcept (r : Except Failure α) : Logged α := ⟨[], r⟩

/-- A result whose failure is a fault of the surroundings. -/
def ofFault (r : Except Fault α) : Logged α :=
  ⟨[], match r with
    | .ok a => .ok a
    | .error f => .error (.fault f)⟩

@[simp] theorem result_pure (a : α) : (pure a : Logged α).result = .ok a := rfl

@[simp] theorem result_note (r : LogRecord) : (note r).result = .ok () := rfl

@[simp] theorem result_fail (e : Failure) : (fail e : Logged α).result = .error e := rfl

@[simp] theorem result_ofExcept (r : Except Failure α) : (ofExcept r).result = r := rfl

/-- The result of running one computation after another. -/
@[simp] theorem result_bind (x : Logged α) (f : α → Logged β) :
    (x >>= f).result = x.result >>= fun a => (f a).result := by
  cases h : x.result <;> simp [bind, h, Except.bind]

/-- The log of running one computation after another. -/
theorem log_bind (x : Logged α) (f : α → Logged β) :
    (x >>= f).log = x.log ++ (match x.result with
      | .ok a => (f a).log
      | .error _ => []) := by
  cases h : x.result <;> simp [bind, h]

theorem ok_bind {ε : Type} (a : α) (f : α → Except ε β) : (Except.ok a >>= f) = f a := rfl

theorem error_bind {ε : Type} (e : ε) (f : α → Except ε β) :
    ((Except.error e : Except ε α) >>= f) = .error e := rfl

theorem result_bind_eq_ok {x : Logged α} {f : α → Logged β} {b : β} :
    (x >>= f).result = .ok b ↔ ∃ a, x.result = .ok a ∧ (f a).result = .ok b := by
  rw [result_bind]
  cases x.result with
  | ok a => simp [ok_bind]
  | error e => simp [error_bind]

theorem result_bind_eq_error {x : Logged α} {f : α → Logged β} {e : Failure} :
    (x >>= f).result = .error e ↔
      x.result = .error e ∨ ∃ a, x.result = .ok a ∧ (f a).result = .error e := by
  rw [result_bind]
  cases x.result with
  | ok a => simp [ok_bind]
  | error e' => simp [error_bind]

/-- Leaving a record before a computation does not change its result. -/
theorem result_note_bind (r : LogRecord) (f : Unit → Logged β) :
    (note r >>= f).result = (f ()).result := by
  rw [result_bind]
  rfl

theorem result_noteAll_bind (rs : List LogRecord) (f : Unit → Logged β) :
    (noteAll rs >>= f).result = (f ()).result := by
  rw [result_bind]
  rfl

theorem result_ofFault_eq_ok {r : Except Fault α} {a : α} :
    (ofFault r).result = .ok a ↔ r = .ok a := by
  cases r with
  | ok b => simp [ofFault]
  | error f => simp [ofFault]

theorem result_ofFault_eq_error {r : Except Fault α} {e : Failure} :
    (ofFault r).result = .error e ↔ ∃ f, r = .error f ∧ e = .fault f := by
  cases r with
  | ok b => simp [ofFault]
  | error f => simp [ofFault, eq_comm]

end Logged

end VendorLaunch
