import VendorLaunch.Proofs.Catalog.Reading
import VendorLaunch.Termination

/-!
# Results of children

The model of a result accepts exactly the data whose four fields have one of two shapes: a code
alone, or a signal's number and name (`TerminationFields.result_eq_ok_iff`,
`Termination.ofData_eq_ok_iff`). So the status for a shell is always the code or comes from the
number of the signal.

Nothing is lost of the status that the system collects: it can be read off the result that is made
of it (`Termination.collected_ofStatus`).
-/

namespace VendorLaunch

/-! ### Shapes -/

namespace TerminationFields

variable {f : TerminationFields} {r : Termination} {fs : List (Data × Data)}

/-- The two shapes of a result. -/
inductive Shape : TerminationFields → Prop where
  /-- A code alone. -/
  | code (c : Int) : Shape ⟨.code, some c, none, none⟩
  /-- The number and the name of a signal. -/
  | signal (n : Int) (name : String) : Shape ⟨.signal, none, some n, some name⟩

/-- The fields describe a result exactly when they have one of the two shapes. -/
theorem result_eq_ok_iff : f.result = .ok r ↔ f.Shape ∧ r.fields = f := by
  constructor
  · intro h
    obtain ⟨kind, status, number, name⟩ := f
    cases kind with
    | code =>
      unfold result at h
      dsimp only at h
      split at h
      · cases h
        exact ⟨.code _, rfl⟩
      · cases h
    | signal =>
      unfold result at h
      dsimp only at h
      split at h
      · cases h
        exact ⟨.signal _ _, rfl⟩
      · cases h
  · rintro ⟨-, rfl⟩
    exact Termination.result_fields r

/-- What the fields of a mapping say: the kind has to be there, and what is absent of the other
three is null. -/
structure Reads (fs : List (Data × Data)) (f : TerminationFields) : Prop where
  kind : Validated.required "kind" (Validated.literal TerminationKind.words) fs = .ok f.kind
  status : Validated.optional "exit_code" none (Validated.nullable Validated.int) fs = .ok f.status
  signalNumber : Validated.optional "signal_number" none (Validated.nullable Validated.int) fs =
    .ok f.signalNumber
  signal : Validated.optional "signal" none (Validated.nullable Validated.text) fs = .ok f.signal

end TerminationFields

namespace Termination

open TerminationFields

variable {f : TerminationFields} {r : Termination} {fs : List (Data × Data)} {d : Data}

/-- Once the fields are read, the check of their shape decides. -/
theorem ofData_of_reads (h : Reads fs f) :
    ofData (.dict fs) = match f.result with
      | .ok r => .ok r
      | .error reason => Validated.complain (.rejected reason) := by
  unfold ofData
  rw [Validated.fields, Logged.ok_bind, h.kind, h.status, h.signalNumber, h.signal]
  rfl

theorem reads_of_ofData (h : ofData d = .ok r) :
    ∃ fs f, d = .dict fs ∧ Reads fs f ∧ f.result = .ok r := by
  obtain ⟨fs, hfs, h⟩ := Validated.bind_eq_ok h
  obtain ⟨⟨⟨⟨kind, status⟩, number⟩, name⟩, hparts, h⟩ := Validated.bind_eq_ok h
  obtain ⟨hparts, hname⟩ := Validated.and_eq_ok hparts
  obtain ⟨hparts, hnumber⟩ := Validated.and_eq_ok hparts
  obtain ⟨hkind, hstatus⟩ := Validated.and_eq_ok hparts
  have hd : d = .dict fs := by
    unfold Validated.fields at hfs
    split at hfs
    · cases hfs
      rfl
    · cases hfs
  refine ⟨fs, ⟨kind, status, number, name⟩, hd, ⟨hkind, hstatus, hnumber, hname⟩, ?_⟩
  dsimp only at h
  split at h
  · next r' hr' =>
    cases h
    exact hr'
  · cases h

/-- The model accepts exactly the mappings whose fields have one of the two shapes. -/
theorem ofData_eq_ok_iff :
    ofData d = .ok r ↔ ∃ fs f, d = .dict fs ∧ Reads fs f ∧ f.Shape ∧ r.fields = f := by
  constructor
  · intro h
    obtain ⟨fs, f, hd, hreads, hresult⟩ := reads_of_ofData h
    exact ⟨fs, f, hd, hreads, result_eq_ok_iff.mp hresult⟩
  · rintro ⟨fs, f, rfl, hreads, hshape⟩
    rw [ofData_of_reads hreads, result_eq_ok_iff.mpr hshape]

/-- The status for a shell is the code or comes from the signal, and never that of a result without
either. -/
theorem statusForShell_cases (r : Termination) :
    (r.signalNumber = none ∧ r.fields.status = some r.statusForShell) ∨
      ∃ n, r.signalNumber = some n ∧ r.statusForShell = 128 + n := by
  cases r with
  | exited c => exact Or.inl ⟨rfl, rfl⟩
  | signaled n name => exact Or.inr ⟨n, rfl, rfl⟩

theorem signalNumber_eq_none_iff : r.signalNumber = none ↔ r.fields.kind = .code := by
  cases r <;> simp [signalNumber, fields]

/-! ### Collected statuses -/

theorem ofNamed_of_reads {fields : List (String × Data)}
    (h : Reads (fields.map fun f => (.text f.1, f.2)) r.fields) : ofNamed fields = .ok r := by
  rw [ofNamed, ofData_of_reads h, result_fields]

theorem ofCodeData_int (c : Int) : ofCodeData (.int c) = .ok (exited c) := by
  unfold ofCodeData
  exact ofNamed_of_reads ⟨rfl, rfl, rfl, rfl⟩

theorem ofSignalData_int (n : Int) : ofSignalData (.int n) = .ok (ofSignal n) := by
  unfold ofSignalData cutToInt ofSignal
  exact ofNamed_of_reads ⟨rfl, rfl, rfl, rfl⟩

/-- Every collected status makes a result. -/
theorem ofStatusData_int (i : Int) : ofStatusData (.int i) = .ok (ofStatus (some i)) := by
  unfold ofStatusData ofStatus
  dsimp only
  split
  · exact ofSignalData_int (-i)
  · exact ofCodeData_int i

theorem ofStatusData_null : ofStatusData .null = .ok (ofStatus none) := ofCodeData_int 1

theorem fields_ofStatus_of_neg {i : Int} (hi : i < 0) :
    (ofStatus (some i)).fields = ⟨.signal, none, some (-i), some (Signal.name (-i))⟩ := by
  rw [ofStatus, if_pos hi]
  rfl

theorem fields_ofStatus_of_nonneg {i : Int} (hi : 0 ≤ i) :
    (ofStatus (some i)).fields = ⟨.code, some i, none, none⟩ := by
  rw [ofStatus, if_neg (Int.not_lt.mpr hi)]
  rfl

/-- The status that a result is made of. -/
def collected : Termination → Int
  | exited c => c
  | signaled n _ => -n

/-- The collected status can be read off the result. -/
theorem collected_ofStatus (i : Int) : (ofStatus (some i)).collected = i := by
  unfold ofStatus
  dsimp only
  split
  · exact Int.neg_neg i
  · rfl

theorem ofStatus_injective {i j : Int} (h : ofStatus (some i) = ofStatus (some j)) : i = j := by
  rw [← collected_ofStatus i, h, collected_ofStatus]

/-- The collected status is the code of the result, or its signal's number with the sign changed. -/
theorem status_or_signalNumber (i : Int) :
    (ofStatus (some i)).fields.status = some i ∨ (ofStatus (some i)).signalNumber = some (-i) := by
  unfold ofStatus
  dsimp only
  split
  · exact Or.inr rfl
  · exact Or.inl rfl

/-- The model accepts exactly the fields of a code and those of a signal, so that only a result
without a signal is one of a code, and the status for a shell is the code or 128 and the number of
the signal. A collected status always makes a result: a negative one that of the signal, any other
one that of the code, and none at all a failure. Different statuses make different results, and the
status is found in the result. -/
theorem shaped_and_recoverable :
    (∀ d r, ofData d = .ok r ↔ ∃ fs f, d = .dict fs ∧ Reads fs f ∧ f.Shape ∧ r.fields = f) ∧
    (∀ r : Termination, (r.signalNumber = none ↔ r.fields.kind = .code) ∧
      ((r.signalNumber = none ∧ r.fields.status = some r.statusForShell) ∨
        ∃ n, r.signalNumber = some n ∧ r.statusForShell = 128 + n)) ∧
    (∀ i, ofStatusData (.int i) = .ok (ofStatus (some i))) ∧
    ofStatusData .null = .ok (ofStatus none) ∧
    (∀ i < 0, (ofStatus (some i)).fields =
      ⟨.signal, none, some (-i), some (Signal.name (-i))⟩) ∧
    (∀ i ≥ 0, (ofStatus (some i)).fields = ⟨.code, some i, none, none⟩) ∧
    (ofStatus none).fields = ⟨.code, some 1, none, none⟩ ∧
    (∀ i j, ofStatus (some i) = ofStatus (some j) → i = j) ∧
    ∀ i, (ofStatus (some i)).fields.status = some i ∨
      (ofStatus (some i)).signalNumber = some (-i) :=
  ⟨fun _ _ => ofData_eq_ok_iff,
    fun r => ⟨signalNumber_eq_none_iff, statusForShell_cases r⟩,
    ofStatusData_int, ofStatusData_null, fun _ => fields_ofStatus_of_neg,
    fun _ => fields_ofStatus_of_nonneg, rfl, fun _ _ => ofStatus_injective, status_or_signalNumber⟩

/-- The fields of a real-time signal, its number given as a text. -/
def realTimeFields : List (Data × Data) :=
  [(.text "kind", .text "signal"), (.text "signal_number", .text " 35"),
    (.text "signal", .text "SIGRTMIN+1")]

/-- A code and a signal in one. -/
def mixedFields : List (Data × Data) :=
  [(.text "kind", .text "code"), (.text "exit_code", .int 0), (.text "signal_number", .int 9)]

/-- The fields of a real-time signal are accepted, and a status says the same; a code and a signal
in one are refused. -/
theorem shaped_and_recoverable_realTime :
    ofData (.dict realTimeFields) = .ok (.signaled 35 "SIGRTMIN+1") ∧
    (ofStatus (some (-35))).fields = ⟨.signal, none, some 35, some "SIGRTMIN+1"⟩ ∧
    ∀ r, ofData (.dict mixedFields) ≠ .ok r := by
  obtain ⟨haccepted, -, -, -, hsignal, -⟩ := shaped_and_recoverable
  have hread : Reads realTimeFields ⟨.signal, none, some 35, some "SIGRTMIN+1"⟩ :=
    ⟨rfl, rfl, rfl, rfl⟩
  have hname : Signal.name 35 = "SIGRTMIN+1" := by rfl
  refine ⟨(haccepted _ _).mpr ⟨_, _, rfl, hread, .signal _ _, rfl⟩, ?_, ?_⟩
  · rw [hsignal (-35) (by decide), Int.neg_neg, hname]
  · intro r hr
    obtain ⟨fs, f, hfs, hreads, hshape, -⟩ := (haccepted _ _).mp hr
    obtain rfl := Data.dict.inj hfs
    have hstatus : some 0 = f.status := Except.ok.inj hreads.status
    have hnumber : some 9 = f.signalNumber := Except.ok.inj hreads.signalNumber
    cases hshape with
    | code c => cases hnumber
    | signal n name => cases hstatus

end Termination

end VendorLaunch
