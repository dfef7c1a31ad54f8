import Mathlib
import VendorLaunch.Termination

/-!
# Names of signals

A display name is written in one of three forms: as a name of the table, by the distance from the
first real-time signal, or with the number itself (`Signal.Shows`). No text has two of these forms.
Where the number would begin, with a digit or a minus sign, the other two forms have a letter, and
only the distance comes after a plus sign.

Decimal digits give the number back, so a text shows at most one number (`Signal.Shows.unique`),
whatever the size of the number and whether or not there is such a signal. The display name of a
number shows it (`Signal.shows_name`); so different numbers have different names.
-/

namespace VendorLaunch.Signal

variable {s t : String} {a b n : Int}

/-! ### The three forms -/

/-- The text shows the number in one of three forms. -/
inductive Shows (s : String) (n : Int) : Prop where
  /-- A name of the table. -/
  | named : (n, s) ∈ names → Shows s n
  /-- The distance from the first real-time signal. -/
  | realTime : s = "SIGRTMIN+" ++ toString (n - realTimeMin) → Shows s n
  /-- The number itself. -/
  | number : s = "SIG" ++ toString n → Shows s n

/-- What a number in decimal begins with. -/
def beginsNumber (c : Char) : Bool := c == '-' || c.isDigit

/-- A number in decimal begins with a digit or a minus sign. -/
theorem exists_toList_toString (n : Int) :
    ∃ c cs, (toString n).toList = c :: cs ∧ beginsNumber c = true := by
  cases n with
  | ofNat m =>
    have hdigits : (toString (Int.ofNat m)).toList = Nat.toDigits 10 m := Nat.toList_repr
    cases hm : Nat.toDigits 10 m with
    | nil => exact absurd hm Nat.toDigits_ne_nil
    | cons c cs =>
      have hc : c.isDigit = true :=
        Nat.isDigit_of_mem_toDigits (by decide) (by decide) (hm ▸ List.mem_cons_self)
      exact ⟨c, cs, hdigits.trans hm, by rw [beginsNumber, hc, Bool.or_true]⟩
  | negSucc m =>
    have hminus : (toString (Int.negSucc m)).toList = '-' :: (m + 1).repr.toList :=
      String.toList_append
    exact ⟨'-', _, hminus, rfl⟩

/-- Where a number would begin, a name of the table has something else. -/
theorem named_ne_number (h : (a, s) ∈ names) : s ≠ "SIG" ++ toString b := by
  have htable : ∀ p ∈ names, (p.2.toList.drop 3).head?.any beginsNumber = false := by
    decide +kernel
  obtain ⟨c, cs, hcs, hc⟩ := exists_toList_toString b
  rintro rfl
  have hnone := htable _ h
  rw [String.toList_append, hcs] at hnone
  exact Bool.noConfusion (hc.symm.trans hnone)

/-- No name of the table has a plus sign. -/
theorem named_ne_realTime (h : (a, s) ∈ names) : s ≠ "SIGRTMIN+" ++ t := by
  have htable : ∀ p ∈ names, '+' ∉ p.2.toList := by decide +kernel
  rintro rfl
  refine htable _ h ?_
  rw [String.toList_append]
  exact List.mem_append_left _ (by decide)

theorem realTime_ne_number : "SIGRTMIN+" ++ t ≠ "SIG" ++ toString b := by
  obtain ⟨c, cs, hcs, hc⟩ := exists_toList_toString b
  intro h
  have hchars := congrArg (fun s : String => (s.toList.drop 3).head?) h
  simp only [String.toList_append, hcs] at hchars
  obtain rfl : 'R' = c := Option.some.inj hchars
  cases hc

/-- Names are in the table once. -/
theorem named_unique (ha : (a, s) ∈ names) (hb : (b, s) ∈ names) : a = b := by
  have htable : ∀ p ∈ names, ∀ q ∈ names, p.2 = q.2 → p.1 = q.1 := by decide +kernel
  exact htable _ ha _ hb rfl

/-- A text shows at most one number. -/
theorem Shows.unique (ha : Shows s a) (hb : Shows s b) : a = b := by
  cases ha with
  | named ha =>
    cases hb with
    | named hb => exact named_unique ha hb
    | realTime hb => exact absurd hb (named_ne_realTime ha)
    | number hb => exact absurd hb (named_ne_number ha)
  | realTime ha =>
    cases hb with
    | named hb => exact absurd ha (named_ne_realTime hb)
    | realTime hb =>
      have hdistance : a - realTimeMin = b - realTimeMin :=
        Int.repr_injective ((String.append_right_inj _).mp (ha.symm.trans hb))
      omega
    | number hb => exact absurd (ha.symm.trans hb) realTime_ne_number
  | number ha =>
    cases hb with
    | named hb => exact absurd ha (named_ne_number hb)
    | realTime hb => exact absurd (hb.symm.trans ha) realTime_ne_number
    | number hb => exact Int.repr_injective ((String.append_right_inj _).mp (ha.symm.trans hb))

/-! ### Display names -/

theorem name_of_mem (h : (n, s) ∈ names) : name n = s := by
  have htable : ∀ p ∈ names, name p.1 = p.2 := by decide +kernel
  exact htable _ h

/-- A number that the table does not have is shown by its distance between the two ends of the
real-time signals, and as it is elsewhere. -/
theorem name_of_notMem (h : n ∉ names.map Prod.fst) :
    name n = if realTimeMin < n ∧ n < realTimeMax then "SIGRTMIN+" ++ toString (n - realTimeMin)
      else "SIG" ++ toString n := by
  have hfind : (names.find? fun s => s.1 == n) = none := by
    refine List.find?_eq_none.mpr fun p hp heq => h ?_
    exact List.mem_map.mpr ⟨p, hp, eq_of_beq heq⟩
  rw [name, hfind]

/-- The table has the two ends of the real-time signals and nothing between them. -/
theorem notMem_of_realTime (hmin : realTimeMin < n) (hmax : n < realTimeMax) :
    n ∉ names.map Prod.fst := by
  have htable : ∀ m ∈ names.map Prod.fst, m ≤ realTimeMin ∨ realTimeMax ≤ m := by decide
  intro hn
  have := htable n hn
  omega

theorem name_of_realTime (hmin : realTimeMin < n) (hmax : n < realTimeMax) :
    name n = "SIGRTMIN+" ++ toString (n - realTimeMin) := by
  rw [name_of_notMem (notMem_of_realTime hmin hmax), if_pos ⟨hmin, hmax⟩]

/-- The display name of a number shows it. -/
theorem shows_name (n : Int) : Shows (name n) n := by
  by_cases h : n ∈ names.map Prod.fst
  · obtain ⟨⟨m, s⟩, hmem, rfl⟩ := List.mem_map.mp h
    exact .named (name_of_mem hmem ▸ hmem)
  · rw [name_of_notMem h]
    split
    · exact .realTime rfl
    · exact .number rfl

/-- A signal of the table is shown by its name, one strictly between the two ends of the real-time
signals by its distance from the first, and any other number as it is. A name shows one number only,
so signals whose names are equal are the same, and a result names its signal unambiguously. -/
theorem name_unambiguous :
    (∀ a b, name a = name b → a = b) ∧
    (∀ n s, (n, s) ∈ names → name n = s) ∧
    (∀ n, realTimeMin < n → n < realTimeMax →
      name n = "SIGRTMIN+" ++ toString (n - realTimeMin)) ∧
    (∀ n, n ∉ names.map Prod.fst → ¬(realTimeMin < n ∧ n < realTimeMax) →
      name n = "SIG" ++ toString n) ∧
    (∀ s a b, Shows s a → Shows s b → a = b) ∧
    ∀ a b, (Termination.ofSignal a).fields.signal = (Termination.ofSignal b).fields.signal →
      a = b := by
  have hinj : ∀ a b, name a = name b → a = b := fun a b h =>
    (shows_name a).unique (h ▸ shows_name b)
  refine ⟨hinj, fun _ _ => name_of_mem, fun _ => name_of_realTime, fun n hn hr => ?_,
    fun _ _ _ => Shows.unique, fun a b h => hinj a b (Option.some.inj h)⟩
  rw [name_of_notMem hn, if_neg hr]

/-- Both ends of the real-time signals have names of their own, and their neighbours do not; a
number below zero is shown as it is; and what shows the first signal behind the lower end is the
name of no other number. -/
theorem name_unambiguous_ends :
    name 34 = "SIGRTMIN" ∧ name 35 = "SIGRTMIN+1" ∧ name 63 = "SIGRTMIN+29" ∧
    name 64 = "SIGRTMAX" ∧ name 65 = "SIG65" ∧ name (-9) = "SIG-9" ∧
    ∀ n, name n = "SIGRTMIN+1" → n = 35 := by
  obtain ⟨hinj, hnamed, hrealTime, hnumber, -, -⟩ := name_unambiguous
  have hnext : name 35 = "SIGRTMIN+1" := hrealTime 35 (by decide) (by decide)
  exact ⟨hnamed _ _ (by decide), hnext, hrealTime 63 (by decide) (by decide),
    hnamed _ _ (by decide), hnumber 65 (by decide) (by decide),
    hnumber (-9) (by decide) (by decide), fun n h => hinj n 35 (h.trans hnext.symm)⟩

end VendorLaunch.Signal
