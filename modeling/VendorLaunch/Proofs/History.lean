import VendorLaunch.Relay

/-!
# Histories

What has happened on a system says which handler is in force (`Event.inForce`), which signals have
been sent to which process (`Event.sends`), and for which signals a handler was installed
(`Event.installedOn`). `Machine.Adds` says that an operation has added events to the history and
has changed nothing but the handlers in doing so; notes, sends, arrivals and installations are such
operations. `Machine.Truthful` says that the handler table is the one that the history leaves, and
`Truthful.adds` that it stays so.

`Surroundings.attempts` is the history of installing one handler for several signals. Which
attempts fail is up to the surroundings, and a failing one does not end the row.
-/

namespace VendorLaunch

namespace Event

/-- The handler in force for a signal after an event, when `h` was in force before it. -/
def leaves (signal : Int) (h : Handler) : Event → Handler
  | installed s h' => if s = signal then h' else h
  | _ => h

/-- The handler that a history leaves in force for a signal. -/
def inForce (history : List Event) (signal : Int) : Handler :=
  history.foldl (leaves signal) .default

/-- The process and the signal of a send. -/
def sent? : Event → Option (Nat × Int)
  | sent p s => some (p, s)
  | _ => none

/-- The signals sent to processes, in order. -/
def sends (history : List Event) : List (Nat × Int) := history.filterMap sent?

/-- The signal of an installation. -/
def installed? : Event → Option Int
  | installed s _ => some s
  | _ => none

/-- The signals for which a handler was installed, in order. -/
def installedOn (history : List Event) : List Int := history.filterMap installed?

theorem inForce_append (past es : List Event) (s : Int) :
    inForce (past ++ es) s = es.foldl (leaves s) (inForce past s) := by
  simp [inForce, List.foldl_append]

@[simp] theorem inForce_concat (past : List Event) (e : Event) (s : Int) :
    inForce (past ++ [e]) s = e.leaves s (inForce past s) := by
  simp [inForce_append]

@[simp] theorem sends_append (past es : List Event) : sends (past ++ es) = sends past ++ sends es := by
  simp [sends]

theorem installedOn_cons (e : Event) (es : List Event) :
    installedOn (e :: es) = e.installed?.toList ++ installedOn es := by
  cases e <;> rfl

/-- When only `r` is installed, it is in force for the signals that it was installed for, and
the others keep their handler. -/
theorem foldl_leaves {r : Handler} {es : List Event} (hr : ∀ s h, installed s h ∈ es → h = r)
    (s : Int) (h : Handler) : es.foldl (leaves s) h = if s ∈ installedOn es then r else h := by
  induction es generalizing h with
  | nil => rfl
  | cons e es ih =>
    have hes := ih fun t h ht => hr t h (List.mem_cons_of_mem _ ht)
    cases e with
    | installed t h' =>
      obtain rfl := hr t h' List.mem_cons_self
      by_cases hst : t = s
      · simp [leaves, hes, installedOn_cons, installed?, hst]
      · simp [leaves, hes, installedOn_cons, installed?, hst, Ne.symm hst]
    | _ => exact hes h

/-- The events of making the default handler the one in force for some signals. -/
def released (ss : List Int) : List Event := ss.map fun s => installed s .default

theorem installedOn_released (ss : List Int) : installedOn (released ss) = ss := by
  induction ss with
  | nil => rfl
  | cons s ss ih => rw [released, List.map_cons, installedOn_cons]; exact congrArg (s :: ·) ih

theorem foldl_leaves_released (ss : List Int) (s : Int) (h : Handler) :
    (released ss).foldl (leaves s) h = if s ∈ ss then .default else h := by
  rw [foldl_leaves (r := .default), installedOn_released]
  intro t g ht
  obtain ⟨_, -, he⟩ := List.mem_map.mp ht
  exact (installed.inj he).2.symm

end Event

/-! ### What surroundings may do -/

namespace Surroundings

/-- Installing a handler fails with a refusal or not at all. -/
def RefusesInstalls (w : Surroundings) : Prop :=
  ∀ past s h f, w.installFault past s h = some f → f.isSignalRefusal = true

/-- Sending a signal to a process fails with a refusal or not at all. -/
def RefusesSends (w : Surroundings) : Prop :=
  ∀ past p s f, w.sendFault past p s = some f → f.isSignalRefusal = true

/-- Sending a signal to the own process fails with a refusal or not at all. -/
def RefusesKills (w : Surroundings) : Prop :=
  ∀ past s f, w.killFault past s = some f → f.isSignalRefusal = true

/-- The default handler can be put back for the signals, one after the other. -/
def ReleasesAfter (w : Surroundings) (past : List Event) : List Int → Prop
  | [] => True
  | s :: ss => w.installFault past s .default = none ∧
      ReleasesAfter w (past ++ [.installed s .default]) ss

/-- The event of an attempt to install a handler. -/
def attempt (w : Surroundings) (past : List Event) (s : Int) (h : Handler) : Event :=
  if (w.installFault past s h).isNone then .installed s h else .installFailed s h

/-- The events of attempts to install one handler for several signals, one after the other. -/
def attempts (w : Surroundings) (h : Handler) (past : List Event) : List Int → List Event
  | [] => []
  | s :: ss => w.attempt past s h :: attempts w h (past ++ [w.attempt past s h]) ss

theorem attempt_of_none {w : Surroundings} {past : List Event} {s : Int} {h : Handler}
    (hf : w.installFault past s h = none) : w.attempt past s h = .installed s h := by
  rw [attempt, hf]
  rfl

theorem attempt_of_some {w : Surroundings} {past : List Event} {s : Int} {h : Handler} {f : Fault}
    (hf : w.installFault past s h = some f) : w.attempt past s h = .installFailed s h := by
  rw [attempt, hf]
  rfl

theorem attempt_eq_or (w : Surroundings) (past : List Event) (s : Int) (h : Handler) :
    w.attempt past s h = .installed s h ∨ w.attempt past s h = .installFailed s h := by
  unfold attempt
  split
  · exact Or.inl rfl
  · exact Or.inr rfl

/-- Every attempt is about one of the signals and the handler. -/
theorem eq_of_mem_attempts {w : Surroundings} {h : Handler} {past : List Event} {ss : List Int}
    {e : Event} (he : e ∈ w.attempts h past ss) :
    ∃ s ∈ ss, e = .installed s h ∨ e = .installFailed s h := by
  induction ss generalizing past with
  | nil => simp [attempts] at he
  | cons s ss ih =>
    rcases List.mem_cons.mp he with rfl | he
    · exact ⟨s, List.mem_cons_self, w.attempt_eq_or past s h⟩
    · obtain ⟨t, ht, hte⟩ := ih he
      exact ⟨t, List.mem_cons_of_mem _ ht, hte⟩

/-- The signals whose attempt succeeds stand in the order in which they were tried. -/
theorem installedOn_attempts_sublist (w : Surroundings) (h : Handler) (past : List Event)
    (ss : List Int) : (Event.installedOn (w.attempts h past ss)).Sublist ss := by
  induction ss generalizing past with
  | nil => exact List.Sublist.refl _
  | cons s ss ih =>
    rw [attempts, Event.installedOn_cons]
    rcases w.attempt_eq_or past s h with he | he
    · rw [he]
      exact (ih _).cons_cons s
    · rw [he]
      exact (ih _).cons s

end Surroundings

/-! ### Surroundings that go by rules -/

namespace World

/-- What the rules raise is the fault of one of them. -/
theorem exists_of_faultAt? {rules : Table Int FaultRule} {s : Int} {n : Nat} {f : Fault}
    (hf : faultAt? rules s n = some f) : ∃ b ∈ rules, b.2.fault = f := by
  induction rules with
  | nil => cases hf
  | cons b rules ih =>
    obtain ⟨t, rule⟩ := b
    by_cases hts : t = s
    · simp only [faultAt?, Table.find?, if_pos hts] at hf
      refine ⟨(t, rule), List.mem_cons_self, ?_⟩
      split at hf
      · exact Option.some.inj hf
      · cases hf
    · simp only [faultAt?, Table.find?, if_neg hts] at hf
      obtain ⟨b', hb', hfault⟩ := ih hf
      exact ⟨b', List.mem_cons_of_mem _ hb', hfault⟩

theorem refusesInstalls {w : World}
    (h : ∀ b ∈ w.installFaults, b.2.fault.isSignalRefusal = true) :
    w.surroundings.RefusesInstalls := by
  intro past s g f hf
  obtain ⟨b, hb, rfl⟩ := exists_of_faultAt? hf
  exact h b hb

theorem refusesSends {w : World}
    (h : ∀ b ∈ w.sendFaults, b.2.fault.isSignalRefusal = true) :
    w.surroundings.RefusesSends := by
  intro past p s f hf
  obtain ⟨b, hb, rfl⟩ := exists_of_faultAt? hf
  exact h b hb

theorem refusesKills {w : World}
    (h : ∀ b ∈ w.killFaults, b.2.fault.isSignalRefusal = true) :
    w.surroundings.RefusesKills := by
  intro past s f hf
  obtain ⟨b, hb, rfl⟩ := exists_of_faultAt? hf
  exact h b hb

end World

/-! ### What operations add -/

namespace Machine

/-- `m'` is `m` after the events `es`, which touched no process and no child. -/
structure Adds (m : Machine) (es : List Event) (m' : Machine) : Prop where
  world : m'.world = m.world
  events : m'.events = m.events ++ es
  handlers : ∀ s, m'.handlerOf s = es.foldl (Event.leaves s) (m.handlerOf s)
  statuses : m'.statuses = m.statuses
  child : m'.child = m.child

theorem Adds.refl (m : Machine) : m.Adds [] m :=
  ⟨rfl, (List.append_nil _).symm, fun _ => rfl, rfl, rfl⟩

theorem Adds.trans {m m₁ m₂ : Machine} {es fs : List Event} (h : m.Adds es m₁)
    (h' : m₁.Adds fs m₂) : m.Adds (es ++ fs) m₂ where
  world := h'.world.trans h.world
  events := by rw [h'.events, h.events, List.append_assoc]
  handlers s := by rw [h'.handlers s, h.handlers s, List.foldl_append]
  statuses := h'.statuses.trans h.statuses
  child := h'.child.trans h.child

theorem Adds.statusOf {m m' : Machine} {es : List Event} (h : m.Adds es m') (p : Nat) :
    m'.statusOf p = m.statusOf p := by
  simp only [Machine.statusOf, h.statuses]

theorem adds_note (m : Machine) (r : LogRecord) : m.Adds [] (m.note r) :=
  ⟨rfl, (List.append_nil _).symm, fun _ => rfl, rfl, rfl⟩

theorem adds_debug (m : Machine) (t : String) : m.Adds [] (m.debug t) := m.adds_note _

/-- A record that installs nothing leaves the handlers alone. -/
theorem adds_record (m : Machine) {e : Event} (he : ∀ s h, e.leaves s h = h) :
    m.Adds [e] (m.record e) :=
  ⟨rfl, rfl, fun s => (he s _).symm, rfl, rfl⟩

/-! ### The handlers that a history leaves -/

/-- The handlers are those that the history leaves. -/
def Truthful (m : Machine) : Prop := ∀ s, m.handlerOf s = Event.inForce m.events s

/-- What adds events keeps the handler table true to the history. -/
theorem Truthful.adds {m m' : Machine} {es : List Event} (hm : m.Truthful) (h : m.Adds es m') :
    m'.Truthful := fun s => by
  rw [h.handlers s, h.events, Event.inForce_append, hm s]

/-! ### Installing -/

theorem install_of_none {m : Machine} {s : Int} {h : Handler}
    (hf : m.world.installFault m.events s h = none) :
    m.install s h = ((m.record (.installed s h)).setHandler s h, .ok (m.handlerOf s)) := by
  simp only [install, hf]

theorem install_of_some {m : Machine} {s : Int} {h : Handler} {f : Fault}
    (hf : m.world.installFault m.events s h = some f) :
    m.install s h = (m.record (.installFailed s h), .error f) := by
  simp only [install, hf]

/-- Whatever the answer, an attempt is recorded and touches no process and no child. -/
theorem adds_install (m : Machine) (s : Int) (h : Handler) :
    m.Adds [m.world.attempt m.events s h] (m.install s h).1 := by
  cases hf : m.world.installFault m.events s h with
  | none =>
    rw [install_of_none hf, Surroundings.attempt_of_none hf]
    refine ⟨rfl, rfl, fun t => ?_, rfl, rfl⟩
    rw [handlerOf_setHandler, handlerOf_record]
    by_cases hts : t = s
    · simp [Event.leaves, hts]
    · simp [Event.leaves, hts, Ne.symm hts]
  | some f =>
    rw [install_of_some hf, Surroundings.attempt_of_some hf]
    exact m.adds_record fun _ _ => rfl

end Machine

end VendorLaunch
