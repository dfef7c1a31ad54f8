import VendorLaunch.Exit
import Mathlib.Logic.Relation

/-!
# Machines step by step

Whatever the launcher does to the system is made of elementary changes (`Machine.Step`): a record
in the log, an event in the history, a handler, the queue and the process of a child, the statuses
and the number of relays. So what every elementary change keeps is kept by all of it, from the
opening of a block to the signal that the launcher sends to itself (`Machine.Steps`).

Three things are kept. The history only grows, by events of the kind that the steps may record
(`Steps.events`); the log only grows, by records for whoever looks for a defect (`Steps.log`); and
no child is given anything else to run (`Steps.argv`, `Steps.env`).
-/

namespace VendorLaunch.Machine

open Relation

/-- An elementary change of a machine. The property says which events it may record. -/
inductive Step (P : Event → Prop) (m : Machine) : Machine → Prop where
  /-- A record for whoever looks for a defect. -/
  | noted (logger message : String) : Step P m (m.note (.debug logger message))
  /-- An event. -/
  | recorded {e : Event} (he : P e) : Step P m (m.record e)
  /-- Another handler in force. -/
  | handled (s : Int) (h : Handler) : Step P m (m.setHandler s h)
  /-- Another process and another queue of a child. -/
  | queued (i : Nat) (process : Option Nat) (pending : List Int) :
      Step P m (m.setChild i { m.child i with process := process, pending := pending })
  /-- Other statuses. -/
  | counted (statuses : List (Option Int)) : Step P m { m with statuses := statuses }
  /-- Another number of relays. -/
  | numbered (relays : Nat) : Step P m { m with relays := relays }

/-- `m'` is `m` after any number of elementary changes. -/
def Steps (P : Event → Prop) (m m' : Machine) : Prop := ReflTransGen (Step P) m m'

variable {P : Event → Prop} {m m' m'' : Machine}

theorem Steps.refl (P : Event → Prop) (m : Machine) : Steps P m m := ReflTransGen.refl

theorem Steps.trans (h : Steps P m m') (h' : Steps P m' m'') : Steps P m m'' :=
  ReflTransGen.trans h h'

theorem Step.one (h : Step P m m') : Steps P m m' := ReflTransGen.single h

theorem Steps.tail (h : Steps P m m') (h' : Step P m' m'') : Steps P m m'' :=
  ReflTransGen.tail h h'

/-! ### What steps keep -/

/-- The history grows by events that the steps may record. -/
theorem Steps.events (h : Steps P m m') :
    ∃ es, m'.events = m.events ++ es ∧ ∀ e ∈ es, P e := by
  induction h with
  | refl => exact ⟨[], (List.append_nil _).symm, fun _ he => by cases he⟩
  | tail _ hstep ih =>
    obtain ⟨es, hes, hall⟩ := ih
    cases hstep with
    | @recorded e he =>
      refine ⟨es ++ [e], ?_, fun e' he' => ?_⟩
      · rw [events_record, hes, List.append_assoc]
      · rcases List.mem_append.mp he' with he' | he'
        · exact hall e' he'
        · exact List.mem_singleton.mp he' ▸ he
    | _ => exact ⟨es, hes, hall⟩

/-- The log grows by records for whoever looks for a defect. -/
theorem Steps.log (h : Steps P m m') :
    ∃ rs, m'.log = m.log ++ rs ∧ ∀ r ∈ rs, r.level = LogRecord.debugLevel := by
  induction h with
  | refl => exact ⟨[], (List.append_nil _).symm, fun _ hr => by cases hr⟩
  | tail _ hstep ih =>
    obtain ⟨rs, hrs, hall⟩ := ih
    cases hstep with
    | noted logger message =>
      refine ⟨rs ++ [.debug logger message], ?_, fun r hr => ?_⟩
      · rw [note, hrs, List.append_assoc]
      · rcases List.mem_append.mp hr with hr | hr
        · exact hall r hr
        · exact List.mem_singleton.mp hr ▸ rfl
    | _ => exact ⟨rs, hrs, hall⟩

/-- A step leaves what a child is to run as it is. -/
theorem Step.child (h : Step P m m') (j : Nat) :
    (m'.child j).argv = (m.child j).argv ∧ (m'.child j).env = (m.child j).env := by
  cases h with
  | queued i process pending =>
    by_cases hj : j = i
    · simp [setChild, hj, Child.argv]
    · simp [setChild, hj]
  | _ => exact ⟨rfl, rfl⟩

theorem Steps.argv (h : Steps P m m') (j : Nat) : (m'.child j).argv = (m.child j).argv := by
  induction h with
  | refl => rfl
  | tail _ hstep ih => exact (hstep.child j).1.trans ih

theorem Steps.env (h : Steps P m m') (j : Nat) : (m'.child j).env = (m.child j).env := by
  induction h with
  | refl => rfl
  | tail _ hstep ih => exact (hstep.child j).2.trans ih

/-! ### Operations in steps

Every operation but a start records events that start nothing. So the steps may record what they
like as long as these events are allowed. -/

section

variable (hP : ∀ e, (∀ argv env, e ≠ .spawned argv env) → P e)
include hP

theorem steps_install (m : Machine) (s : Int) (h : Handler) : Steps P m (m.install s h).1 := by
  unfold install
  split
  · exact (Step.recorded (hP _ fun _ _ => Event.noConfusion)).one
  · exact (Step.recorded (hP _ fun _ _ => Event.noConfusion)).one.tail (.handled s h)

theorem steps_submit (m : Machine) (i : Nat) (s : Int) : Steps P m (m.submit i s).1 := by
  simp only [submit]
  split
  · exact (Step.noted childLogger _).one.tail (.queued i (m.child i).process _)
  · next p _ =>
    split
    · exact Steps.refl P m
    · have hsend : Steps P m (m.send p s).1 :=
        (Step.recorded (hP _ fun _ _ => Event.noConfusion)).one
      split
      · next m₁ heq =>
        rw [heq] at hsend
        exact hsend.tail (.noted childLogger _)
      · next m₁ f heq =>
        rw [heq] at hsend
        split
        · exact hsend.tail (.noted childLogger _)
        · exact hsend

theorem steps_submitAll (i : Nat) (ss : List Int) :
    ∀ m : Machine, Steps P m (m.submitAll i ss).1 := by
  induction ss with
  | nil => exact Steps.refl P
  | cons s ss ih =>
    intro m
    have h := steps_submit hP m i s
    rw [submitAll]
    split
    · next m₁ heq =>
      rw [heq] at h
      exact h.trans (ih m₁)
    · next m₁ f heq =>
      rw [heq] at h
      exact h

theorem steps_deliver (m : Machine) (s : Int) : Steps P m (m.deliver s).1 := by
  unfold deliver
  split
  · exact (Step.recorded (hP _ fun _ _ => Event.noConfusion)).one
  · next n i _ =>
    exact (Step.recorded (hP _ fun _ _ => Event.noConfusion)).one.trans (steps_submit hP _ i s)

theorem steps_deliverAll (ss : List Int) : ∀ m : Machine, Steps P m (m.deliverAll ss).1 := by
  induction ss with
  | nil => exact Steps.refl P
  | cons s ss ih =>
    intro m
    have h := steps_deliver hP m s
    rw [deliverAll]
    split
    · next m₁ heq =>
      rw [heq] at h
      exact h.trans (ih m₁)
    · next m₁ f heq =>
      rw [heq] at h
      exact h

theorem steps_collect (m : Machine) (p : Nat) : Steps P m (m.collect p).1 :=
  (Step.counted _).one.tail (.recorded (hP _ fun _ _ => Event.noConfusion))

theorem steps_wait (m : Machine) (i : Nat) : Steps P m (m.wait i).1 := by
  unfold wait
  split
  · exact Steps.refl P m
  · next p _ =>
    have h := steps_deliverAll hP (m.world.arrivals m.events) m
    split
    · next m₁ f heq =>
      rw [heq] at h
      exact h
    · next m₁ heq =>
      rw [heq] at h
      exact (h.trans (steps_collect hP m₁ p)).tail (.noted childLogger _)

theorem steps_installRelay (relay : Handler) (ss : List Int) :
    ∀ (m : Machine) (saved : Saved), Steps P m (m.installRelay relay saved ss).1 := by
  induction ss with
  | nil => exact fun m _ => Steps.refl P m
  | cons s ss ih =>
    intro m saved
    have h := steps_install hP m s relay
    rw [installRelay]
    split
    · next m₁ g heq =>
      rw [heq] at h
      exact h.trans (ih m₁ _)
    · next m₁ f heq =>
      rw [heq] at h
      split
      · exact (h.tail (.noted childLogger _)).trans (ih _ saved)
      · exact h

theorem steps_restore (saved : Saved) : ∀ m : Machine, Steps P m (m.restore saved).1 := by
  induction saved with
  | nil => exact Steps.refl P
  | cons b saved ih =>
    intro m
    obtain ⟨s, h⟩ := b
    have hstep := steps_install hP m s h
    rw [restore]
    split
    · next m₁ g heq =>
      rw [heq] at hstep
      exact hstep.trans (ih m₁)
    · next m₁ f heq =>
      rw [heq] at hstep
      exact hstep

theorem steps_openBlock (m : Machine) (i : Nat) (ss : List Int) :
    Steps P m (m.openBlock i ss).1 := by
  have hnew : Steps P m (m.newRelay i ss).1 := (Step.numbered _).one
  have h := hnew.trans (steps_installRelay hP (m.newRelay i ss).2 ss (m.newRelay i ss).1 [])
  simp only [openBlock]
  split
  · next m₁ saved heq =>
    rw [heq] at h
    exact h
  · next m₁ saved f heq =>
    rw [heq] at h
    have hrestore := h.trans (steps_restore hP saved m₁)
    split
    · next m₂ heq₂ =>
      rw [heq₂] at hrestore
      exact hrestore
    · next m₂ g heq₂ =>
      rw [heq₂] at hrestore
      exact hrestore

theorem steps_leaveBlock {α : Type} (m : Machine) (saved : Saved) (outcome : Except Failure α) :
    Steps P m (m.leaveBlock saved outcome).1 := by
  have h := steps_restore hP saved m
  unfold leaveBlock
  split
  · next m₁ heq =>
    rw [heq] at h
    exact h
  · next m₁ f heq =>
    rw [heq] at h
    exact h

theorem steps_resetHandler (m : Machine) (n : Int) (name : String) :
    Steps P m (m.resetHandler n name).1 := by
  have h := steps_install hP m n .default
  unfold resetHandler
  split
  · next m₁ g heq =>
    rw [heq] at h
    exact h
  · next m₁ f heq =>
    rw [heq] at h
    split
    · exact h.tail (.noted launchLogger _)
    · exact h

theorem steps_raiseSignal (m : Machine) (n : Int) (name : String) :
    Steps P m (m.raiseSignal n name).1 := by
  have h : Steps P m (m.killSelf n).1 := (Step.recorded (hP _ fun _ _ => Event.noConfusion)).one
  unfold raiseSignal
  split
  · next m₁ heq =>
    rw [heq] at h
    exact h
  · next m₁ f heq =>
    rw [heq] at h
    split
    · exact h.tail (.noted launchLogger _)
    · exact h

theorem steps_endBySignal (m : Machine) (n : Int) (name : String) :
    Steps P m (m.endBySignal n name).1 := by
  have h := steps_resetHandler hP m n name
  unfold endBySignal
  split
  · next m₁ f heq =>
    rw [heq] at h
    exact h
  · next m₁ heq =>
    rw [heq] at h
    have hraise := h.trans (steps_raiseSignal hP m₁ n name)
    split
    · next m₂ f heq₂ =>
      rw [heq₂] at hraise
      exact hraise
    · next m₂ heq₂ =>
      rw [heq₂] at hraise
      exact hraise

theorem steps_endAs (m : Machine) (t : Termination) : Steps P m (m.endAs t).1 := by
  cases t with
  | exited c => exact Steps.refl P m
  | signaled n name =>
    have hnote : Steps P m (m.note (raising name)) := (Step.noted _ _).one
    rw [endAs]
    split
    · exact hnote
    · exact hnote.trans (steps_endBySignal hP _ n name)

end

/-! ### Starting -/

variable {i : Nat}

theorem child_spawn (m : Machine) (argv : List String) (env : Env) :
    (m.spawn argv env).1.child = m.child := by
  unfold spawn
  split
  · rfl
  · rfl

theorem steps_spawn {argv : List String} {env : Env} (hs : P (.spawned argv env)) (m : Machine) :
    Steps P m (m.spawn argv env).1 := by
  unfold spawn
  split
  · exact (Step.recorded hs).one
  · exact (Step.recorded hs).one.tail (.counted _)

section

variable (hP : ∀ e, (∀ argv env, e ≠ .spawned argv env) → P e)
include hP

theorem steps_start (hs : P (.spawned (m.child i).argv (m.child i).env)) :
    Steps P m (m.start i).1 := by
  have h : Steps P m
      ((m.debug (m.child i).announcement).spawn (m.child i).argv (m.child i).env).1 :=
    (Step.noted childLogger _).one.trans (steps_spawn hs _)
  have hchild := child_spawn (m.debug (m.child i).announcement) (m.child i).argv (m.child i).env
  simp only [start]
  split
  · next m₁ f heq =>
    rw [heq] at h
    exact h
  · next m₁ p heq =>
    rw [heq] at h hchild
    -- The child that begins is the one that the machine still has.
    have hi : (m₁.debug ("Child started (pid=" ++ toString p ++ ")")).child i = m.child i :=
      congrFun hchild i
    have hbegun : Steps P m ((m₁.debug ("Child started (pid=" ++ toString p ++ ")")).setChild i
        ((m.child i).begun p)) := by
      rw [← hi]
      exact (h.tail (.noted childLogger _)).tail (.queued i (some p) [])
    have hall := hbegun.trans (steps_submitAll hP i (m.child i).pending _)
    split
    · next m₂ heq₂ =>
      rw [heq₂] at hall
      exact hall
    · next m₂ f heq₂ =>
      rw [heq₂] at hall
      exact hall

theorem steps_runChild (hs : P (.spawned (m.child i).argv (m.child i).env)) :
    Steps P m (m.runChild i).1 := by
  have h := steps_start hP hs
  unfold runChild
  split
  · next m₁ e heq =>
    rw [heq] at h
    exact h
  · next m₁ heq =>
    rw [heq] at h
    exact h.trans (steps_wait hP m₁ i)

/-- Supervising a child starts no other. -/
theorem steps_superviseChild (hs : P (.spawned (m.child i).argv (m.child i).env)) :
    Steps P m (m.superviseChild i).1 := by
  have h := steps_openBlock hP m i Signal.forwarded
  unfold superviseChild
  split
  · next m₁ f heq =>
    rw [heq] at h
    exact h
  · next m₁ saved heq =>
    rw [heq] at h
    have hs₁ : P (.spawned (m₁.child i).argv (m₁.child i).env) := by
      rw [h.argv i, h.env i]
      exact hs
    exact (h.trans (steps_runChild hP hs₁)).trans (steps_leaveBlock hP _ saved _)

end

end VendorLaunch.Machine
