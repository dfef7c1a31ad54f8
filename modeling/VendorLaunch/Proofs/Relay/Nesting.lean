import VendorLaunch.Proofs.Relay.Restoring
import Mathlib.Data.List.Infix

/-!
# Nested blocks

A routine opens relay blocks for any children inside one another, does things with children in
between, fails and goes on after failures (`Routine.run`). While it runs, blocks stand around what
it does, each a `Layer` with the signals that its relay holds. A block comes to hold its signals one
after the other while it is opened, and gives them back one after the other while it is left; so at
each of these moments too, signals may arrive (`Routine.moments`).

At every moment the handler of a signal is the relay of the innermost layer that holds it, and where
no layer does, it is the one from before the routine (`Moment.Stacked`). This goes by induction on
the routine, and the step is the block: what it saves are the relays of the layers around it, so
that giving a signal back is giving it to the next layer that holds it (`stacked_run`). So an
arriving signal is submitted to the child of the innermost layer that holds it and to no other, and
after the routine every handler is what it was (`Routine.handlers_stacked`).
-/

namespace VendorLaunch

open Event (installedOn)

namespace Machine

variable {m m' m'' : Machine}

/-! ### What acts leave alone -/

/-- `m'` answers as `m` does and has the same handlers in force. -/
structure Remains (m m' : Machine) : Prop where
  world : m'.world = m.world
  handlers : ∀ s, m'.handlerOf s = m.handlerOf s

theorem Remains.refl (m : Machine) : m.Remains m := ⟨rfl, fun _ => rfl⟩

theorem Remains.trans (h : m.Remains m') (h' : m'.Remains m'') : m.Remains m'' :=
  ⟨h'.world.trans h.world, fun s => (h'.handlers s).trans (h.handlers s)⟩

theorem remains_submit (m : Machine) (i : Nat) (s : Int) : m.Remains (m.submit i s).1 := by
  simp only [submit]
  split
  · exact ⟨rfl, fun _ => rfl⟩
  · next p _ =>
    have hsend : m.Remains (m.send p s).1 := ⟨rfl, fun _ => rfl⟩
    split
    · exact Remains.refl m
    · split
      · next m₁ heq =>
        rw [heq] at hsend
        exact hsend.trans ⟨rfl, fun _ => rfl⟩
      · next m₁ f heq =>
        rw [heq] at hsend
        split
        · exact hsend.trans ⟨rfl, fun _ => rfl⟩
        · exact hsend

theorem remains_submitAll (i : Nat) (ss : List Int) :
    ∀ m : Machine, m.Remains (m.submitAll i ss).1 := by
  induction ss with
  | nil => exact Remains.refl
  | cons s ss ih =>
    intro m
    have h := m.remains_submit i s
    rw [submitAll]
    split
    · next m₁ heq =>
      rw [heq] at h
      exact h.trans (ih m₁)
    · next m₁ f heq =>
      rw [heq] at h
      exact h

theorem remains_deliver (m : Machine) (s : Int) : m.Remains (m.deliver s).1 := by
  unfold deliver
  split
  · exact ⟨rfl, fun _ => rfl⟩
  · next n i _ =>
    have hrecord : m.Remains (m.record (.handled s (.relay n i))) := ⟨rfl, fun _ => rfl⟩
    exact hrecord.trans (remains_submit _ i s)

theorem remains_deliverAll (ss : List Int) : ∀ m : Machine, m.Remains (m.deliverAll ss).1 := by
  induction ss with
  | nil => exact Remains.refl
  | cons s ss ih =>
    intro m
    have h := m.remains_deliver s
    rw [deliverAll]
    split
    · next m₁ heq =>
      rw [heq] at h
      exact h.trans (ih m₁)
    · next m₁ f heq =>
      rw [heq] at h
      exact h

theorem remains_spawn (m : Machine) (argv : List String) (env : Env) :
    m.Remains (m.spawn argv env).1 := by
  unfold spawn
  split
  · exact ⟨rfl, fun _ => rfl⟩
  · exact ⟨rfl, fun _ => rfl⟩

theorem remains_start (m : Machine) (i : Nat) : m.Remains (m.start i).1 := by
  have hnote : m.Remains (m.debug (m.child i).announcement) := ⟨rfl, fun _ => rfl⟩
  have hspawn := hnote.trans (remains_spawn _ (m.child i).argv (m.child i).env)
  simp only [start]
  split
  · next m₁ f heq =>
    rw [heq] at hspawn
    exact hspawn
  · next m₁ p heq =>
    rw [heq] at hspawn
    have hbegun : m₁.Remains ((m₁.debug ("Child started (pid=" ++ toString p ++ ")")).setChild i
        ((m.child i).begun p)) := ⟨rfl, fun _ => rfl⟩
    have h := (hspawn.trans hbegun).trans (remains_submitAll i (m.child i).pending _)
    split
    · next m₂ heq₂ =>
      rw [heq₂] at h
      exact h
    · next m₂ f heq₂ =>
      rw [heq₂] at h
      exact h

theorem remains_wait (m : Machine) (i : Nat) : m.Remains (m.wait i).1 := by
  unfold wait
  split
  · exact Remains.refl m
  · next p _ =>
    have h := remains_deliverAll (m.world.arrivals m.events) m
    split
    · next m₁ f heq =>
      rw [heq] at h
      exact h
    · next m₁ heq =>
      rw [heq] at h
      exact h.trans ⟨rfl, fun _ => rfl⟩

/-! ### Signals that are passed on -/

/-- From `m` to `m'` a signal was passed on to child `i` and to no other. A child that has not been
started has it in its queue, behind what was there. To the process of a child that runs it was sent,
once, and a child whose process has ended was left alone. -/
structure PassesOn (m : Machine) (i : Nat) (s : Int) (m' : Machine) : Prop where
  others : ∀ j, j ≠ i → m'.child j = m.child j
  queued : (m.child i).process = none →
    m'.child i = { m.child i with pending := (m.child i).pending ++ [s] } ∧
      Event.sends m'.events = Event.sends m.events
  sent : ∀ p, (m.child i).process = some p → m'.child i = m.child i ∧
    Event.sends m'.events =
      Event.sends m.events ++ if (m.statusOf p).isSome = true then [] else [(p, s)]

theorem passesOn_submit (m : Machine) (i : Nat) (s : Int) : m.PassesOn i s (m.submit i s).1 := by
  cases hp : (m.child i).process with
  | none =>
    simp only [submit, hp]
    refine ⟨fun j hj => ?_, fun _ => ⟨?_, rfl⟩, fun p h => ?_⟩
    · simp only [setChild, if_neg hj]
      rfl
    · simp only [setChild, if_pos, hp]
    · cases hp.symm.trans h
  | some p =>
    have hsame : ∀ m' : Machine, m'.child = m.child → Event.sends m'.events =
        Event.sends m.events ++ (if (m.statusOf p).isSome = true then [] else [(p, s)]) →
        m.PassesOn i s m' := by
      intro m' hchild hsends
      refine ⟨fun j _ => congrFun hchild j, fun h => ?_, fun q hq => ?_⟩
      · cases hp.symm.trans h
      · obtain rfl := Option.some.inj (hp.symm.trans hq)
        exact ⟨congrFun hchild i, hsends⟩
    simp only [submit, hp]
    by_cases hended : (m.statusOf p).isSome = true
    · rw [if_pos hended]
      refine hsame m rfl ?_
      rw [if_pos hended, List.append_nil]
    · rw [if_neg hended]
      have hsend : Event.sends (m.send p s).1.events =
          Event.sends m.events ++ (if (m.statusOf p).isSome = true then [] else [(p, s)]) := by
        rw [if_neg hended]
        exact Event.sends_append m.events [.sent p s]
      split
      · next m₁ heq =>
        rw [heq] at hsend
        exact hsame _ (congrArg (fun r => r.1.child) heq).symm hsend
      · next m₁ f heq =>
        rw [heq] at hsend
        split
        · exact hsame _ (congrArg (fun r => r.1.child) heq).symm hsend
        · exact hsame _ (congrArg (fun r => r.1.child) heq).symm hsend

/-- A signal that arrives at a relay is submitted to the child of the relay, and to no other. -/
theorem deliver_of_relay {s : Int} {n i : Nat} (h : m.handlerOf s = .relay n i) :
    m.deliver s = (m.record (.handled s (.relay n i))).submit i s ∧
      m.PassesOn i s (m.deliver s).1 := by
  have heq : m.deliver s = (m.record (.handled s (.relay n i))).submit i s := by
    simp only [deliver, h]
  have hnone : Event.sends (m.record (.handled s (.relay n i))).events = Event.sends m.events := by
    rw [events_record, Event.sends_append]
    exact List.append_nil _
  obtain ⟨hothers, hqueued, hsent⟩ := (m.record (.handled s (.relay n i))).passesOn_submit i s
  rw [hnone] at hqueued hsent
  exact ⟨heq, heq ▸ ⟨hothers, hqueued, hsent⟩⟩

end Machine

/-! ### Layers -/

namespace Nesting

open Machine

/-- A block as it stands at some moment: its child, the number of its relay, and the signals that
the relay holds. -/
structure Layer where
  child : Nat
  number : Nat
  signals : List Int
  deriving DecidableEq, Repr

/-- The relay of a layer. -/
def Layer.relay (l : Layer) : Handler := .relay l.number l.child

/-- A layer that has given back the first of its signals. -/
def Layer.giveBack (l : Layer) (n : Nat) : Layer := ⟨l.child, l.number, l.signals.drop n⟩

/-- The innermost layer that holds a signal, the innermost standing first. -/
def holder? (layers : List Layer) (s : Int) : Option Layer :=
  layers.find? fun l => l.signals.contains s

/-- The handler that layers put in force for a signal; `base` is what is in force without them. -/
def inForce (base : Int → Handler) (layers : List Layer) (s : Int) : Handler :=
  match holder? layers s with
  | some l => l.relay
  | none => base s

theorem inForce_cons (base : Int → Handler) (l : Layer) (layers : List Layer) (s : Int) :
    inForce base (l :: layers) s = if s ∈ l.signals then l.relay else inForce base layers s := by
  by_cases h : s ∈ l.signals
  · have hholds : l.signals.contains s = true := List.contains_iff_mem.mpr h
    simp only [inForce, holder?, List.find?_cons, hholds, if_pos h]
  · have hholds : l.signals.contains s = false := by simpa using h
    simp only [inForce, holder?, List.find?_cons, hholds, if_neg h]

/-- The layer of the next block once its relay was tried for some signals. -/
def layer (m : Machine) (i : Nat) (tried : List Int) : Layer :=
  ⟨i, m.relays + 1, m.installedBy i tried⟩

/-- A moment of a run: the layers, the innermost first, and the machine. -/
structure Moment where
  layers : List Layer
  machine : Machine

/-- The handlers in force are those that the layers put in force. -/
def Moment.Stacked (base : Int → Handler) (x : Moment) : Prop :=
  ∀ s, x.machine.handlerOf s = inForce base x.layers s

/-! ### Routines -/

/-- What is done with a child, and what happens to the launcher meanwhile. -/
inductive Act where
  /-- A signal is passed on to a child directly. -/
  | submit (child : Nat) (signal : Int)
  /-- A signal arrives. -/
  | arrive (signal : Int)
  /-- A child is started. -/
  | start (child : Nat)
  /-- A child is waited for. -/
  | wait (child : Nat)
  deriving DecidableEq, Repr

/-- A fault of an act is a failure of the routine. -/
def raised (r : Machine × Except Fault Unit) : Machine × Except Failure Unit :=
  match r with
  | (m, .ok ()) => (m, .ok ())
  | (m, .error f) => (m, .error (.fault f))

namespace Act

/-- Does an act. -/
def run (m : Machine) : Act → Machine × Except Failure Unit
  | submit i s => raised (m.submit i s)
  | arrive s => raised (m.deliver s)
  | start i => m.start i
  | wait i => ((m.wait i).1, (m.wait i).2.map fun _ => ())

/-- The machine before an act and after it; during a wait, also after each signal that arrives. -/
def machines (m : Machine) : Act → List Machine
  | wait i =>
    match (m.child i).process with
    | none => [m]
    | some _ =>
      ((m.world.arrivals m.events).inits.map fun ss => (m.deliverAll ss).1) ++ [(m.wait i).1]
  | a => [m, (a.run m).1]

end Act

/-- A program of nested blocks. -/
inductive Routine where
  /-- Nothing is left to do. -/
  | done
  /-- An act. -/
  | act (a : Act)
  /-- A failure. -/
  | fail (e : Failure)
  /-- One routine after another, unless the first one fails. -/
  | andThen (first second : Routine)
  /-- A routine, and another one that goes on when the first one fails. -/
  | recover (first : Routine) (second : Failure → Routine)
  /-- A routine that depends on the machine. -/
  | depending (choose : Machine → Routine)
  /-- A block that relays signals to a child, around a body. -/
  | block (child : Nat) (signals : List Int) (body : Routine)

namespace Routine

/-- Runs a routine. -/
def run : Routine → Machine → Machine × Except Failure Unit
  | done, m => (m, .ok ())
  | act a, m => a.run m
  | fail e, m => (m, .error e)
  | andThen p q, m =>
    match p.run m with
    | (m₁, .ok ()) => q.run m₁
    | (m₁, .error e) => (m₁, .error e)
  | recover p q, m =>
    match p.run m with
    | (m₁, .ok ()) => (m₁, .ok ())
    | (m₁, .error e) => (q e).run m₁
  | depending choose, m => (choose m).run m
  | block i ss p, m => m.inBlock i ss p.run

/-- The moments while a block is opened: its relay has been tried for the first signals. -/
def opening (layers : List Layer) (m : Machine) (i : Nat) (ss : List Int) : List Moment :=
  ss.inits.map fun tried => ⟨layer m i tried :: layers, (m.tryRelay i ss tried).1⟩

/-- The moments while a block is left: the first of its handlers have been put back. -/
def leaving (layers : List Layer) (l : Layer) (m : Machine) (saved : Saved) : List Moment :=
  saved.inits.map fun put => ⟨l.giveBack put.length :: layers, (m.restore put).1⟩

/-- The moments of a run inside some layers. -/
def moments : Routine → List Layer → Machine → List Moment
  | done, layers, m => [⟨layers, m⟩]
  | act a, layers, m => (a.machines m).map fun m₁ => ⟨layers, m₁⟩
  | fail _, layers, m => [⟨layers, m⟩]
  | andThen p q, layers, m =>
    p.moments layers m ++ match p.run m with
      | (m₁, .ok ()) => q.moments layers m₁
      | (_, .error _) => []
  | recover p q, layers, m =>
    p.moments layers m ++ match p.run m with
      | (_, .ok ()) => []
      | (m₁, .error e) => (q e).moments layers m₁
  | depending choose, layers, m => (choose m).moments layers m
  | block i ss p, layers, m =>
    opening layers m i ss ++
      (match (m.tryRelay i ss ss).2.2 with
        | .ok () => p.moments (layer m i ss :: layers) (m.opened i ss)
        | .error _ => []) ++
      leaving layers (layer m i ss) (m.upToLeaving i ss p.run).1 (m.savedBy i ss)

/-- No block is given a signal twice. -/
def Distinct : Routine → Prop
  | andThen p q => p.Distinct ∧ q.Distinct
  | recover p q => p.Distinct ∧ ∀ e, (q e).Distinct
  | depending choose => ∀ m, (choose m).Distinct
  | block _ ss p => ss.Nodup ∧ p.Distinct
  | done | act _ | fail _ => True

/-- The handlers that the blocks of a run have saved can all be put back. -/
def Restores : Routine → Machine → Prop
  | andThen p q, m => p.Restores m ∧ match p.run m with
      | (m₁, .ok ()) => q.Restores m₁
      | (_, .error _) => True
  | recover p q, m => p.Restores m ∧ match p.run m with
      | (_, .ok ()) => True
      | (m₁, .error e) => (q e).Restores m₁
  | depending choose, m => (choose m).Restores m
  | block i ss p, m => p.Restores (m.opened i ss) ∧
      ((m.upToLeaving i ss p.run).1.restore (m.savedBy i ss)).2 = .ok ()
  | done, _ | act _, _ | fail _, _ => True

end Routine

/-! ### What happens to the layers -/

section

variable {base : Int → Handler} {layers : List Layer} {m : Machine} {i : Nat} {ss : List Int}

/-- What an act has not changed stands as before. -/
theorem stacked_of_remains (hm : Moment.Stacked base ⟨layers, m⟩) {m' : Machine}
    (h : m.Remains m') : Moment.Stacked base ⟨layers, m'⟩ :=
  fun s => (h.handlers s).trans (hm s)

theorem remains_act (m : Machine) (a : Act) : m.Remains (a.run m).1 := by
  have hraised : ∀ r : Machine × Except Fault Unit, (raised r).1 = r.1 := by
    rintro ⟨m₁, f | ⟨⟩⟩
    · rfl
    · rfl
  cases a with
  | submit i s => exact (hraised _).symm ▸ m.remains_submit i s
  | arrive s => exact (hraised _).symm ▸ m.remains_deliver s
  | start i => exact m.remains_start i
  | wait i => exact m.remains_wait i

theorem remains_machines {a : Act} {m₁ : Machine} (h : m₁ ∈ a.machines m) : m.Remains m₁ := by
  cases a with
  | wait i =>
    rw [Act.machines] at h
    split at h
    · exact List.mem_singleton.mp h ▸ Remains.refl m
    · rcases List.mem_append.mp h with h | h
      · obtain ⟨ss, -, rfl⟩ := List.mem_map.mp h
        exact remains_deliverAll ss m
      · exact List.mem_singleton.mp h ▸ m.remains_wait i
  | _ =>
    rcases List.mem_cons.mp h with rfl | h
    · exact Remains.refl m₁
    · exact List.mem_singleton.mp h ▸ remains_act m _

/-- A block that has tried its relay for some signals holds those for which it is installed. -/
theorem stacked_tryRelay (hm : Moment.Stacked base ⟨layers, m⟩) (i : Nat) (ss tried : List Int) :
    Moment.Stacked base ⟨layer m i tried :: layers, (m.tryRelay i ss tried).1⟩ := by
  intro s
  rw [(m.tries_tryRelay i ss tried).handlerOf s, inForce_cons, hm s]
  rfl

/-- A block whose body has left the handlers alone and that has put back the first of its handlers
holds the signals behind them. -/
theorem stacked_restore (hm : Moment.Stacked base ⟨layers, m⟩) (hn : ss.Nodup) {m₂ : Machine}
    (hbody : (m.opened i ss).Remains m₂) {put later : Saved} (hput : put ++ later = m.savedBy i ss)
    (hr : (m₂.restore put).2 = .ok ()) :
    Moment.Stacked base ⟨(layer m i ss).giveBack put.length :: layers, (m₂.restore put).1⟩ := by
  have hinstalled : (m.installedBy i ss).Nodup :=
    (Surroundings.installedOn_trials_sublist _ _ _ _).nodup hn
  rw [savedBy_of_nodup m i hn, eq_comm, savedHandlers, List.map_eq_append_iff] at hput
  obtain ⟨done, rest, heq, rfl, rfl⟩ := hput
  rw [heq] at hinstalled
  obtain ⟨hdone, -, hapart⟩ := List.nodup_append.mp hinstalled
  have hkeys : (Table.keys (m.savedHandlers done)).Nodup := (m.keys_savedHandlers done).symm ▸ hdone
  have hrest : ((layer m i ss).giveBack (m.savedHandlers done).length).signals = rest := by
    rw [Layer.giveBack, layer, heq, savedHandlers, List.length_map, List.drop_left]
  intro s
  have hforce := (putsBack_of_ok hr).handlerOf hkeys s
  rw [← savedHandlers, find?_savedHandlers, hbody.handlers s, opened,
    (m.tries_tryRelay i ss ss).handlerOf s] at hforce
  rw [← savedHandlers, hforce, inForce_cons, hrest, ← hm s]
  have hmem : s ∈ installedOn (m.world.trials (m.nextRelay i) m.events ss) ↔
      s ∈ done ∨ s ∈ rest := by
    rw [← List.mem_append, ← heq]
    rfl
  by_cases hs : s ∈ done
  · rw [if_pos hs, if_neg fun hs' => hapart s hs s hs' rfl]
    rfl
  · rw [if_neg hs]
    simp only [hmem, hs, false_or, Option.getD_none]
    rfl

/-- After a block without repeated signals whose body has left the handlers alone, they are what
they were before it. -/
theorem remains_inBlock {body : Machine → Machine × Except Failure Unit} (hn : ss.Nodup)
    (hbody : (m.opened i ss).Remains (m.upToLeaving i ss body).1)
    (hr : ((m.upToLeaving i ss body).1.restore (m.savedBy i ss)).2 = .ok ()) :
    m.Remains (m.inBlock i ss body).1 := by
  have hback := putsBack_of_ok hr
  have hadds := (m.tries_tryRelay i ss ss).adds
  have hstack : Moment.Stacked m.handlerOf
      ⟨[(layer m i ss).giveBack (m.savedBy i ss).length], _⟩ :=
    stacked_restore (fun _ => rfl) hn hbody (List.append_nil _) hr
  have hnone : ((layer m i ss).giveBack (m.savedBy i ss).length).signals = [] := by
    rw [savedBy_of_nodup m i hn, savedHandlers, List.length_map]
    exact List.drop_length
  rw [inBlock_eq_leaveBlock, leaveBlock_eq]
  refine ⟨hback.adds.world.trans (hbody.world.trans hadds.world), fun s => ?_⟩
  rw [hstack s, inForce_cons, hnone, if_neg List.not_mem_nil]
  rfl

/-- What every routine keeps: at each of its moments the handlers are those that the layers put in
force, and at its end they are what they were at its beginning. -/
theorem stacked_run (p : Routine) :
    ∀ {layers : List Layer} {m : Machine}, m.world.RefusesInstalls → p.Distinct → p.Restores m →
      Moment.Stacked base ⟨layers, m⟩ →
      (∀ x ∈ p.moments layers m, x.Stacked base) ∧ m.Remains (p.run m).1 := by
  induction p with
  | done =>
    intro layers m _ _ _ hm
    exact ⟨fun x hx => List.mem_singleton.mp hx ▸ hm, Remains.refl m⟩
  | act a =>
    intro layers m _ _ _ hm
    refine ⟨fun x hx => ?_, remains_act m a⟩
    obtain ⟨m₁, hm₁, rfl⟩ := List.mem_map.mp hx
    exact stacked_of_remains hm (remains_machines hm₁)
  | fail e =>
    intro layers m _ _ _ hm
    exact ⟨fun x hx => List.mem_singleton.mp hx ▸ hm, Remains.refl m⟩
  | andThen p q ihp ihq =>
    intro layers m hw hd hr hm
    obtain ⟨hrp, hq⟩ := hr
    obtain ⟨hp, hremains⟩ := ihp hw hd.1 hrp hm
    simp only [Routine.moments, Routine.run]
    rcases hrun : p.run m with ⟨m₁, e | ⟨⟩⟩
    · rw [hrun] at hremains
      rw [List.append_nil]
      exact ⟨hp, hremains⟩
    · rw [hrun] at hremains hq
      obtain ⟨hq, hremains'⟩ := ihq (hremains.world ▸ hw) hd.2 hq (stacked_of_remains hm hremains)
      refine ⟨fun x hx => ?_, hremains.trans hremains'⟩
      rcases List.mem_append.mp hx with hx | hx
      · exact hp x hx
      · exact hq x hx
  | recover p q ihp ihq =>
    intro layers m hw hd hr hm
    rw [Routine.Restores] at hr
    obtain ⟨hrp, hq⟩ := hr
    obtain ⟨hp, hremains⟩ := ihp hw hd.1 hrp hm
    simp only [Routine.moments, Routine.run]
    rcases hrun : p.run m with ⟨m₁, e | ⟨⟩⟩
    · rw [hrun] at hremains hq
      obtain ⟨hq, hremains'⟩ :=
        ihq e (hremains.world ▸ hw) (hd.2 e) hq (stacked_of_remains hm hremains)
      refine ⟨fun x hx => ?_, hremains.trans hremains'⟩
      rcases List.mem_append.mp hx with hx | hx
      · exact hp x hx
      · exact hq x hx
    · rw [hrun] at hremains
      rw [List.append_nil]
      exact ⟨hp, hremains⟩
  | depending choose ih =>
    intro layers m hw hd hr hm
    exact ih m hw (hd m) hr hm
  | block i ss p ih =>
    intro layers m hw hd hr hm
    have hresult := (m.tries_tryRelay i ss ss).result_of_refusals (hw.of _)
    have hworld : (m.opened i ss).world = m.world := (m.tries_tryRelay i ss ss).adds.world
    obtain ⟨hp, hbody⟩ := ih (hworld ▸ hw) hd.2 hr.1 (stacked_tryRelay hm i ss ss)
    have hbody : (m.opened i ss).Remains (m.upToLeaving i ss p.run).1 := by
      rw [upToLeaving_of_refusals (hw.of _)]
      exact hbody
    refine ⟨fun x hx => ?_, remains_inBlock hd.1 hbody hr.2⟩
    simp only [Routine.moments, hresult] at hx
    rcases List.mem_append.mp hx with hx | hx
    · rcases List.mem_append.mp hx with hx | hx
      · obtain ⟨tried, -, rfl⟩ := List.mem_map.mp hx
        exact stacked_tryRelay hm i ss tried
      · exact hp x hx
    · obtain ⟨put, hput, rfl⟩ := List.mem_map.mp hx
      obtain ⟨later, hlater⟩ := (List.mem_inits _ _).mp hput
      have hsome := restore_ok_of_append (hlater.symm ▸ hr.2)
      exact stacked_restore hm hd.1 hbody hlater hsome

end

/-! ### The innermost block receives a signal -/

/-- In a run of nested blocks, whatever installations are refused and wherever it fails, the handler
of a signal is at each moment the relay of the innermost block that holds the signal, or else the
handler from before the run. So an arriving signal is submitted to the child of that block and to no
other: it is queued for a child that has not been started, sent once to one that runs, and not sent
at all after its end. After the run every handler is the one from before it. -/
theorem Routine.handlers_stacked (p : Routine) (m : Machine) (hw : m.world.RefusesInstalls)
    (hd : p.Distinct) (hr : p.Restores m) :
    (∀ x ∈ p.moments [] m, ∀ s,
      x.machine.handlerOf s = inForce m.handlerOf x.layers s ∧
      ∀ l, holder? x.layers s = some l →
        x.machine.deliver s = (x.machine.record (.handled s l.relay)).submit l.child s ∧
        x.machine.PassesOn l.child s (x.machine.deliver s).1) ∧
    ∀ s, (p.run m).1.handlerOf s = m.handlerOf s := by
  have hstart : Moment.Stacked m.handlerOf ⟨[], m⟩ := fun _ => rfl
  obtain ⟨hmoments, hend⟩ := stacked_run p hw hd hr hstart
  refine ⟨fun x hx s => ⟨hmoments x hx s, fun l hl => ?_⟩, hend.handlers⟩
  have hforce : x.machine.handlerOf s = .relay l.number l.child := by
    rw [hmoments x hx s, inForce, hl]
    rfl
  exact deliver_of_relay hforce

/-- A block for child 0, and in it one for child 1 that receives the terminating signal and fails.
The failure is handled in the outer block, where that signal arrives once more. -/
def relayInRelay : Routine :=
  .block 0 [2, 15] (.recover
    (.block 1 [15, 1] (.andThen (.act (.arrive 15)) (.fail (.fault notStarted))))
    fun _ => .act (.arrive 15))

/-- The inner block holds the terminating signal, which it passes on to its child, and leaves
interrupts to the outer one. It is refused the hang-up signal. -/
theorem handlers_stacked_relayInRelay :
    (∃ x ∈ relayInRelay.moments [] relayedMachine,
      x.layers = [⟨1, 9, [15]⟩, ⟨0, 8, [2, 15]⟩] ∧
      x.machine.handlerOf 15 = .relay 9 1 ∧ x.machine.handlerOf 2 = .relay 8 0 ∧
      x.machine.handlerOf 1 = .default ∧
      x.machine.deliver 15 = (x.machine.record (.handled 15 (.relay 9 1))).submit 1 15) ∧
    (relayInRelay.run relayedMachine).1.handlerOf 2 = .relay 7 3 := by
  have hw : relayedMachine.world.RefusesInstalls := by
    intro past s h f hf
    simp only [relayedMachine, stubbornWorld] at hf
    split at hf
    · obtain rfl := Option.some.inj hf
      decide
    · cases hf
  have hd : relayInRelay.Distinct :=
    ⟨by decide, ⟨by decide, trivial, trivial⟩, fun _ => trivial⟩
  have hr : relayInRelay.Restores relayedMachine :=
    ⟨⟨⟨⟨trivial, trivial⟩, rfl⟩, trivial⟩, rfl⟩
  obtain ⟨hmoments, hend⟩ := relayInRelay.handlers_stacked relayedMachine hw hd hr
  obtain ⟨x, hx, hlayers⟩ : ∃ x, (relayInRelay.moments [] relayedMachine)[6]? = some x ∧
      x.layers = [⟨1, 9, [15]⟩, ⟨0, 8, [2, 15]⟩] := ⟨_, rfl, rfl⟩
  have hmem := List.mem_of_getElem? hx
  have hstack := hmoments x hmem
  simp only [hlayers] at hstack
  exact ⟨⟨x, hmem, hlayers, (hstack 15).1, (hstack 2).1, (hstack 1).1, ((hstack 15).2 _ rfl).1⟩,
    hend 2⟩

end Nesting

end VendorLaunch
