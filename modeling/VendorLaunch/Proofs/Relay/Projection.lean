import VendorLaunch.Exit
import VendorLaunch.Relay

/-!
# Environments that the system does not look into

A launcher hands an environment to its child and does nothing else with it. So a map `φ` of
environments goes through a whole run: mapping the environments of the children beforehand and
mapping those in the history afterwards come to the same, as long as the answers of the system do
not depend on what `φ` changes (`Surroundings.Blind`).

There is one lemma for each operation, from the system calls up to supervising a child
(`Machine.tracks_superviseChild`) and ending as it ended (`Machine.tracks_endAs`). The answers of
an operation are the same on both sides, so each case of the one run is the same case of the other.
-/

namespace VendorLaunch

/-- The event with the environment of a started child mapped. -/
def Event.onEnv (φ : Env → Env) : Event → Event
  | .spawned argv env => .spawned argv (φ env)
  | e => e

/-- The child with its environment mapped. -/
def Child.onEnv (φ : Env → Env) (c : Child) : Child := { c with env := φ c.env }

/-- The machine with all environments mapped, those in its history too. -/
def Machine.onEnv (φ : Env → Env) (m : Machine) : Machine :=
  { m with events := m.events.map (Event.onEnv φ), child := fun i => (m.child i).onEnv φ }

/-! ### Surroundings that do not look -/

/-- No answer of the surroundings depends on what a map does to environments. -/
structure Surroundings.Blind (w : Surroundings) (φ : Env → Env) : Prop where
  spawnFault : ∀ past, w.spawnFault (past.map (Event.onEnv φ)) = w.spawnFault past
  endStatus : ∀ past p, w.endStatus (past.map (Event.onEnv φ)) p = w.endStatus past p
  arrivals : ∀ past, w.arrivals (past.map (Event.onEnv φ)) = w.arrivals past
  sendFault : ∀ past p s, w.sendFault (past.map (Event.onEnv φ)) p s = w.sendFault past p s
  installFault : ∀ past s h,
    w.installFault (past.map (Event.onEnv φ)) s h = w.installFault past s h
  killFault : ∀ past s, w.killFault (past.map (Event.onEnv φ)) s = w.killFault past s
  flushFault : ∀ past stream,
    w.flushFault (past.map (Event.onEnv φ)) stream = w.flushFault past stream

/-- Rules count installations, sends and signals to the own process, and none of them has an
environment. -/
theorem World.blind (w : World) (φ : Env → Env) : w.surroundings.Blind φ := by
  have hcount : ∀ (q : Event → Bool), (∀ e : Event, q (e.onEnv φ) = q e) → ∀ past : List Event,
      (past.map (Event.onEnv φ)).countP q = past.countP q := by
    intro q hq past
    rw [List.countP_map]
    exact List.countP_congr fun e _ => by rw [Function.comp_apply, hq e]
  have hsend : ∀ (s : Int) (e : Event), (e.onEnv φ).isSend s = e.isSend s := by
    intro s e
    cases e <;> rfl
  have hinstall : ∀ (s : Int) (e : Event), (e.onEnv φ).isInstall s = e.isInstall s := by
    intro s e
    cases e <;> rfl
  have hkill : ∀ (s : Int) (e : Event), (e.onEnv φ).isKill s = e.isKill s := by
    intro s e
    cases e <;> rfl
  exact {
    spawnFault := fun _ => rfl
    endStatus := fun _ _ => rfl
    arrivals := fun _ => rfl
    sendFault := fun past _ s => by simp only [surroundings, hcount _ (hsend s) past]
    installFault := fun past s _ => by simp only [surroundings, hcount _ (hinstall s) past]
    killFault := fun past s => by simp only [surroundings, hcount _ (hkill s) past]
    flushFault := fun _ _ => rfl }

namespace Machine

/-- The two results are those of one operation without and with the environments mapped: the answers
are the same, the machines differ by the map, and the surroundings stay blind. -/
def Tracks {α : Type} (φ : Env → Env) (r r' : Machine × α) : Prop :=
  ∃ m a, r = (m, a) ∧ r' = (m.onEnv φ, a) ∧ m.world.Blind φ

variable {φ : Env → Env} {m : Machine}

/-! ### What is not mapped -/

@[simp] theorem world_onEnv : (m.onEnv φ).world = m.world := rfl

@[simp] theorem events_onEnv : (m.onEnv φ).events = m.events.map (Event.onEnv φ) := rfl

@[simp] theorem handlerOf_onEnv (s : Int) : (m.onEnv φ).handlerOf s = m.handlerOf s := rfl

@[simp] theorem statusOf_onEnv (p : Nat) : (m.onEnv φ).statusOf p = m.statusOf p := rfl

@[simp] theorem child_onEnv (i : Nat) : (m.onEnv φ).child i = (m.child i).onEnv φ := rfl

theorem record_onEnv (e : Event) : (m.onEnv φ).record (e.onEnv φ) = (m.record e).onEnv φ := by
  simp [record, onEnv]

/-- Most events have no environment. -/
theorem record_onEnv_of {e : Event} (he : e.onEnv φ = e) :
    (m.onEnv φ).record e = (m.record e).onEnv φ := by
  rw [← record_onEnv, he]

theorem setStatus_onEnv (p : Nat) (status : Option Int) :
    (m.onEnv φ).setStatus p status = (m.setStatus p status).onEnv φ := rfl

theorem setChild_onEnv (i : Nat) (c : Child) :
    (m.onEnv φ).setChild i (c.onEnv φ) = (m.setChild i c).onEnv φ := by
  simp only [setChild, onEnv, Machine.mk.injEq, true_and]
  funext j
  split
  · rfl
  · rfl

/-! ### System calls -/

section

variable (hw : m.world.Blind φ)
include hw

theorem tracks_install (s : Int) (h : Handler) :
    Tracks φ (m.install s h) ((m.onEnv φ).install s h) := by
  unfold install
  rw [world_onEnv, events_onEnv, hw.installFault]
  cases m.world.installFault m.events s h with
  | some f =>
    dsimp only
    rw [record_onEnv_of (e := .installFailed s h) rfl]
    exact ⟨_, _, rfl, rfl, hw⟩
  | none =>
    dsimp only
    rw [record_onEnv_of (e := .installed s h) rfl]
    exact ⟨_, _, rfl, rfl, hw⟩

theorem tracks_send (p : Nat) (s : Int) : Tracks φ (m.send p s) ((m.onEnv φ).send p s) := by
  unfold send
  rw [world_onEnv, events_onEnv, hw.sendFault, record_onEnv_of (e := .sent p s) rfl]
  exact ⟨_, _, rfl, rfl, hw⟩

theorem tracks_killSelf (s : Int) : Tracks φ (m.killSelf s) ((m.onEnv φ).killSelf s) := by
  unfold killSelf
  rw [world_onEnv, events_onEnv, hw.killFault, record_onEnv_of (e := .killed s) rfl]
  exact ⟨_, _, rfl, rfl, hw⟩

theorem tracks_spawn (argv : List String) (env : Env) :
    Tracks φ (m.spawn argv env) ((m.onEnv φ).spawn argv (φ env)) := by
  have hrecord : (m.onEnv φ).record (.spawned argv (φ env)) =
      (m.record (.spawned argv env)).onEnv φ := record_onEnv (.spawned argv env)
  unfold spawn
  rw [world_onEnv, events_onEnv, hw.spawnFault, hrecord]
  cases m.world.spawnFault m.events with
  | some f => exact ⟨_, _, rfl, rfl, hw⟩
  | none => exact ⟨_, _, rfl, rfl, hw⟩

theorem tracks_collect (p : Nat) : Tracks φ (m.collect p) ((m.onEnv φ).collect p) := by
  unfold collect
  rw [world_onEnv, events_onEnv, statusOf_onEnv, hw.endStatus]
  simp only [setStatus_onEnv, record_onEnv_of (e := .waited p) rfl]
  exact ⟨_, _, rfl, rfl, hw⟩

/-! ### The life of a child -/

theorem tracks_submit (i : Nat) (s : Int) :
    Tracks φ (m.submit i s) ((m.onEnv φ).submit i s) := by
  unfold submit
  simp only [child_onEnv, Child.onEnv]
  cases hp : (m.child i).process with
  | none =>
    let queued : Child :=
      { m.child i with process := none, pending := (m.child i).pending ++ [s] }
    have hchild := setChild_onEnv (φ := φ)
      (m := m.debug ("Child not started yet, queueing signal " ++ toString s)) i queued
    exact ⟨_, .ok (), rfl, congrArg (·, Except.ok ()) hchild, hw⟩
  | some p =>
    by_cases hended : (m.statusOf p).isSome = true
    · have hended' : ((m.onEnv φ).statusOf p).isSome = true := hended
      simp only [if_pos hended, if_pos hended']
      exact ⟨_, _, rfl, rfl, hw⟩
    · have hended' : ¬((m.onEnv φ).statusOf p).isSome = true := hended
      obtain ⟨m₁, a, heq, heq', hw₁⟩ := tracks_send hw p s
      simp only [if_neg hended, if_neg hended', heq, heq']
      cases a with
      | ok u => exact ⟨_, _, rfl, rfl, hw₁⟩
      | error f =>
        dsimp only
        split
        · exact ⟨_, _, rfl, rfl, hw₁⟩
        · exact ⟨_, _, rfl, rfl, hw₁⟩

end

/-- Passing several signals on is passing on one after the other. -/
theorem tracks_submitAll (i : Nat) (ss : List Int) :
    ∀ {m : Machine}, m.world.Blind φ → Tracks φ (m.submitAll i ss) ((m.onEnv φ).submitAll i ss) := by
  induction ss with
  | nil => exact fun hw => ⟨_, _, rfl, rfl, hw⟩
  | cons s ss ih =>
    intro m hw
    obtain ⟨m₁, a, heq, heq', hw₁⟩ := tracks_submit hw i s
    unfold submitAll
    rw [heq, heq']
    cases a with
    | ok u => exact ih hw₁
    | error f => exact ⟨_, _, rfl, rfl, hw₁⟩

theorem tracks_deliver (hw : m.world.Blind φ) (s : Int) :
    Tracks φ (m.deliver s) ((m.onEnv φ).deliver s) := by
  unfold deliver
  rw [handlerOf_onEnv]
  cases m.handlerOf s with
  | default =>
    dsimp only
    rw [record_onEnv_of (e := .unhandled s) rfl]
    exact ⟨_, _, rfl, rfl, hw⟩
  | relay n i =>
    dsimp only
    rw [record_onEnv_of (e := .handled s (.relay n i)) rfl]
    exact tracks_submit (m := m.record (.handled s (.relay n i))) hw i s

theorem tracks_deliverAll (ss : List Int) :
    ∀ {m : Machine}, m.world.Blind φ → Tracks φ (m.deliverAll ss) ((m.onEnv φ).deliverAll ss) := by
  induction ss with
  | nil => exact fun hw => ⟨_, _, rfl, rfl, hw⟩
  | cons s ss ih =>
    intro m hw
    obtain ⟨m₁, a, heq, heq', hw₁⟩ := tracks_deliver hw s
    unfold deliverAll
    rw [heq, heq']
    cases a with
    | ok u => exact ih hw₁
    | error f => exact ⟨_, _, rfl, rfl, hw₁⟩

section

variable (hw : m.world.Blind φ)
include hw

/-- The environment reaches the system here, when the process is started. -/
theorem tracks_start (i : Nat) : Tracks φ (m.start i) ((m.onEnv φ).start i) := by
  obtain ⟨m₁, a, heq, heq', hw₁⟩ := tracks_spawn (m := m.debug (m.child i).announcement) hw
    (m.child i).argv (m.child i).env
  have hspawn : ((m.onEnv φ).debug ((m.onEnv φ).child i).announcement).spawn
      ((m.onEnv φ).child i).argv ((m.onEnv φ).child i).env = (m₁.onEnv φ, a) := heq'
  simp only [start]
  rw [heq, hspawn]
  cases a with
  | error f => exact ⟨_, _, rfl, rfl, hw₁⟩
  | ok p =>
    have hchild := setChild_onEnv (φ := φ)
      (m := m₁.debug ("Child started (pid=" ++ toString p ++ ")")) i ((m.child i).begun p)
    have hrest := tracks_submitAll (φ := φ) i (m.child i).pending
      (m := (m₁.debug ("Child started (pid=" ++ toString p ++ ")")).setChild i
        ((m.child i).begun p)) hw₁
    rw [← hchild] at hrest
    obtain ⟨m₂, b, heq₂, heq₂', hw₂⟩ := hrest
    have hrest' : (((m₁.onEnv φ).debug ("Child started (pid=" ++ toString p ++ ")")).setChild i
        (((m.onEnv φ).child i).begun p)).submitAll i ((m.onEnv φ).child i).pending =
          (m₂.onEnv φ, b) := heq₂'
    dsimp only
    rw [heq₂, hrest']
    cases b with
    | ok u => exact ⟨_, _, rfl, rfl, hw₂⟩
    | error f => exact ⟨_, _, rfl, rfl, hw₂⟩

theorem tracks_wait (i : Nat) : Tracks φ (m.wait i) ((m.onEnv φ).wait i) := by
  unfold wait
  simp only [child_onEnv, Child.onEnv]
  cases hp : (m.child i).process with
  | none => exact ⟨_, _, rfl, rfl, hw⟩
  | some p =>
    simp only [world_onEnv, events_onEnv, hw.arrivals]
    obtain ⟨m₁, a, heq, heq', hw₁⟩ := tracks_deliverAll (m.world.arrivals m.events) hw
    rw [heq, heq']
    cases a with
    | error f => exact ⟨_, _, rfl, rfl, hw₁⟩
    | ok u =>
      obtain ⟨m₂, status, heq₂, heq₂', hw₂⟩ := tracks_collect hw₁ p
      dsimp only
      rw [heq₂, heq₂']
      exact ⟨_, _, rfl, rfl, hw₂⟩

end

/-! ### The block -/

theorem tracks_installRelay (relay : Handler) (ss : List Int) :
    ∀ {m : Machine} (saved : Saved), m.world.Blind φ →
      Tracks φ (m.installRelay relay saved ss) ((m.onEnv φ).installRelay relay saved ss) := by
  induction ss with
  | nil => exact fun saved hw => ⟨_, _, rfl, rfl, hw⟩
  | cons s ss ih =>
    intro m saved hw
    obtain ⟨m₁, a, heq, heq', hw₁⟩ := tracks_install hw s relay
    unfold installRelay
    rw [heq, heq']
    cases a with
    | ok h => exact ih _ hw₁
    | error f =>
      dsimp only
      split
      · exact ih (m := m₁.debug ("Cannot forward " ++ toString s ++ ": " ++ f.text)) saved hw₁
      · exact ⟨_, _, rfl, rfl, hw₁⟩

theorem tracks_restore (saved : Saved) :
    ∀ {m : Machine}, m.world.Blind φ → Tracks φ (m.restore saved) ((m.onEnv φ).restore saved) := by
  induction saved with
  | nil => exact fun hw => ⟨_, _, rfl, rfl, hw⟩
  | cons b saved ih =>
    intro m hw
    obtain ⟨m₁, a, heq, heq', hw₁⟩ := tracks_install hw b.1 b.2
    unfold restore
    rw [heq, heq']
    cases a with
    | ok h => exact ih hw₁
    | error f => exact ⟨_, _, rfl, rfl, hw₁⟩

section

variable (hw : m.world.Blind φ)
include hw

theorem tracks_openBlock (i : Nat) (ss : List Int) :
    Tracks φ (m.openBlock i ss) ((m.onEnv φ).openBlock i ss) := by
  obtain ⟨m₁, ⟨saved, a⟩, heq, heq', hw₁⟩ := tracks_installRelay (m.newRelay i ss).2 ss
    (m := (m.newRelay i ss).1) [] hw
  have heq'' : ((m.onEnv φ).newRelay i ss).1.installRelay ((m.onEnv φ).newRelay i ss).2 [] ss =
      (m₁.onEnv φ, saved, a) := heq'
  simp only [openBlock]
  rw [heq, heq'']
  cases a with
  | ok u => exact ⟨_, _, rfl, rfl, hw₁⟩
  | error f =>
    obtain ⟨m₂, b, heq₂, heq₂', hw₂⟩ := tracks_restore saved hw₁
    dsimp only
    rw [heq₂, heq₂']
    cases b with
    | ok u => exact ⟨_, _, rfl, rfl, hw₂⟩
    | error g => exact ⟨_, _, rfl, rfl, hw₂⟩

theorem tracks_leaveBlock {α : Type} (saved : Saved) (outcome : Except Failure α) :
    Tracks φ (m.leaveBlock saved outcome) ((m.onEnv φ).leaveBlock saved outcome) := by
  obtain ⟨m₁, a, heq, heq', hw₁⟩ := tracks_restore saved hw
  unfold leaveBlock
  rw [heq, heq']
  cases a with
  | ok u => exact ⟨_, _, rfl, rfl, hw₁⟩
  | error f => exact ⟨_, _, rfl, rfl, hw₁⟩

theorem tracks_runChild (i : Nat) : Tracks φ (m.runChild i) ((m.onEnv φ).runChild i) := by
  obtain ⟨m₁, a, heq, heq', hw₁⟩ := tracks_start hw i
  unfold runChild
  rw [heq, heq']
  cases a with
  | ok u => exact tracks_wait hw₁ i
  | error e => exact ⟨_, _, rfl, rfl, hw₁⟩

/-- Supervising a child whose environment is mapped is supervising the child, with the environment
mapped in the history. -/
theorem tracks_superviseChild (i : Nat) :
    Tracks φ (m.superviseChild i) ((m.onEnv φ).superviseChild i) := by
  obtain ⟨m₁, a, heq, heq', hw₁⟩ := tracks_openBlock hw i Signal.forwarded
  unfold superviseChild
  rw [heq, heq']
  cases a with
  | error f => exact ⟨_, _, rfl, rfl, hw₁⟩
  | ok saved =>
    obtain ⟨m₂, outcome, heq₂, heq₂', hw₂⟩ := tracks_runChild hw₁ i
    dsimp only
    rw [heq₂, heq₂']
    exact tracks_leaveBlock hw₂ saved outcome

/-! ### The end -/

/-- What keeps the streams from being flushed is the same on both sides. -/
theorem flushFaults_onEnv : m.world.flushFaults (m.onEnv φ).events = m.world.flushFaults m.events := by
  rw [events_onEnv, Surroundings.flushFaults, hw.flushFault, hw.flushFault, Surroundings.flushFaults]

theorem tracks_resetHandler (n : Int) (name : String) :
    Tracks φ (m.resetHandler n name) ((m.onEnv φ).resetHandler n name) := by
  obtain ⟨m₁, a, heq, heq', hw₁⟩ := tracks_install hw n .default
  unfold resetHandler
  rw [heq, heq']
  cases a with
  | ok h => exact ⟨_, _, rfl, rfl, hw₁⟩
  | error f =>
    dsimp only
    split
    · exact ⟨_, _, rfl, rfl, hw₁⟩
    · exact ⟨_, _, rfl, rfl, hw₁⟩

theorem tracks_raiseSignal (n : Int) (name : String) :
    Tracks φ (m.raiseSignal n name) ((m.onEnv φ).raiseSignal n name) := by
  obtain ⟨m₁, a, heq, heq', hw₁⟩ := tracks_killSelf hw n
  unfold raiseSignal
  rw [heq, heq']
  cases a with
  | ok h => exact ⟨_, _, rfl, rfl, hw₁⟩
  | error f =>
    dsimp only
    split
    · exact ⟨_, _, rfl, rfl, hw₁⟩
    · exact ⟨_, _, rfl, rfl, hw₁⟩

theorem tracks_endBySignal (n : Int) (name : String) :
    Tracks φ (m.endBySignal n name) ((m.onEnv φ).endBySignal n name) := by
  obtain ⟨m₁, a, heq, heq', hw₁⟩ := tracks_resetHandler hw n name
  unfold endBySignal
  rw [heq, heq']
  cases a with
  | error f => exact ⟨_, _, rfl, rfl, hw₁⟩
  | ok u =>
    obtain ⟨m₂, b, heq₂, heq₂', hw₂⟩ := tracks_raiseSignal hw₁ n name
    dsimp only
    rw [heq₂, heq₂']
    cases b with
    | ok u => exact ⟨_, _, rfl, rfl, hw₂⟩
    | error f => exact ⟨_, _, rfl, rfl, hw₂⟩

/-- So is ending as the child ended. -/
theorem tracks_endAs (t : Termination) : Tracks φ (m.endAs t) ((m.onEnv φ).endAs t) := by
  cases t with
  | exited c => exact ⟨_, _, rfl, rfl, hw⟩
  | signaled n name =>
    have hsame := flushFaults_onEnv hw
    cases hf : m.world.flushFaults m.events with
    | some f =>
      rw [endAs_of_flushFaults hf, endAs_of_flushFaults (hsame.trans hf)]
      exact ⟨_, _, rfl, rfl, hw⟩
    | none =>
      rw [endAs_of_flushed hf, endAs_of_flushed (hsame.trans hf)]
      exact tracks_endBySignal (m := m.note (raising name)) hw n name

end

end Machine

end VendorLaunch
