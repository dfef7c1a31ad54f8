import VendorLaunch.Proofs.Relay.Opening

/-!
# What blocks put back

A block around any body (`Machine.inBlock`), for any list of signals and whatever calls fail.
Leaving puts the handlers that the opening has saved back in their order and ends at the first that
cannot be put back (`Machine.PutsBack`).

So a block without repeated successes restores what it has replaced, whatever becomes of its body
(`inBlock_restores`), but a handler that cannot be put back leaves those behind it where they are
(`inBlock_until_fault`).
-/

namespace VendorLaunch

open Event (installedOn)

/-! ### Putting handlers back -/

/-- The events of putting saved handlers back. -/
def Event.putBack (saved : Saved) : List Event := saved.map fun b => .installed b.1 b.2

/-- The event of a handler that cannot be put back, if there is one. -/
def Event.stuck (b : Option (Int × Handler)) : List Event :=
  b.toList.map fun b => .installFailed b.1 b.2

theorem Event.foldl_leaves_stuck (b : Option (Int × Handler)) (s : Int) (h : Handler) :
    (stuck b).foldl (leaves s) h = h := by
  cases b <;> rfl

/-- Handlers that are put back are in force after it. -/
theorem Event.foldl_leaves_putBack {saved : Saved} (hn : (Table.keys saved).Nodup) (s : Int)
    (h : Handler) :
    (putBack saved).foldl (leaves s) h = (Table.find? s saved).getD h := by
  induction saved generalizing h with
  | nil => rfl
  | cons b saved ih =>
    obtain ⟨t, g⟩ := b
    obtain ⟨ht, hn⟩ := List.nodup_cons.mp hn
    have hrest := ih hn (leaves s h (.installed t g))
    rw [putBack, List.map_cons, List.foldl_cons]
    refine hrest.trans ?_
    by_cases hts : t = s
    · have hnone : Table.find? s saved = none := by
        cases hfound : Table.find? s saved with
        | none => rfl
        | some g' =>
          exact absurd (List.mem_map_of_mem (f := Prod.fst) (Table.mem_of_find? hfound)) (hts ▸ ht)
      rw [hnone, Table.find?, if_pos hts, leaves, if_pos hts]
      rfl
    · rw [Table.find?, if_neg hts, leaves, if_neg hts]

namespace Machine

variable {m : Machine} {i : Nat} {ss : List Int}

/-- What has become of putting saved handlers back: `done` are in force again, and the first of
`rest` could not be put back. -/
structure PutsBack (m : Machine) (done rest : Saved) (r : Machine × Except Fault Unit) : Prop where
  adds : m.Adds (Event.putBack done ++ Event.stuck rest.head?) r.1
  result : (rest = [] ∧ r.2 = .ok ()) ∨ ∃ b ∈ rest.head?, ∃ f,
    m.world.installFault (m.events ++ Event.putBack done) b.1 b.2 = some f ∧ r.2 = .error f

/-- Saved handlers are put back in their order, up to the first that cannot be. -/
theorem exists_putsBack (saved : Saved) :
    ∀ m : Machine, ∃ done rest, saved = done ++ rest ∧ m.PutsBack done rest (m.restore saved) := by
  induction saved with
  | nil => exact fun m => ⟨[], [], rfl, Adds.refl m, Or.inl ⟨rfl, rfl⟩⟩
  | cons b saved ih =>
    intro m
    obtain ⟨s, h⟩ := b
    have hadd := m.adds_install s h
    cases hf : m.world.installFault m.events s h with
    | none =>
      rw [Surroundings.attempt_of_none hf] at hadd
      obtain ⟨done, rest, rfl, hadds, hresult⟩ := ih (m.install s h).1
      rw [hadd.world, hadd.events, List.append_assoc] at hresult
      have heq : m.restore ((s, h) :: (done ++ rest)) =
          (m.install s h).1.restore (done ++ rest) := by
        simp only [restore, install_of_none hf]
      exact ⟨(s, h) :: done, rest, rfl, heq ▸ hadd.trans hadds, heq ▸ hresult⟩
    | some f =>
      rw [Surroundings.attempt_of_some hf] at hadd
      have heq : m.restore ((s, h) :: saved) = ((m.install s h).1, .error f) := by
        simp only [restore, install_of_some hf]
      refine ⟨[], (s, h) :: saved, rfl, heq ▸ hadd, Or.inr ⟨(s, h), rfl, f, ?_, heq ▸ rfl⟩⟩
      rw [Event.putBack, List.map_nil, List.append_nil]
      exact hf

theorem PutsBack.handlerOf {done rest : Saved} {r : Machine × Except Fault Unit}
    (h : m.PutsBack done rest r) (hn : (Table.keys done).Nodup) (s : Int) :
    r.1.handlerOf s = (Table.find? s done).getD (m.handlerOf s) := by
  rw [h.adds.handlers s, List.foldl_append, Event.foldl_leaves_stuck,
    Event.foldl_leaves_putBack hn]

/-- When every handler can be put back, all of them are. -/
theorem putsBack_of_ok {saved : Saved} (h : (m.restore saved).2 = .ok ()) :
    m.PutsBack saved [] (m.restore saved) := by
  obtain ⟨done, rest, rfl, hback⟩ := exists_putsBack saved m
  rcases hback.result with ⟨rfl, -⟩ | ⟨b, -, f, -, hf⟩
  · rwa [List.append_nil] at hback ⊢
  · rw [hf] at h
    cases h

/-- Putting two tables back is putting back one after the other. -/
theorem restore_append (saved later : Saved) :
    ∀ m : Machine, m.restore (saved ++ later) = match m.restore saved with
      | (m₁, .ok ()) => m₁.restore later
      | (m₁, .error f) => (m₁, .error f) := by
  induction saved with
  | nil => exact fun _ => rfl
  | cons b saved ih =>
    intro m
    obtain ⟨s, h⟩ := b
    rw [List.cons_append, restore, restore]
    rcases m.install s h with ⟨m₁, f | g⟩
    · rfl
    · exact ih m₁

/-- When every handler of a table can be put back, so can those that come first. -/
theorem restore_ok_of_append {saved later : Saved} (h : (m.restore (saved ++ later)).2 = .ok ()) :
    (m.restore saved).2 = .ok () := by
  rw [restore_append] at h
  rcases hr : m.restore saved with ⟨m₁, f | ⟨⟩⟩
  · rw [hr] at h
    cases h
  · rfl

/-! ### Blocks -/

/-- Leaving a block puts its handlers back; a fault of that outweighs the outcome of the body. -/
theorem leaveBlock_eq {α : Type} (m : Machine) (saved : Saved) (outcome : Except Failure α) :
    m.leaveBlock saved outcome = ((m.restore saved).1, match (m.restore saved).2 with
      | .ok () => outcome
      | .error f => .error (.fault f)) := by
  unfold leaveBlock
  rcases m.restore saved with ⟨m₁, f | ⟨⟩⟩
  · rfl
  · rfl

section

variable {α : Type} {body : Machine → Machine × Except Failure α}

/-- A block around a body: it is opened, the body runs, and it is left with the body's outcome. -/
def inBlock (m : Machine) (i : Nat) (ss : List Int) (body : Machine → Machine × Except Failure α) :
    Machine × Except Failure α :=
  match m.openBlock i ss with
  | (m₁, .error f) => (m₁, .error (.fault f))
  | (m₁, .ok saved) =>
    let (m₂, outcome) := body m₁
    m₂.leaveBlock saved outcome

/-- A child is supervised in such a block. -/
theorem superviseChild_eq_inBlock (m : Machine) (i : Nat) :
    m.superviseChild i = m.inBlock i Signal.forwarded fun m₁ => m₁.runChild i := rfl

/-- The machine after the trials of a block. -/
def opened (m : Machine) (i : Nat) (ss : List Int) : Machine := (m.tryRelay i ss ss).1

/-- The handlers that a block has saved. -/
def savedBy (m : Machine) (i : Nat) (ss : List Int) : Saved := (m.tryRelay i ss ss).2.1

/-- Where a block stands before anything is put back: what its body has come to, or the fault that
ended the trials. -/
def upToLeaving (m : Machine) (i : Nat) (ss : List Int)
    (body : Machine → Machine × Except Failure α) : Machine × Except Failure α :=
  match (m.tryRelay i ss ss).2.2 with
  | .ok () => body (m.opened i ss)
  | .error f => (m.opened i ss, .error (.fault f))

/-- A block that cannot be opened is left like any other. -/
theorem inBlock_eq_leaveBlock (m : Machine) (i : Nat) (ss : List Int)
    (body : Machine → Machine × Except Failure α) :
    m.inBlock i ss body = (m.upToLeaving i ss body).1.leaveBlock (m.savedBy i ss)
      (m.upToLeaving i ss body).2 := by
  have htry : (m.newRelay i ss).1.installRelay (m.newRelay i ss).2 [] ss = m.tryRelay i ss ss := rfl
  simp only [inBlock, openBlock, htry, upToLeaving, opened, savedBy]
  rcases m.tryRelay i ss ss with ⟨m₁, saved, f | ⟨⟩⟩
  · simp only [leaveBlock]
    rcases m₁.restore saved with ⟨m₂, g | ⟨⟩⟩
    · rfl
    · rfl
  · rfl

theorem find?_savedBy (m : Machine) (i : Nat) (ss : List Int) (s : Int) :
    Table.find? s (m.savedBy i ss) =
      match (m.installedBy i ss).count s with
      | 0 => none
      | 1 => some (m.handlerOf s)
      | _ => some (m.nextRelay i) := by
  rw [savedBy, (m.tries_tryRelay i ss ss).saved, Saved.find?_add]
  rfl

theorem nodup_keys_savedBy (m : Machine) (i : Nat) (ss : List Int) :
    (Table.keys (m.savedBy i ss)).Nodup := by
  rw [savedBy, (m.tries_tryRelay i ss ss).saved]
  have hnone : (Table.keys ([] : Saved)).Nodup := List.nodup_nil
  exact Saved.nodup_keys_add _ hnone _

/-- Signals without repeats have their handlers saved in the order of the list. -/
theorem savedBy_of_nodup (m : Machine) (i : Nat) (hn : ss.Nodup) :
    m.savedBy i ss = m.savedHandlers (m.installedBy i ss) := by
  have hinstalled : (m.installedBy i ss).Nodup :=
    (Surroundings.installedOn_trials_sublist _ _ _ _).nodup hn
  rw [savedBy, (m.tries_tryRelay i ss ss).saved]
  exact (Saved.add_of_nodup hinstalled fun _ _ h => by cases h).trans (List.nil_append _)

/-- When its trials end in refusals only, a block comes to its body. -/
theorem upToLeaving_of_refusals (hw : m.world.RefusesInstallsOf (m.nextRelay i)) :
    m.upToLeaving i ss body = body (m.opened i ss) := by
  rw [upToLeaving, (m.tries_tryRelay i ss ss).result_of_refusals hw]

/-- When every saved handler can be put back, the outcome of the body is that of the block, and the
saved handlers are in force. -/
theorem inBlock_of_restored
    (hr : ((m.upToLeaving i ss body).1.restore (m.savedBy i ss)).2 = .ok ()) :
    (m.inBlock i ss body).2 = (m.upToLeaving i ss body).2 ∧
      ∀ s, (m.inBlock i ss body).1.handlerOf s =
        (Table.find? s (m.savedBy i ss)).getD ((m.upToLeaving i ss body).1.handlerOf s) := by
  rw [inBlock_eq_leaveBlock, leaveBlock_eq, hr]
  exact ⟨rfl, (putsBack_of_ok hr).handlerOf (m.nodup_keys_savedBy i ss)⟩

/-! ### Every handler can be put back -/

/-- After a block whose saved handlers can be put back, every signal has the handler that it had
before, but for those on which the relay was installed more than once: they keep the relay. This is
so however the body ends and whatever it does to the handlers of the block. -/
theorem inBlock_restores (hw : m.world.RefusesInstallsOf (m.nextRelay i))
    (hr : ((body (m.opened i ss)).1.restore (m.savedBy i ss)).2 = .ok ())
    (hbody : ∀ s ∉ m.installedBy i ss, (body (m.opened i ss)).1.handlerOf s = m.handlerOf s) :
    (m.inBlock i ss body).2 = (body (m.opened i ss)).2 ∧
      ∀ s, (m.inBlock i ss body).1.handlerOf s =
        if (m.installedBy i ss).count s ≤ 1 then m.handlerOf s else m.nextRelay i := by
  have hbegun : m.upToLeaving i ss body = body (m.opened i ss) := upToLeaving_of_refusals hw
  rw [← hbegun] at hr
  obtain ⟨hresult, hforce⟩ := inBlock_of_restored hr
  rw [hbegun] at hresult hforce
  refine ⟨hresult, fun s => ?_⟩
  rw [hforce s, find?_savedBy]
  match hcount : (m.installedBy i ss).count s with
  | 0 => exact hbody s (List.count_eq_zero.mp hcount)
  | 1 => rfl
  | n + 2 => rw [if_neg (by omega)]; rfl

/-- A system on which the hang-up signal can be given no handler but the default one. -/
def stubbornWorld : Surroundings :=
  { World.surroundings {} with
    installFault := fun _ s h =>
      if s = 1 ∧ h ≠ .default then some (.value "signal only works in main thread") else none }

/-- A machine on which a relay is in force for interrupts. -/
def relayedMachine : Machine :=
  { world := stubbornWorld, handlers := [(2, .relay 7 3)], relays := 7 }

/-- A body that lets interrupts end the process again and then fails. -/
def failingBody (m : Machine) : Machine × Except Failure Unit :=
  ((m.install 2 .default).1, .error (.fault notStarted))

theorem inBlock_restores_relayedMachine :
    (relayedMachine.inBlock 0 [2, 15, 1, 15] failingBody).2 = .error (.fault notStarted) ∧
      (relayedMachine.inBlock 0 [2, 15, 1, 15] failingBody).1.handlerOf 2 = .relay 7 3 ∧
      (relayedMachine.inBlock 0 [2, 15, 1, 15] failingBody).1.handlerOf 15 = .relay 8 0 ∧
      (relayedMachine.inBlock 0 [2, 15, 1, 15] failingBody).1.handlerOf 1 = .default := by
  have hw : relayedMachine.world.RefusesInstallsOf (relayedMachine.nextRelay 0) := by
    intro past s f hf
    simp only [relayedMachine, stubbornWorld] at hf
    split at hf
    · obtain rfl := Option.some.inj hf
      decide
    · cases hf
  have hinstalled : relayedMachine.installedBy 0 [2, 15, 1, 15] = [2, 15, 15] := by decide
  have hbody : ∀ s ∉ relayedMachine.installedBy 0 [2, 15, 1, 15],
      (failingBody (relayedMachine.opened 0 [2, 15, 1, 15])).1.handlerOf s =
        relayedMachine.handlerOf s := by
    intro s hs
    have hne : s ≠ 2 := fun h => hs (hinstalled ▸ h ▸ List.mem_cons_self)
    have hsame := (relayedMachine.tries_tryRelay 0 [2, 15, 1, 15] [2, 15, 1, 15]).handlerOf s
    rw [failingBody, install_of_none rfl, handlerOf_setHandler, if_neg hne, handlerOf_record]
    exact hsame.trans (if_neg hs)
  obtain ⟨hresult, hforce⟩ := inBlock_restores hw rfl hbody
  rw [hforce, hforce, hforce, hinstalled]
  exact ⟨hresult, by decide, by decide, by decide⟩

/-- A block that is given a signal twice does not restore its handler: the relay stays. -/
theorem not_forall_inBlock_restores :
    ¬∀ (m : Machine) (i : Nat) (ss : List Int) (body : Machine → Machine × Except Failure Unit),
      m.world.RefusesInstallsOf (m.nextRelay i) →
      ((body (m.opened i ss)).1.restore (m.savedBy i ss)).2 = .ok () →
      (∀ s ∉ m.installedBy i ss, (body (m.opened i ss)).1.handlerOf s = m.handlerOf s) →
      ∀ s, (m.inBlock i ss body).1.handlerOf s = m.handlerOf s := by
  intro hall
  let m := (World.surroundings {}).boot
  have hbody : ∀ s ∉ m.installedBy 0 [2, 2], (m.opened 0 [2, 2]).handlerOf s = m.handlerOf s :=
    fun s hs => ((m.tries_tryRelay 0 [2, 2] [2, 2]).handlerOf s).trans (if_neg hs)
  have hforce := hall m 0 [2, 2] (fun m₁ => (m₁, .ok ())) (fun _ _ _ hf => by cases hf) rfl
    hbody 2
  exact absurd hforce (by decide)

/-! ### Handlers that cannot be put back -/

/-- Whatever calls fail, a block without repeated signals puts back the handlers that it has
replaced, in their order, up to the first that cannot be put back. Those before it are in force
again. It and those behind it stay as the body has left them, for no other attempt is made, and its
fault is the outcome of the block. -/
theorem inBlock_until_fault (m : Machine) (i : Nat) (hn : ss.Nodup)
    (body : Machine → Machine × Except Failure α) :
    ∃ done rest, m.installedBy i ss = done ++ rest ∧
      (m.inBlock i ss body).1.events = (m.upToLeaving i ss body).1.events ++
        (Event.putBack (m.savedHandlers done) ++ Event.stuck (m.savedHandlers rest).head?) ∧
      (∀ s, (m.inBlock i ss body).1.handlerOf s =
        if s ∈ done then m.handlerOf s else (m.upToLeaving i ss body).1.handlerOf s) ∧
      ((rest = [] ∧ (m.inBlock i ss body).2 = (m.upToLeaving i ss body).2) ∨
        ∃ s ∈ rest.head?, ∃ f,
          (m.upToLeaving i ss body).1.world.installFault ((m.upToLeaving i ss body).1.events ++
            Event.putBack (m.savedHandlers done)) s (m.handlerOf s) = some f ∧
          (m.inBlock i ss body).2 = .error (.fault f)) := by
  have hinstalled : (m.installedBy i ss).Nodup :=
    (Surroundings.installedOn_trials_sublist _ _ _ _).nodup hn
  obtain ⟨before, after, hsplit, hback⟩ :=
    exists_putsBack (m.savedBy i ss) (m.upToLeaving i ss body).1
  -- what is put back and what is not are the handlers of signals that follow each other
  rw [savedBy_of_nodup m i hn, savedHandlers, List.map_eq_append_iff] at hsplit
  obtain ⟨done, rest, heq, rfl, rfl⟩ := hsplit
  have hdone : (Table.keys (m.savedHandlers done)).Nodup := by
    rw [heq] at hinstalled
    rw [keys_savedHandlers]
    exact (List.nodup_append.mp hinstalled).1
  refine ⟨done, rest, heq, ?_, fun s => ?_, ?_⟩
  · rw [inBlock_eq_leaveBlock, leaveBlock_eq, hback.adds.events]
    rfl
  · rw [inBlock_eq_leaveBlock, leaveBlock_eq]
    refine (hback.handlerOf hdone s).trans ?_
    rw [← savedHandlers, find?_savedHandlers]
    split
    · rfl
    · rfl
  · rw [inBlock_eq_leaveBlock, leaveBlock_eq]
    rcases hback.result with ⟨hnil, hok⟩ | ⟨b, hb, f, hf, herror⟩
    · rw [hok]
      exact Or.inl ⟨List.map_eq_nil_iff.mp hnil, rfl⟩
    · rw [List.head?_map, Option.mem_def, Option.map_eq_some_iff] at hb
      obtain ⟨s, hs, rfl⟩ := hb
      rw [herror]
      exact Or.inr ⟨s, hs, f, hf, rfl⟩

/-- A system on which the handler of one signal cannot be set a second time. -/
def brokenWorld : World := { installFaults := [(15, ⟨.system 22 "Invalid argument" none, 1⟩)] }

/-- The handler of interrupts is put back. That of the terminating signal cannot be, and so that of
the hang-up signal is not either. -/
theorem inBlock_until_fault_brokenWorld :
    ∃ done rest, [2, 15, 1] = done ++ rest ∧ 2 ∈ done ∧ 15 ∉ done ∧ 1 ∉ done ∧
      (brokenWorld.surroundings.boot.inBlock 0 [2, 15, 1] fun m => (m, .ok ())).1.events =
        [.installed 2 (.relay 1 0), .installed 15 (.relay 1 0), .installed 1 (.relay 1 0)] ++
          (Event.putBack (brokenWorld.surroundings.boot.savedHandlers done) ++
            Event.stuck (brokenWorld.surroundings.boot.savedHandlers rest).head?) := by
  have hn : [(2 : Int), 15, 1].Nodup := by decide
  obtain ⟨done, rest, hsplit, hevents, hforce, -⟩ := inBlock_until_fault
    brokenWorld.surroundings.boot 0 hn fun m => (m, (.ok () : Except Failure Unit))
  refine ⟨done, rest, hsplit, ?_, ?_, ?_, hevents⟩
  · refine Decidable.byContradiction fun h => ?_
    exact absurd ((hforce 2).trans (if_neg h)) (by decide)
  · intro h
    exact absurd ((hforce 15).trans (if_pos h)) (by decide)
  · intro h
    exact absurd ((hforce 1).trans (if_pos h)) (by decide)

/-- When the handler of one signal cannot be put back, those of the signals behind it are not tried:
their relay stays though nothing keeps it from being replaced. -/
theorem not_forall_inBlock_tries_all :
    ¬∀ (m : Machine) (i : Nat) (ss : List Int) (body : Machine → Machine × Except Failure Unit)
      (es : List Event), ss.Nodup →
      (m.inBlock i ss body).1.events = (m.upToLeaving i ss body).1.events ++ es →
      ∀ s ∈ m.installedBy i ss,
        (.installed s (m.handlerOf s) ∈ es ∨ .installFailed s (m.handlerOf s) ∈ es) ∧
        (.installFailed s (m.handlerOf s) ∉ es →
          (m.inBlock i ss body).1.handlerOf s = m.handlerOf s) := by
  intro hall
  have h := hall brokenWorld.surroundings.boot 0 [2, 15, 1] (fun m => (m, .ok ()))
    [.installed 2 .default, .installFailed 15 .default] (by decide) rfl 1 (by decide)
  exact absurd h (by decide)

end

end Machine

end VendorLaunch
