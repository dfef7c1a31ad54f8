import VendorLaunch.Proofs.Relay.Block
import VendorLaunch.Proofs.Relay.Steps

/-!
# What is started

Whatever calls fail, nothing but a start attempts to start a process, and no operation changes what
a child is to run (`Machine.Idles`). So the only process that supervising a child can attempt to
start is that child (`spawned_superviseChild`), and it does so unless the block cannot be opened
(`mem_superviseChild`). What it can fail with is a fault, or that the child cannot be started
(`superviseChild_eq_error`).
-/

namespace VendorLaunch.Machine

/-- `m'` is `m` after events none of which is an attempt to start a process, and with children that
are to run the same. -/
structure Idles (m m' : Machine) : Prop where
  events : ∃ es, m'.events = m.events ++ es ∧ ∀ argv env, .spawned argv env ∉ es
  argv : ∀ j, (m'.child j).argv = (m.child j).argv
  env : ∀ j, (m'.child j).env = (m.child j).env

theorem Idles.refl (m : Machine) : m.Idles m :=
  ⟨⟨[], (List.append_nil _).symm, fun _ _ h => by cases h⟩, fun _ => rfl, fun _ => rfl⟩

/-- Steps that may record anything but a start leave it at that. -/
theorem Steps.idles {m m' : Machine} (h : Steps (fun e => ∀ argv env, e ≠ .spawned argv env) m m') :
    m.Idles m' := by
  obtain ⟨es, hes, hall⟩ := h.events
  exact ⟨⟨es, hes, fun argv env hmem => hall _ hmem argv env rfl⟩, h.argv, h.env⟩

theorem idles_submitAll (m : Machine) (i : Nat) (ss : List Int) :
    m.Idles (m.submitAll i ss).1 :=
  (steps_submitAll (fun _ he => he) i ss m).idles

theorem idles_wait (m : Machine) (i : Nat) : m.Idles (m.wait i).1 :=
  (steps_wait (fun _ he => he) m i).idles

theorem idles_leaveBlock {α : Type} (m : Machine) (saved : Saved) (outcome : Except Failure α) :
    m.Idles (m.leaveBlock saved outcome).1 :=
  (steps_leaveBlock (fun _ he => he) m saved outcome).idles

theorem idles_endAs (m : Machine) (t : Termination) : m.Idles (m.endAs t).1 :=
  (steps_endAs (fun _ he => he) m t).idles

/-! ### Starting -/

variable {m m' : Machine} {i : Nat} {argv : List String} {env : Env}

theorem Idles.spawned (h : m.Idles m') (hmem : .spawned argv env ∈ m'.events) :
    .spawned argv env ∈ m.events := by
  obtain ⟨es, hes, hn⟩ := h.events
  rw [hes] at hmem
  rcases List.mem_append.mp hmem with hmem | hmem
  · exact hmem
  · exact absurd hmem (hn argv env)

/-- What has happened stays in the history. -/
theorem Idles.mem (h : m.Idles m') {e : Event} (he : e ∈ m.events) : e ∈ m'.events := by
  obtain ⟨es, hes, -⟩ := h.events
  rw [hes]
  exact List.mem_append_left es he

/-- A start is one attempt to start the child, after which nothing is started. -/
theorem idles_start (m : Machine) (i : Nat) :
    ∃ m₁ : Machine, m₁.events = m.events ++ [.spawned (m.child i).argv (m.child i).env] ∧
      m₁.Idles (m.start i).1 := by
  cases hf : (m.debug (m.child i).announcement).world.spawnFault
      (m.debug (m.child i).announcement).events with
  | some f =>
    refine ⟨(m.debug (m.child i).announcement).record
      (.spawned (m.child i).argv (m.child i).env), rfl, ?_⟩
    simp only [start, spawn, hf]
    exact Idles.refl _
  | none =>
    simp only [start, spawn, hf]
    split
    · next m₁ heq =>
      obtain rfl := congrArg Prod.fst heq
      exact ⟨_, rfl, idles_submitAll _ i _⟩
    · next m₁ f heq =>
      obtain rfl := congrArg Prod.fst heq
      exact ⟨_, rfl, idles_submitAll _ i _⟩

theorem mem_start (m : Machine) (i : Nat) :
    .spawned (m.child i).argv (m.child i).env ∈ (m.start i).1.events := by
  obtain ⟨m₁, he, hidles⟩ := m.idles_start i
  refine hidles.mem ?_
  rw [he]
  exact List.mem_append_right _ List.mem_cons_self

/-- Supervising a child attempts to start that child and no other. -/
theorem spawned_superviseChild (hmem : .spawned argv env ∈ (m.superviseChild i).1.events) :
    .spawned argv env ∈ m.events ∨ argv = (m.child i).argv ∧ env = (m.child i).env := by
  -- The steps may record anything, but starts of this child only.
  have h : Steps (fun e => ∀ argv env, e = .spawned argv env →
      argv = (m.child i).argv ∧ env = (m.child i).env) m (m.superviseChild i).1 :=
    steps_superviseChild (fun _ he argv env heq => absurd heq (he argv env))
      fun _ _ heq => by cases heq; exact ⟨rfl, rfl⟩
  obtain ⟨es, hes, hall⟩ := h.events
  rw [hes] at hmem
  rcases List.mem_append.mp hmem with hmem | hmem
  · exact Or.inl hmem
  · exact Or.inr (hall _ hmem argv env rfl)

theorem mem_runChild (m : Machine) (i : Nat) :
    .spawned (m.child i).argv (m.child i).env ∈ (m.runChild i).1.events := by
  have hmem := m.mem_start i
  unfold runChild
  split
  · next m₁ e heq =>
    rw [heq] at hmem
    exact hmem
  · next m₁ heq =>
    rw [heq] at hmem
    exact (m₁.idles_wait i).mem hmem

/-- When installations fail with refusals only, supervising a child attempts to start it. -/
theorem mem_superviseChild (hi : m.world.RefusesInstalls) (i : Nat) :
    .spawned (m.child i).argv (m.child i).env ∈ (m.superviseChild i).1.events := by
  obtain ⟨m₁, heq, hadd⟩ := openBlock_of_refusals hi i forwarded_nodup
  have hmem := m₁.mem_runChild i
  rw [hadd.child] at hmem
  simp only [superviseChild, heq]
  exact (idles_leaveBlock _ _ _).mem hmem

/-! ### Failures -/

variable {e : Failure}

theorem start_eq_error (h : (m.start i).2 = .error e) :
    (∃ f, e = .fault f) ∨ ∃ f, e = .spawn (m.child i).binary f := by
  simp only [start] at h
  split at h
  · next m₁ f heq =>
    have he := Except.error.inj h
    split at he
    · exact Or.inr ⟨f, he.symm⟩
    · exact Or.inl ⟨f, he.symm⟩
  · split at h
    · cases h
    · next m₁ f heq => exact Or.inl ⟨f, (Except.error.inj h).symm⟩

theorem wait_eq_error (h : (m.wait i).2 = .error e) : ∃ f, e = .fault f := by
  simp only [wait] at h
  split at h
  · exact ⟨_, (Except.error.inj h).symm⟩
  · split at h
    · next m₁ f heq => exact ⟨f, (Except.error.inj h).symm⟩
    · cases h

theorem leaveBlock_eq_error {α : Type} {saved : Saved} {outcome : Except Failure α}
    (h : (m.leaveBlock saved outcome).2 = .error e) :
    (∃ f, e = .fault f) ∨ outcome = .error e := by
  simp only [leaveBlock] at h
  split at h
  · exact Or.inr h
  · next m₁ f heq => exact Or.inl ⟨f, (Except.error.inj h).symm⟩

/-- Supervising a child fails with a fault, or because the child cannot be started. -/
theorem superviseChild_eq_error (h : (m.superviseChild i).2 = .error e) :
    (∃ f, e = .fault f) ∨ ∃ b f, e = .spawn b f := by
  simp only [superviseChild] at h
  split at h
  · next m₁ f heq => exact Or.inl ⟨f, (Except.error.inj h).symm⟩
  · next m₁ saved heq =>
    rcases leaveBlock_eq_error h with hfault | hrun
    · exact Or.inl hfault
    · simp only [runChild] at hrun
      split at hrun
      · next m₂ e' heq' =>
        obtain rfl := Except.error.inj hrun
        rcases start_eq_error (congrArg Prod.snd heq') with hfault | ⟨f, hspawn⟩
        · exact Or.inl hfault
        · exact Or.inr ⟨_, f, hspawn⟩
      · exact Or.inl (wait_eq_error hrun)

end VendorLaunch.Machine
