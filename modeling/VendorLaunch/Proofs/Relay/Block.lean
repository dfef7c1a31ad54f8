import VendorLaunch.Proofs.Relay.Opening

/-!
# Relay blocks

What opening and leaving a relay block do to the history, the handlers and the saved table, for
surroundings that fail with refusals only. Opening adds exactly one attempt for each signal and
saves the handlers that the successful ones replaced (`openBlock_of_refusals`). Leaving puts the
saved handlers back one after the other (`restore_of_releases`).

The signals of a block are taken to be distinct.
-/

namespace VendorLaunch

namespace Machine

open Event (installedOn)

/-! ### Opening -/

/-- Each signal is tried once, whatever became of those before it, and the handlers of those whose
attempt succeeded are saved in the order of the signals. -/
theorem installRelay_of_refusals {relay : Handler} {m : Machine} {ss : List Int}
    (hw : m.world.RefusesInstallsOf relay) (hn : ss.Nodup) :
    ∃ m', m.installRelay relay [] ss =
        (m', m.savedHandlers (installedOn (m.world.attempts relay m.events ss)), .ok ()) ∧
      m.Adds (m.world.attempts relay m.events ss) m' := by
  have htries := tries_installRelay relay ss m []
  have hok := htries.result_of_refusals hw
  obtain ⟨hadds, hsaved, -⟩ := htries
  rw [Surroundings.trials_of_refusals hw] at hadds hsaved
  have hinstalled : (installedOn (m.world.attempts relay m.events ss)).Nodup :=
    (Surroundings.installedOn_attempts_sublist _ _ _ _).nodup hn
  refine ⟨_, Prod.ext rfl (Prod.ext ?_ hok), hadds⟩
  rw [hsaved]
  exact (Saved.add_of_nodup hinstalled fun _ _ h => by cases h).trans (List.nil_append _)

/-- After the attempts the relay is in force for the signals whose attempt succeeded. -/
theorem Adds.handlerOf_attempts {m m' : Machine} {relay : Handler} {past : List Event}
    {ss : List Int} (h : m.Adds (m.world.attempts relay past ss) m') (s : Int) :
    m'.handlerOf s =
      if s ∈ installedOn (m.world.attempts relay past ss) then relay else m.handlerOf s := by
  rw [h.handlers s, Event.foldl_leaves]
  intro t g ht
  obtain ⟨_, -, he | he⟩ := Surroundings.eq_of_mem_attempts ht
  · exact (Event.installed.inj he).2
  · cases he

theorem forwarded_nodup : Signal.forwarded.Nodup := by decide

/-- Opening a block is one attempt for each signal with a relay that is new. -/
theorem openBlock_of_refusals {m : Machine} (hw : m.world.RefusesInstalls) (i : Nat)
    {ss : List Int} (hn : ss.Nodup) :
    ∃ m', m.openBlock i ss =
        (m', .ok (m.savedHandlers (installedOn (m.world.attempts (m.nextRelay i) m.events ss)))) ∧
      m.Adds (m.world.attempts (m.nextRelay i) m.events ss) m' := by
  have hadd : m.Adds [] (m.newRelay i ss).1 :=
    ⟨rfl, (List.append_nil _).symm, fun _ => rfl, rfl, rfl⟩
  obtain ⟨m', heq, hadd'⟩ :=
    installRelay_of_refusals (m := (m.newRelay i ss).1) (hw.of (m.nextRelay i)) hn
  refine ⟨m', ?_, hadd.trans hadd'⟩
  have hrelay : (m.newRelay i ss).2 = m.nextRelay i := rfl
  simp only [openBlock, hrelay, heq]
  rfl

/-! ### Leaving -/

/-- When the default handler can be put back for the signals, restoring does so in their order. -/
theorem restore_of_releases {ss : List Int} :
    ∀ {m : Machine}, m.world.ReleasesAfter m.events ss →
      ∃ m', m.restore (ss.map fun s => (s, .default)) = (m', .ok ()) ∧
        m.Adds (Event.released ss) m' := by
  induction ss with
  | nil => exact fun _ => ⟨_, rfl, Adds.refl _⟩
  | cons s ss ih =>
    intro m hw
    obtain ⟨hf, hw⟩ := hw
    have hadd := m.adds_install s .default
    rw [Surroundings.attempt, hf] at hadd
    rw [← hadd.world] at hw
    obtain ⟨m', heq, hadd'⟩ := ih (m := (m.install s .default).1) (by rw [hadd.events]; exact hw)
    refine ⟨m', ?_, hadd.trans hadd'⟩
    simp only [List.map_cons, restore, install_of_none hf] at heq ⊢
    exact heq

/-- Handlers that were the default one are put back, whatever the outcome of the block. -/
theorem leaveBlock_of_releases {α : Type} {m : Machine} {ss : List Int}
    (hw : m.world.ReleasesAfter m.events ss) (outcome : Except Failure α) :
    ∃ m', m.leaveBlock (ss.map fun s => (s, .default)) outcome = (m', outcome) ∧
      m.Adds (Event.released ss) m' := by
  obtain ⟨m', heq, hadd⟩ := restore_of_releases hw
  exact ⟨m', by simp only [leaveBlock, heq], hadd⟩

end Machine

end VendorLaunch
