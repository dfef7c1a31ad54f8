import VendorLaunch.Proofs.History

/-!
# What opening a block tries and saves

A block tries its relay for one signal after the other, up to a fault that is no refusal
(`Surroundings.trials`). It saves the handler that each success has replaced (`Saved.add`); a signal
that succeeds a second time has the relay saved, for that is what was in force then. This is so for
any list of signals and whatever calls fail (`Machine.Tries`, `tries_installRelay`).
-/

namespace VendorLaunch

open Event (installedOn)

/-! ### Trying a relay -/

namespace Surroundings

variable {w : Surroundings} {relay : Handler}

/-- Installing the handler fails with a refusal or not at all. -/
def RefusesInstallsOf (w : Surroundings) (h : Handler) : Prop :=
  ∀ past s f, w.installFault past s h = some f → f.isSignalRefusal = true

theorem RefusesInstalls.of (hw : w.RefusesInstalls) (h : Handler) : w.RefusesInstallsOf h :=
  fun past s => hw past s h

/-- The events of opening a block: its relay is tried for one signal after the other, up to a fault
that is no refusal. -/
def trials (w : Surroundings) (relay : Handler) (past : List Event) : List Int → List Event
  | [] => []
  | s :: ss =>
    w.attempt past s relay ::
      if (w.installFault past s relay).all Fault.isSignalRefusal then
        trials w relay (past ++ [w.attempt past s relay]) ss
      else []

/-- Where every fault is a refusal each of the signals is tried. -/
theorem trials_of_refusals (hw : w.RefusesInstallsOf relay) (past : List Event) (ss : List Int) :
    w.trials relay past ss = w.attempts relay past ss := by
  induction ss generalizing past with
  | nil => rfl
  | cons s ss ih =>
    have hgoes : (w.installFault past s relay).all Fault.isSignalRefusal = true := by
      cases hf : w.installFault past s relay with
      | none => rfl
      | some f => exact hw past s f hf
    rw [trials, attempts, if_pos hgoes, ih]

/-- A trial installs nothing but the relay, and only for the signals that are tried. -/
theorem of_installed_mem_trials {past : List Event} {ss : List Int} {s : Int} {h : Handler}
    (hmem : .installed s h ∈ w.trials relay past ss) : h = relay ∧ s ∈ ss := by
  induction ss generalizing past with
  | nil => cases hmem
  | cons t ss ih =>
    rcases List.mem_cons.mp hmem with heq | hmem
    · rcases w.attempt_eq_or past t relay with he | he
      · rw [he] at heq
        obtain ⟨rfl, rfl⟩ := Event.installed.inj heq
        exact ⟨rfl, List.mem_cons_self⟩
      · rw [he] at heq
        cases heq
    · split at hmem
      · exact (ih hmem).imp_right (List.mem_cons_of_mem t)
      · cases hmem

/-- The signals whose trial succeeds stand in the order in which they were tried. -/
theorem installedOn_trials_sublist (w : Surroundings) (relay : Handler) (past : List Event)
    (ss : List Int) : (installedOn (w.trials relay past ss)).Sublist ss := by
  induction ss generalizing past with
  | nil => exact List.Sublist.refl _
  | cons s ss ih =>
    have hrest : (installedOn (if (w.installFault past s relay).all Fault.isSignalRefusal then
        w.trials relay (past ++ [w.attempt past s relay]) ss else [])).Sublist ss := by
      split
      · exact ih _
      · exact List.nil_sublist ss
    rw [trials, Event.installedOn_cons]
    rcases w.attempt_eq_or past s relay with he | he
    · rw [he] at hrest ⊢
      exact hrest.cons_cons s
    · rw [he] at hrest ⊢
      exact hrest.cons s

end Surroundings

/-! ### What is saved -/

/-- A key that a table does not bind is bound at its end. -/
theorem Table.insert_of_notMem {κ υ : Type} [DecidableEq κ] {k : κ} {t : Table κ υ}
    (hk : k ∉ Table.keys t) (v : υ) : Table.insert k v t = t ++ [(k, v)] := by
  induction t with
  | nil => rfl
  | cons b t ih =>
    simp only [Table.keys, List.map_cons, List.mem_cons, not_or] at hk
    simp only [Table.insert, if_neg (Ne.symm hk.1), ih hk.2, List.cons_append]

theorem Table.mem_keys_insert {κ υ : Type} [DecidableEq κ] {k j : κ} {v : υ} {t : Table κ υ} :
    j ∈ keys (insert k v t) ↔ j = k ∨ j ∈ keys t := by
  induction t with
  | nil => simp [insert, keys]
  | cons b t ih =>
    obtain ⟨k', v'⟩ := b
    by_cases hk : k' = k
    · subst hk
      rw [insert, if_pos rfl]
      simp [keys]
    · rw [insert, if_neg hk]
      simp only [keys, List.map_cons, List.mem_cons] at ih ⊢
      rw [ih, or_left_comm]

/-- A key is never bound twice. -/
theorem Table.nodup_keys_insert {κ υ : Type} [DecidableEq κ] {t : Table κ υ}
    (hn : (keys t).Nodup) (k : κ) (v : υ) : (keys (insert k v t)).Nodup := by
  induction t with
  | nil => exact List.pairwise_singleton _ k
  | cons b t ih =>
    obtain ⟨k', v'⟩ := b
    obtain ⟨hk', hn⟩ := List.nodup_cons.mp hn
    by_cases hk : k' = k
    · rw [insert, if_pos hk]
      exact List.nodup_cons.mpr ⟨hk', hn⟩
    · rw [insert, if_neg hk]
      refine List.nodup_cons.mpr ⟨fun hmem => ?_, ih hn⟩
      rcases mem_keys_insert.mp hmem with heq | hmem
      · exact hk heq
      · exact hk' hmem

namespace Saved

/-- The table after the handlers of some signals were saved one after the other. `before` were in
force at first, and the relay is in force for a signal from its turn on. -/
def add (relay : Handler) (before : Int → Handler) (saved : Saved) : List Int → Saved
  | [] => saved
  | s :: ss =>
    add relay (fun t => if t = s then relay else before t) (Table.insert s (before s) saved) ss

variable {relay : Handler}

/-- A signal that was saved once has its first handler in the table, and one that was saved again
has the relay. -/
theorem find?_add (before : Int → Handler) (saved : Saved) (ss : List Int) (s : Int) :
    Table.find? s (add relay before saved ss) =
      match ss.count s with
      | 0 => Table.find? s saved
      | 1 => some (before s)
      | _ => some relay := by
  induction ss generalizing before saved with
  | nil => rfl
  | cons t ss ih =>
    rw [add, ih]
    by_cases hts : s = t
    · subst hts
      rw [List.count_cons_self, Table.find?_insert_self, if_pos rfl]
      rcases ss.count s with _ | _ | n
      · rfl
      · rfl
      · rfl
    · rw [List.count_cons_of_ne (Ne.symm hts), Table.find?_insert_of_ne hts, if_neg hts]

/-- Signals without repeats are saved in their order, each with its handler. -/
theorem add_of_nodup {before : Int → Handler} {saved : Saved} {ss : List Int} (hn : ss.Nodup)
    (hk : ∀ s ∈ ss, s ∉ Table.keys saved) :
    add relay before saved ss = saved ++ ss.map fun s => (s, before s) := by
  induction ss generalizing before saved with
  | nil => exact (List.append_nil saved).symm
  | cons s ss ih =>
    obtain ⟨hs, hn⟩ := List.nodup_cons.mp hn
    have hne : ∀ t ∈ ss, t ≠ s := fun t ht hts => hs (hts ▸ ht)
    have hk' : ∀ t ∈ ss, t ∉ Table.keys (saved ++ [(s, before s)]) := by
      intro t ht hmem
      rw [Table.keys, List.map_append, List.mem_append] at hmem
      rcases hmem with hmem | hmem
      · exact hk t (List.mem_cons_of_mem s ht) hmem
      · exact hne t ht (List.mem_singleton.mp hmem)
    have hrest : (ss.map fun t => (t, if t = s then relay else before t)) =
        ss.map fun t => (t, before t) :=
      List.map_congr_left fun t ht => by rw [if_neg (hne t ht)]
    rw [add, Table.insert_of_notMem (hk s List.mem_cons_self), ih hn hk', hrest,
      List.append_assoc, List.map_cons, List.singleton_append]

theorem nodup_keys_add (before : Int → Handler) {saved : Saved} (hn : (Table.keys saved).Nodup)
    (ss : List Int) : (Table.keys (add relay before saved ss)).Nodup := by
  induction ss generalizing before saved with
  | nil => exact hn
  | cons s ss ih => exact ih _ (Table.nodup_keys_insert hn s (before s))

end Saved

/-! ### Opening -/

namespace Machine

variable {m : Machine} {i : Nat} {ss : List Int} {relay : Handler} {saved : Saved}

/-- What has become of trying a relay: the trials were made and what they replaced was saved, and
only a fault that is no refusal has ended them. -/
structure Tries (m : Machine) (relay : Handler) (saved : Saved) (ss : List Int)
    (r : Machine × Saved × Except Fault Unit) : Prop where
  adds : m.Adds (m.world.trials relay m.events ss) r.1
  saved : r.2.1 = saved.add relay m.handlerOf (installedOn (m.world.trials relay m.events ss))
  fault : ∀ f, r.2.2 = .error f →
    f.isSignalRefusal = false ∧ ∃ past s, m.world.installFault past s relay = some f

/-- A trial after which others are made, with what it has saved. -/
theorem Tries.cons {m₁ : Machine} {s : Int} {saved' : Saved}
    {r : Machine × Saved × Except Fault Unit}
    (hgoes : (m.world.installFault m.events s relay).all Fault.isSignalRefusal = true)
    (hadd : m.Adds [m.world.attempt m.events s relay] m₁)
    (hsaves : ∀ ts, saved'.add relay m₁.handlerOf ts =
      saved.add relay m.handlerOf ((m.world.attempt m.events s relay).installed?.toList ++ ts))
    (h : m₁.Tries relay saved' ss r) : m.Tries relay saved (s :: ss) r := by
  have htrials : m.world.trials relay m.events (s :: ss) = m.world.attempt m.events s relay ::
      m.world.trials relay (m.events ++ [m.world.attempt m.events s relay]) ss := by
    rw [Surroundings.trials, if_pos hgoes]
  obtain ⟨hadds, hsaved, hfault⟩ := h
  rw [hadd.world, hadd.events] at hadds hsaved
  rw [hadd.world] at hfault
  refine ⟨?_, ?_, hfault⟩
  · rw [htrials]
    exact hadd.trans hadds
  · rw [htrials, Event.installedOn_cons, hsaved]
    exact hsaves _

/-- A success: the handler that it replaced is saved, and the relay is in force from here on. -/
theorem Tries.of_installed {s : Int} {r : Machine × Saved × Except Fault Unit}
    (hf : m.world.installFault m.events s relay = none)
    (h : (m.install s relay).1.Tries relay (Table.insert s (m.handlerOf s) saved) ss r) :
    m.Tries relay saved (s :: ss) r := by
  have hforce : (m.install s relay).1.handlerOf =
      fun t => if t = s then relay else m.handlerOf t :=
    funext fun t => by rw [install_of_none hf, handlerOf_setHandler, handlerOf_record]
  refine h.cons (by rw [hf]; rfl) (m.adds_install s relay) fun ts => ?_
  rw [hforce, Surroundings.attempt_of_none hf]
  rfl

/-- A refusal: nothing is saved, and the next signal is tried. -/
theorem Tries.of_refused {s : Int} {f : Fault} {t : String}
    {r : Machine × Saved × Except Fault Unit}
    (hf : m.world.installFault m.events s relay = some f) (hrefused : f.isSignalRefusal = true)
    (h : ((m.install s relay).1.debug t).Tries relay saved ss r) :
    m.Tries relay saved (s :: ss) r := by
  have hadd : m.Adds [m.world.attempt m.events s relay] ((m.install s relay).1.debug t) :=
    (m.adds_install s relay).trans (adds_debug _ t)
  have hforce : ((m.install s relay).1.debug t).handlerOf = m.handlerOf := by
    rw [Surroundings.attempt_of_some hf] at hadd
    exact funext hadd.handlers
  refine h.cons (by rw [hf]; exact hrefused) hadd fun ts => ?_
  rw [hforce, Surroundings.attempt_of_some hf]
  rfl

/-- Any other fault: the trials end. -/
theorem tries_of_fault {s : Int} {f : Fault}
    (hf : m.world.installFault m.events s relay = some f) (hrefused : f.isSignalRefusal = false) :
    m.Tries relay saved (s :: ss) ((m.install s relay).1, saved, .error f) := by
  have hadd := m.adds_install s relay
  rw [Surroundings.attempt_of_some hf] at hadd
  have htrials : m.world.trials relay m.events (s :: ss) = [.installFailed s relay] := by
    rw [Surroundings.trials, Surroundings.attempt_of_some hf, hf, Option.all_some, hrefused]
    rfl
  refine ⟨?_, ?_, fun g hg => ?_⟩
  · rw [htrials]
    exact hadd
  · rw [htrials]
    rfl
  · obtain rfl := Except.error.inj hg
    exact ⟨hrefused, m.events, s, hf⟩

theorem tries_installRelay (relay : Handler) (ss : List Int) :
    ∀ (m : Machine) (saved : Saved), m.Tries relay saved ss (m.installRelay relay saved ss) := by
  induction ss with
  | nil => exact fun m saved => ⟨Adds.refl m, rfl, fun _ h => by cases h⟩
  | cons s ss ih =>
    intro m saved
    cases hf : m.world.installFault m.events s relay with
    | none =>
      refine Tries.of_installed hf ?_
      have hnext := ih (m.install s relay).1 (Table.insert s (m.handlerOf s) saved)
      simp only [install_of_none hf] at hnext
      simp only [installRelay, install_of_none hf]
      exact hnext
    | some f =>
      have hinstall := install_of_some hf
      cases hrefused : f.isSignalRefusal with
      | true =>
        refine Tries.of_refused (t := "Cannot forward " ++ toString s ++ ": " ++ f.text)
          hf hrefused ?_
        rw [installRelay, hinstall]
        simp only [hrefused, if_true]
        exact ih _ saved
      | false =>
        have hend : m.Tries relay saved (s :: ss) ((m.install s relay).1, saved, .error f) :=
          tries_of_fault hf hrefused
        rw [hinstall] at hend
        rw [installRelay, hinstall]
        simp only [hrefused, Bool.false_eq_true, if_false]
        exact hend

/-! ### Blocks -/

/-- The relay that the next block gets. -/
def nextRelay (m : Machine) (i : Nat) : Handler := .relay (m.relays + 1) i

/-- The bindings that a table gains when the handlers of some signals are saved. -/
def savedHandlers (m : Machine) (ss : List Int) : Saved := ss.map fun s => (s, m.handlerOf s)

theorem keys_savedHandlers (m : Machine) (ss : List Int) :
    Table.keys (m.savedHandlers ss) = ss := by
  rw [Table.keys, savedHandlers, List.map_map]
  exact List.map_id ss

theorem find?_savedHandlers (m : Machine) (ss : List Int) (s : Int) :
    Table.find? s (m.savedHandlers ss) = if s ∈ ss then some (m.handlerOf s) else none := by
  induction ss with
  | nil => rfl
  | cons t ss ih =>
    rw [savedHandlers, List.map_cons, Table.find?]
    by_cases hts : t = s
    · rw [if_pos hts, if_pos (hts ▸ List.mem_cons_self), hts]
    · rw [if_neg hts]
      refine ih.trans ?_
      simp only [List.mem_cons, Ne.symm hts, false_or]

/-- The trials of the block with the signals `ss` for child `i`, as far as `tried`. -/
def tryRelay (m : Machine) (i : Nat) (ss tried : List Int) : Machine × Saved × Except Fault Unit :=
  (m.newRelay i ss).1.installRelay (m.nextRelay i) [] tried

/-- The signals among `tried` for which the relay of the next block is installed. -/
def installedBy (m : Machine) (i : Nat) (tried : List Int) : List Int :=
  installedOn (m.world.trials (m.nextRelay i) m.events tried)

theorem tries_tryRelay (m : Machine) (i : Nat) (ss tried : List Int) :
    m.Tries (m.nextRelay i) [] tried (m.tryRelay i ss tried) := by
  have hadd : m.Adds [] (m.newRelay i ss).1 :=
    ⟨rfl, (List.append_nil _).symm, fun _ => rfl, rfl, rfl⟩
  obtain ⟨hadds, hsaved, hfault⟩ :=
    tries_installRelay (m.nextRelay i) tried (m.newRelay i ss).1 []
  exact ⟨hadd.trans hadds, hsaved, hfault⟩

theorem Tries.handlerOf {r : Machine × Saved × Except Fault Unit} (h : m.Tries relay saved ss r)
    (s : Int) : r.1.handlerOf s =
      if s ∈ installedOn (m.world.trials relay m.events ss) then relay else m.handlerOf s := by
  rw [h.adds.handlers s, Event.foldl_leaves]
  exact fun t g ht => (Surroundings.of_installed_mem_trials ht).1

theorem Tries.result_of_refusals {r : Machine × Saved × Except Fault Unit}
    (h : m.Tries relay saved ss r) (hw : m.world.RefusesInstallsOf relay) : r.2.2 = .ok () := by
  cases hr : r.2.2 with
  | ok u => rfl
  | error f =>
    obtain ⟨hrefused, past, s, hf⟩ := h.fault f hr
    rw [hw past s f hf] at hrefused
    cases hrefused

end Machine

end VendorLaunch
