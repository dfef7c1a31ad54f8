import VendorLaunch.Proofs.History

/-!
# What blocks leave alone

Opening and leaving relay blocks, whatever calls fail and whatever the faults are. Nothing is sent
and nothing is started by it, no process and no child is touched, and every handler that is
installed is either the relay of the block or one that the block has replaced. So when these
handlers have some property, all handlers go on to have it. This is `Machine.Tends`, and
`tends_openBlock` and `tends_leaveBlock` say it of the two operations.
-/

namespace VendorLaunch

/-- A binding that an insertion leaves is the new one in its value, or an old one. -/
theorem Table.mem_insert {κ υ : Type} [DecidableEq κ] {k : κ} {v : υ} {t : Table κ υ} {b : κ × υ}
    (hb : b ∈ Table.insert k v t) : b.2 = v ∨ b ∈ t := by
  induction t with
  | nil =>
    obtain rfl := List.mem_singleton.mp hb
    exact Or.inl rfl
  | cons c t ih =>
    obtain ⟨k', v'⟩ := c
    by_cases hk : k' = k
    · rw [Table.insert, if_pos hk] at hb
      rcases List.mem_cons.mp hb with rfl | hb
      · exact Or.inl rfl
      · exact Or.inr (List.mem_cons_of_mem _ hb)
    · rw [Table.insert, if_neg hk] at hb
      rcases List.mem_cons.mp hb with rfl | hb
      · exact Or.inr List.mem_cons_self
      · exact (ih hb).imp_right (List.mem_cons_of_mem _)

/-- An event that neither sends nor starts anything, and installs only handlers with a property. -/
def Event.Calm (P : Handler → Prop) : Event → Prop
  | installed _ h => P h
  | spawned _ _ | sent _ _ => False
  | _ => True

/-- The saved handlers have a property. -/
def Saved.All (P : Handler → Prop) (saved : Saved) : Prop := ∀ b ∈ saved, P b.2

theorem Saved.All.insert {P : Handler → Prop} {saved : Saved} (hsaved : saved.All P) {h : Handler}
    (hh : P h) (s : Int) : Saved.All P (Table.insert s h saved) := by
  intro b hb
  rcases Table.mem_insert hb with rfl | hb
  · exact hh
  · exact hsaved b hb

namespace Machine

variable {P : Handler → Prop} {m m' : Machine}

/-- `m'` is `m` after calm events. -/
def Tends (P : Handler → Prop) (m m' : Machine) : Prop := ∃ es, m.Adds es m' ∧ ∀ e ∈ es, e.Calm P

theorem Tends.trans {m'' : Machine} (h : Tends P m m') (h' : Tends P m' m'') : Tends P m m'' := by
  obtain ⟨es, hadd, hcalm⟩ := h
  obtain ⟨es', hadd', hcalm'⟩ := h'
  refine ⟨es ++ es', hadd.trans hadd', fun e hmem => ?_⟩
  rcases List.mem_append.mp hmem with hmem | hmem
  · exact hcalm e hmem
  · exact hcalm' e hmem

theorem Adds.tends_nil (h : m.Adds [] m') : Tends P m m' := ⟨[], h, fun _ hmem => by cases hmem⟩

theorem Adds.tends_singleton {e : Event} (h : m.Adds [e] m') (he : e.Calm P) : Tends P m m' :=
  ⟨[e], h, fun _ hmem => List.mem_singleton.mp hmem ▸ he⟩

/-- Handlers with the property are replaced by handlers with the property. -/
theorem Tends.handlers (h : Tends P m m') (hm : ∀ s, P (m.handlerOf s)) (s : Int) :
    P (m'.handlerOf s) := by
  obtain ⟨es, hadd, hcalm⟩ := h
  rw [hadd.handlers s]
  have hs := hm s
  generalize m.handlerOf s = g at hs
  clear hadd
  induction es generalizing g with
  | nil => exact hs
  | cons e es ih =>
    rw [List.foldl_cons]
    refine ih (fun e' he' => hcalm e' (List.mem_cons_of_mem _ he')) _ ?_
    have he := hcalm e List.mem_cons_self
    cases e with
    | installed t h =>
      by_cases hts : t = s
      · simpa [Event.leaves, Event.Calm, hts] using he
      · simpa [Event.leaves, hts] using hs
    | _ => exact hs

/-- Calm events send nothing. -/
theorem sends_of_calm {es : List Event} (h : ∀ e ∈ es, e.Calm P) : Event.sends es = [] := by
  refine List.filterMap_eq_nil_iff.mpr fun e he => ?_
  have hcalm := h e he
  cases e with
  | sent p s => exact hcalm.elim
  | _ => rfl

/-! ### Installing -/

theorem tends_install {h : Handler} (hh : P h) (m : Machine) (s : Int) :
    Tends P m (m.install s h).1 := by
  refine (m.adds_install s h).tends_singleton ?_
  rcases m.world.attempt_eq_or m.events s h with he | he
  · rw [he]
    exact hh
  · rw [he]
    trivial

/-- The handler that a call gives is the one that was in force. -/
theorem install_eq_ok {s : Int} {h g : Handler} (hok : (m.install s h).2 = .ok g) :
    g = m.handlerOf s := by
  cases hf : m.world.installFault m.events s h with
  | none =>
    rw [install_of_none hf] at hok
    exact (Except.ok.inj hok).symm
  | some f =>
    rw [install_of_some hf] at hok
    cases hok

theorem tends_installRelay {relay : Handler} (hr : P relay) (ss : List Int) :
    ∀ {m : Machine} (saved : Saved), (∀ s, P (m.handlerOf s)) → saved.All P →
      Tends P m (m.installRelay relay saved ss).1 ∧
        (m.installRelay relay saved ss).2.1.All P := by
  induction ss with
  | nil => exact fun _ _ hsaved => ⟨(Adds.refl _).tends_nil, hsaved⟩
  | cons s ss ih =>
    intro m saved hm hsaved
    have htends := tends_install hr m s
    rw [installRelay]
    split
    · next m₁ g heq =>
      rw [heq] at htends
      have hg : g = m.handlerOf s := install_eq_ok (congrArg Prod.snd heq)
      obtain ⟨htends', hsaved'⟩ := ih _ (htends.handlers hm) (hsaved.insert (hg ▸ hm s) s)
      exact ⟨htends.trans htends', hsaved'⟩
    · next m₁ f heq =>
      rw [heq] at htends
      split
      · have htends₁ : Tends P m (m₁.debug ("Cannot forward " ++ toString s ++ ": " ++ f.text)) :=
          htends.trans (m₁.adds_debug _).tends_nil
        obtain ⟨htends', hsaved'⟩ := ih _ (htends₁.handlers hm) hsaved
        exact ⟨htends₁.trans htends', hsaved'⟩
      · exact ⟨htends, hsaved⟩

theorem tends_restore {saved : Saved} :
    ∀ {m : Machine}, saved.All P → Tends P m (m.restore saved).1 := by
  induction saved with
  | nil => exact fun _ => (Adds.refl _).tends_nil
  | cons b saved ih =>
    intro m hsaved
    obtain ⟨s, h⟩ := b
    have htends := tends_install (hsaved _ List.mem_cons_self) m s
    rw [restore]
    split
    · next m₁ g heq =>
      rw [heq] at htends
      exact htends.trans (ih fun b hb => hsaved b (List.mem_cons_of_mem _ hb))
    · next m₁ f heq =>
      rw [heq] at htends
      exact htends

/-! ### Blocks -/

/-- When the handlers in force and the relays of a child have the property, so have the handlers
that opening a block for the child installs and saves. -/
theorem tends_openBlock {i : Nat} (hm : ∀ s, P (m.handlerOf s)) (hr : ∀ n, P (.relay n i))
    (ss : List Int) :
    Tends P m (m.openBlock i ss).1 ∧ ∀ saved, (m.openBlock i ss).2 = .ok saved → saved.All P := by
  have hadd : m.Adds [] (m.newRelay i ss).1 :=
    ⟨rfl, (List.append_nil _).symm, fun _ => rfl, rfl, rfl⟩
  have hnew : Tends P m (m.newRelay i ss).1 := hadd.tends_nil
  have hrelay : P (m.newRelay i ss).2 := hr _
  have hnone : Saved.All P [] := fun _ hb => by cases hb
  obtain ⟨htends, hsaved⟩ := tends_installRelay hrelay ss [] (hnew.handlers hm) hnone
  have hall := hnew.trans htends
  rcases heq : (m.newRelay i ss).1.installRelay (m.newRelay i ss).2 [] ss with
    ⟨m₁, saved, f | ⟨⟩⟩
  · rw [heq] at hall hsaved
    have hrestore := hall.trans (tends_restore hsaved)
    rcases heq₂ : m₁.restore saved with ⟨m₂, g | ⟨⟩⟩
    · rw [heq₂] at hrestore
      simp only [openBlock, heq, heq₂]
      exact ⟨hrestore, fun _ hok => by cases hok⟩
    · rw [heq₂] at hrestore
      simp only [openBlock, heq, heq₂]
      exact ⟨hrestore, fun _ hok => by cases hok⟩
  · rw [heq] at hall hsaved
    simp only [openBlock, heq]
    refine ⟨hall, fun saved' hok => ?_⟩
    obtain rfl := Except.ok.inj hok
    exact hsaved

/-- When the saved handlers have the property, so have those that leaving the block installs. -/
theorem tends_leaveBlock {α : Type} {saved : Saved} (hsaved : saved.All P) (m : Machine)
    (outcome : Except Failure α) : Tends P m (m.leaveBlock saved outcome).1 := by
  have hrestore : Tends P m (m.restore saved).1 := tends_restore hsaved
  unfold leaveBlock
  split
  · next m₁ heq =>
    rw [heq] at hrestore
    exact hrestore
  · next m₁ f heq =>
    rw [heq] at hrestore
    exact hrestore

end Machine

end VendorLaunch
