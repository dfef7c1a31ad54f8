import VendorLaunch.Proofs.Verify.Requested

/-!
# Any binary at all

The mode that requires any binary takes the triples of all groups without regard to the groups:
each triple once, where it occurs first (`Catalog.pairwise_triples`). Where every triple can be
seen, its report is in order exactly when the report on the groups has something present, for a
triple with a binary makes its group present and a group is present on account of such a triple
(`Catalog.verify_any`).
-/

namespace VendorLaunch.Catalog

variable {c : Catalog} {t : FileTree} {root : Path}

/-! ### First occurrences -/

/-- Of two different triples the one that occurs first comes first. -/
theorem pairwise_distinct (seen triples : List String) :
    (distinct seen triples).Pairwise fun a b => triples.idxOf a < triples.idxOf b := by
  induction triples generalizing seen with
  | nil => exact List.Pairwise.nil
  | cons s rest ih =>
    -- behind the head all places move up by one
    have hplace : ∀ {a}, a ≠ s → (s :: rest).idxOf a = rest.idxOf a + 1 := by
      intro a hne
      rw [List.idxOf_cons, beq_false_of_ne (Ne.symm hne), cond_false]
    have hrest : ∀ seen', s ∈ seen' → (distinct seen' rest).Pairwise
        fun a b => (s :: rest).idxOf a < (s :: rest).idxOf b := by
      intro seen' hs
      have hne : ∀ a ∈ distinct seen' rest, a ≠ s := by
        rintro a ha rfl
        exact ((mem_distinct_iff seen' rest).mp ha).2 hs
      refine (ih seen').imp_of_mem fun ha hb hlt => ?_
      rw [hplace (hne _ ha), hplace (hne _ hb)]
      exact Nat.succ_lt_succ hlt
    rw [distinct]
    by_cases hs : s ∈ seen
    · rw [if_pos (List.contains_iff_mem.mpr hs)]
      exact hrest seen hs
    · rw [if_neg (mt List.contains_iff_mem.mp hs)]
      refine List.pairwise_cons.mpr ⟨fun b hb => ?_, hrest _ List.mem_cons_self⟩
      have hne : b ≠ s := by
        rintro rfl
        exact ((mem_distinct_iff _ rest).mp hb).2 List.mem_cons_self
      rw [List.idxOf_cons_self, hplace hne]
      exact Nat.succ_pos _

/-- The triples of a catalog stand in the order in which they occur first. -/
theorem pairwise_triples (c : Catalog) : c.triples.Pairwise fun a b =>
    (c.groups.flatMap Group.triples).idxOf a < (c.groups.flatMap Group.triples).idxOf b :=
  pairwise_distinct [] _

theorem nodup_triples (c : Catalog) : c.triples.Nodup :=
  c.pairwise_triples.imp fun hlt heq => absurd (heq ▸ hlt) (Nat.lt_irrefl _)

/-! ### Triples and groups -/

/-- Where every triple can be seen, the report on any binary is in order exactly when the report on
every group has something present. It checks each triple that a group names once, in the order in
which they occur first; present are those whose binary is there, and nothing is missing. -/
theorem verify_any (c : Catalog) (t : FileTree) (root : Path)
    (h : ∀ g ∈ c.groups, ∀ triple ∈ g.triples, ∃ here, (c.build root triple).present t = .ok here)
    (labels labels' : List String) :
    ∃ r r', (c.verify t root ⟨.any, labels⟩).result = .ok r ∧
      (c.verify t root ⟨.default, labels'⟩).result = .ok r' ∧
      (r.ok = true ↔ r'.present ≠ []) ∧
      r.checked.Nodup ∧
      (∀ triple, triple ∈ r.checked ↔ ∃ g ∈ c.groups, triple ∈ g.triples) ∧
      (r.checked.Pairwise fun a b =>
        (c.groups.flatMap Group.triples).idxOf a < (c.groups.flatMap Group.triples).idxOf b) ∧
      r.present.Sublist r.checked ∧
      (∀ triple, triple ∈ r.present ↔
        triple ∈ r.checked ∧ (c.build root triple).present t = .ok true) ∧
      r.missing = [] := by
  have hseen := seen_triples_iff.mpr h
  refine ⟨_, _, verify_any_of_seen rfl hseen, verify_of_seen nofun rfl h, ?_, c.nodup_triples,
    fun triple => mem_triples_iff, c.pairwise_triples, List.filter_sublist, fun triple => ?_, rfl⟩
  · exact hasSome_triples_iff.trans presentLabels_ne_nil_iff.symm
  · exact List.mem_filter.trans (and_congr_right fun _ => Build.isThere_iff)

/-- Of the triples of three groups, two of which share one, two have a binary. -/
theorem verify_any_twins :
    ∃ r r', (twins.verify wholeTree wholeRoot ⟨.any, []⟩).result = .ok r ∧
      (twins.verify wholeTree wholeRoot .everything).result = .ok r' ∧ r.ok = true ∧
      r'.present ≠ [] ∧ r.checked.Nodup ∧ "x86_64-unknown-linux-gnu" ∈ r.checked ∧
      "x86_64-unknown-linux-gnu" ∉ r.present ∧ "x86_64-unknown-linux-musl" ∈ r.present := by
  have hseen : ∀ g ∈ twins.groups, ∀ triple ∈ g.triples,
      ∃ here, (twins.build wholeRoot triple).present wholeTree = .ok here :=
    fun g hg triple hmem => ⟨_, present_twins triple (mem_triples_iff.mpr ⟨g, hg, hmem⟩)⟩
  obtain ⟨r, r', hr, hr', hok, hnodup, hchecked, -, -, hpresent, -⟩ :=
    verify_any twins wholeTree wholeRoot hseen [] []
  have hmusl : "x86_64-unknown-linux-musl" ∈ r.present :=
    (hpresent _).mpr ⟨(hchecked _).mpr (by decide), present_twins _ (by decide)⟩
  have hgnu : "x86_64-unknown-linux-gnu" ∉ r.present := by
    intro hmem
    have hthere := ((hpresent _).mp hmem).2
    rw [present_twins _ (by decide)] at hthere
    exact absurd (Except.ok.inj hthere) (by decide)
  have hlabels : r'.present ≠ [] := by
    obtain rfl := Except.ok.inj (hr'.symm.trans (verify_of_seen nofun rfl hseen))
    refine presentLabels_ne_nil_iff.mpr ⟨_, List.mem_cons_self, hasSome_iff.mpr ?_⟩
    exact ⟨"x86_64-unknown-linux-musl", by decide, present_twins _ (by decide)⟩
  exact ⟨r, r', hr, hr', hok.mpr hlabels, hlabels, hnodup, (hchecked _).mpr (by decide), hgnu, hmusl⟩

end VendorLaunch.Catalog
