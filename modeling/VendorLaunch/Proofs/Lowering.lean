import VendorLaunch.Text.Case

/-!
# Lower case

The lower case of a text is its own lower case (`Text.lower_lower`). A character is settled when no
case map changes it, whatever stands around it (`Text.Settled`); a text of settled characters is its
own lower case, and every lower case is such a text. For the characters that have a case this rests
on the table: no image of a run lies in a run (`Text.imagesAvoid_lowerRuns`). Two runs can share a
stretch of code points there, for in many scripts capital and small letters alternate; then the one
has the odd code points and the other the even ones.
-/

namespace VendorLaunch.Text

/-! ### Runs -/

/-- A run of code points and the first of their images. -/
abbrev Run := Nat × Nat × Nat × Nat

/-- The code points of a run. -/
def Run.Holds (r : Run) (n : Nat) : Prop := r.1 ≤ n ∧ n ≤ r.2.1 ∧ (n - r.1) % r.2.2.1 = 0

theorem runImage?_eq_none_iff {runs : List Run} {n : Nat} :
    runImage? runs n = none ↔ ∀ r ∈ runs, ¬r.Holds n := by
  simp [runImage?, Run.Holds]

theorem exists_run_of_runImage? {runs : List Run} {n m : Nat} (h : runImage? runs n = some m) :
    ∃ r ∈ runs, r.Holds n ∧ m = r.2.2.2 + (n - r.1) := by
  obtain ⟨r, hfind, rfl⟩ := Option.map_eq_some_iff.mp h
  have hholds := List.find?_some hfind
  simp only [Bool.and_eq_true, decide_eq_true_eq, beq_iff_eq] at hholds
  exact ⟨r, List.mem_of_find?_eq_some hfind, ⟨hholds.1.1, hholds.1.2, hholds.2⟩, rfl⟩

/-- The images of `r` lie outside of `q`: before it or behind it, or between its code points. -/
def Run.ImagesAvoid (r q : Run) : Bool :=
  Nat.blt (r.2.2.2 + (r.2.1 - r.1)) q.1 || Nat.blt q.2.1 r.2.2.2 ||
    (q.2.2.1 == 2 && (r.2.2.1 == 2 || r.1 == r.2.1) && (r.2.2.2 + q.1) % 2 == 1)

theorem Run.ImagesAvoid.not_holds {r q : Run} (h : r.ImagesAvoid q = true) {n : Nat}
    (hn : r.Holds n) : ¬q.Holds (r.2.2.2 + (n - r.1)) := by
  obtain ⟨first, last, step, image⟩ := r
  obtain ⟨first', last', step', image'⟩ := q
  simp only [ImagesAvoid, Bool.or_eq_true, Bool.and_eq_true, Nat.blt_eq, beq_iff_eq] at h
  simp only [Holds] at hn ⊢
  rintro ⟨hfirst, hlast, hstep⟩
  obtain (hbefore | hbehind) | ⟨⟨rfl, rfl | rfl⟩, hodd⟩ := h
  · omega
  · omega
  -- every second code point on both sides, and the first ones differ in parity
  · omega
  -- a single image between the code points of `q`
  · omega

/-- The images of a run are characters. -/
def Run.HasCharacters (r : Run) : Bool :=
  r.2.2.2 + (r.2.1 - r.1) < 0xd800 || (0xdfff < r.2.2.2 && r.2.2.2 + (r.2.1 - r.1) < 0x110000)

theorem Run.HasCharacters.isValidChar {r : Run} (h : r.HasCharacters = true) {n : Nat}
    (hn : r.Holds n) : (r.2.2.2 + (n - r.1)).isValidChar := by
  simp only [HasCharacters, Bool.or_eq_true, Bool.and_eq_true, decide_eq_true_eq] at h
  obtain ⟨hfirst, hlast, -⟩ := hn
  rcases h with h | ⟨hlow, hhigh⟩
  · exact Or.inl (by omega)
  · exact Or.inr ⟨by omega, by omega⟩

/-- The capital I with a dot, whose lower case is two characters, as a run. -/
def dottedRun : Run := (304, 304, 1, 105)

/-- All code points that have a lower case other than themselves. -/
def capitalRuns : List Run := dottedRun :: lowerRuns

theorem imagesAvoid_lowerRuns :
    (lowerRuns.all fun r => capitalRuns.all fun q => Run.ImagesAvoid r q) = true := by
  decide +kernel

theorem hasCharacters_lowerRuns : ∀ r ∈ lowerRuns, Run.HasCharacters r = true := by
  decide +kernel

/-! ### Settled characters -/

/-- A character that has no lower case other than itself. -/
def Settled (c : Char) : Prop := runImage? capitalRuns c.toNat = none

instance : DecidablePred Settled := fun c =>
  inferInstanceAs (Decidable (runImage? capitalRuns c.toNat = none))

variable {c : Char} {before after s : List Char}

theorem Settled.lowerAt (h : Settled c) : lowerAt before c after = [c] := by
  have hsigma : c ≠ 'Σ' := by
    rintro rfl
    exact absurd h (by decide +kernel)
  have hdotted : c ≠ 'İ' := by
    rintro rfl
    exact absurd h (by decide +kernel)
  have hrun : runImage? lowerRuns c.toNat = none :=
    runImage?_eq_none_iff.mpr fun r hr =>
      runImage?_eq_none_iff.mp h r (List.mem_cons_of_mem _ hr)
  rw [Text.lowerAt, if_neg hsigma, if_neg hdotted, mapRun, hrun]

theorem lowerFrom_of_settled (h : ∀ c ∈ s, Settled c) : lowerFrom before s = s := by
  induction s generalizing before with
  | nil => rfl
  | cons c s ih =>
    obtain ⟨hc, hs⟩ := List.forall_mem_cons.mp h
    rw [lowerFrom, hc.lowerAt, ih hs, List.singleton_append]

/-- The image of a character under the table is settled, except for the capital I with a dot, which
is not in the table. -/
theorem settled_mapRun (hdotted : c ≠ 'İ') : Settled (mapRun lowerRuns c) := by
  unfold mapRun
  split
  · next m hm =>
    obtain ⟨r, hr, hholds, rfl⟩ := exists_run_of_runImage? hm
    have hvalid := Run.HasCharacters.isValidChar (hasCharacters_lowerRuns r hr) hholds
    have havoid := List.all_eq_true.mp (List.all_eq_true.mp imagesAvoid_lowerRuns r hr)
    rw [Settled, Char.ofNat, dif_pos hvalid]
    exact runImage?_eq_none_iff.mpr fun q hq => Run.ImagesAvoid.not_holds (havoid q hq) hholds
  · next hnone =>
    refine runImage?_eq_none_iff.mpr (List.forall_mem_cons.mpr
      ⟨fun hholds => hdotted ?_, runImage?_eq_none_iff.mp hnone⟩)
    exact Char.toNat_inj.mp (Nat.le_antisymm hholds.2.1 hholds.1)

/-- What a character becomes is settled. -/
theorem settled_lowerAt : ∀ d ∈ lowerAt before c after, Settled d := by
  intro d hd
  unfold lowerAt at hd
  split at hd
  · rw [List.mem_singleton.mp hd]
    unfold lowerSigma
    split
    · decide +kernel
    · decide +kernel
  · split at hd
    · rcases List.mem_cons.mp hd with rfl | hd
      · decide +kernel
      · rw [List.mem_singleton.mp hd]
        decide +kernel
    · next hdotted =>
      rw [List.mem_singleton.mp hd]
      exact settled_mapRun hdotted

theorem settled_lowerFrom : ∀ d ∈ lowerFrom before s, Settled d := by
  induction s generalizing before with
  | nil => exact nofun
  | cons c s ih =>
    rw [lowerFrom]
    exact List.forall_mem_append.mpr ⟨settled_lowerAt, ih⟩

/-- The lower case of a text is its own lower case. -/
theorem lower_lower (s : String) : lower (lower s) = lower s := by
  rw [lower, lower, String.toList_ofList, lowerFrom_of_settled settled_lowerFrom]

end VendorLaunch.Text
