import VendorLaunch.Proofs.Pieces
import VendorLaunch.Settings
import VendorLaunch.Verify.Selection

/-!
# How a requirement is written

A requirement is written as labels between commas. Which texts express which labels is told without
the reader: the text is made of pieces between commas, and each piece is blank or is the next label
with blanks around it (`Selection.Writes`). The reader gives a list of labels just for the texts
that write it (`Selection.labelsOf_eq_iff`), so each list has one reading and the labels between
bare commas are its normal form.

The settings trim the whole text and the tool does not. Since each piece is trimmed, this makes no
difference to the labels (`Selection.labelsOf_trim`), and both come to the same requirement
(`Selection.parse_setting?`).
-/

namespace VendorLaunch

/-- All characters of the text are blank. -/
def Text.AllBlank (s : String) : Prop := ∀ c ∈ s.toList, Text.isBlank c = true

instance (s : String) : Decidable (Text.AllBlank s) :=
  List.decidableBAll (fun c => Text.isBlank c = true) s.toList

namespace Text.AllBlank

variable {s : String}

theorem iff_trim : AllBlank s ↔ trim s = "" := by
  rw [AllBlank, ← trimChars_eq_nil_iff, trim, String.ofList_eq_empty_iff]

theorem comma_notMem (hs : AllBlank s) : ',' ∉ s.toList := fun hc =>
  absurd (hs ',' hc) (by decide)

end Text.AllBlank

/-- `exists_eq_trimChars` on strings. -/
theorem Text.exists_eq_trim (s : String) :
    ∃ l r, s = l ++ trim s ++ r ∧ AllBlank l ∧ AllBlank r := by
  obtain ⟨l, r, hs, hl, hr⟩ := exists_eq_trimChars s.toList
  refine ⟨String.ofList l, String.ofList r, ?_, by simpa [AllBlank] using hl,
    by simpa [AllBlank] using hr⟩
  rw [trim, ← String.ofList_append, ← String.ofList_append, ← hs, String.ofList_toList]

namespace Selection

open Text

/-! ### Written forms -/

/-- What can stand between commas as a label. -/
structure IsLabel (s : String) : Prop where
  ne_empty : s ≠ ""
  trimmed : trim s = s
  comma_notMem : ',' ∉ s.toList

/-- The pieces are the labels in their order, with blanks around each of them, and blank pieces. -/
inductive Spread : List String → List String → Prop where
  | nil : Spread [] []
  /-- The next piece is blank. -/
  | gap {piece : String} {pieces labels : List String} :
      AllBlank piece → Spread pieces labels → Spread (piece :: pieces) labels
  /-- The next piece is the next label between blanks. -/
  | label {left label right : String} {pieces labels : List String} :
      AllBlank left → AllBlank right → Spread pieces labels →
      Spread ((left ++ label ++ right) :: pieces) (label :: labels)

/-- The text writes the labels: it consists of them and of blanks, between commas. -/
def Writes (raw : String) (labels : List String) : Prop :=
  ∃ pieces, raw = joinWith "," pieces ∧ Spread pieces labels

variable {raw : String} {pieces labels : List String}

/-- The pieces without their blanks and without the blank ones are the labels. -/
theorem Spread.filter_trim (h : Spread pieces labels) (hlabels : ∀ label ∈ labels, IsLabel label) :
    (pieces.map trim).filter (· ≠ "") = labels := by
  induction h with
  | nil => rfl
  | gap hblank _ ih =>
    rw [List.map_cons, List.filter_cons_of_neg (by simpa using AllBlank.iff_trim.mp hblank)]
    exact ih hlabels
  | @label left label right _ _ hleft hright _ ih =>
    obtain ⟨hlabel, hlabels⟩ := List.forall_mem_cons.mp hlabels
    have htrim : trim (left ++ label ++ right) = label := by
      rw [trim_append hleft hright, hlabel.trimmed]
    rw [List.map_cons, htrim, List.filter_cons_of_pos (by simpa using hlabel.ne_empty),
      ih hlabels]

theorem Spread.comma_notMem (h : Spread pieces labels)
    (hlabels : ∀ label ∈ labels, IsLabel label) : ∀ piece ∈ pieces, ',' ∉ piece.toList := by
  induction h with
  | nil => exact nofun
  | gap hblank _ ih => exact List.forall_mem_cons.mpr ⟨hblank.comma_notMem, ih hlabels⟩
  | label hleft hright _ ih =>
    obtain ⟨hlabel, hlabels⟩ := List.forall_mem_cons.mp hlabels
    refine List.forall_mem_cons.mpr ⟨?_, ih hlabels⟩
    rw [String.toList_append, String.toList_append, List.mem_append, List.mem_append]
    rintro ((hc | hc) | hc)
    · exact hleft.comma_notMem hc
    · exact hlabel.comma_notMem hc
    · exact hright.comma_notMem hc

/-- Any pieces are spread from what trimming leaves of them. -/
theorem spread_filter_trim (pieces : List String) :
    Spread pieces ((pieces.map trim).filter (· ≠ "")) := by
  induction pieces with
  | nil => exact .nil
  | cons piece pieces ih =>
    rw [List.map_cons]
    by_cases hblank : trim piece = ""
    · rw [List.filter_cons_of_neg (by simpa using hblank)]
      exact .gap (AllBlank.iff_trim.mpr hblank) ih
    · rw [List.filter_cons_of_pos (by simpa using hblank)]
      obtain ⟨left, right, hpiece, hleft, hright⟩ := exists_eq_trim piece
      have hspread : Spread ((left ++ trim piece ++ right) :: pieces) _ := .label hleft hright ih
      rwa [← hpiece] at hspread

/-! ### Reading -/

theorem comma_toList : (",").toList = [','] := by decide

theorem labelsOf_of_writes (h : Writes raw labels) (hlabels : ∀ label ∈ labels, IsLabel label) :
    labelsOf raw = labels := by
  obtain ⟨pieces, rfl, hspread⟩ := h
  by_cases hne : pieces = []
  · rw [hne] at hspread ⊢
    cases hspread
    decide
  · rw [labelsOf, splitOn_joinWith comma_toList hne (hspread.comma_notMem hlabels)]
    exact hspread.filter_trim hlabels

theorem writes_labelsOf (raw : String) : Writes raw (labelsOf raw) :=
  ⟨splitOn "," raw, (joinWith_splitOn comma_toList raw).symm, spread_filter_trim _⟩

theorem isLabel_of_mem_labelsOf {label : String} (h : label ∈ labelsOf raw) : IsLabel label := by
  obtain ⟨hmem, hne⟩ := List.mem_filter.mp h
  obtain ⟨piece, hpiece, rfl⟩ := List.mem_map.mp hmem
  refine ⟨of_decide_eq_true hne, trim_trim piece, fun hc => ?_⟩
  obtain ⟨left, right, heq, -⟩ := exists_eq_trim piece
  refine notMem_of_mem_splitOn comma_toList hpiece ?_
  rw [heq, String.toList_append, String.toList_append]
  exact List.mem_append_left _ (List.mem_append_right _ hc)

/-- The labels of a text are those that it writes. -/
theorem labelsOf_eq_iff :
    labelsOf raw = labels ↔ Writes raw labels ∧ ∀ label ∈ labels, IsLabel label := by
  constructor
  · rintro rfl
    exact ⟨writes_labelsOf raw, fun label => isLabel_of_mem_labelsOf⟩
  · exact fun ⟨h, hlabels⟩ => labelsOf_of_writes h hlabels

/-- Labels between bare commas write themselves. -/
theorem writes_joinWith (labels : List String) : Writes (joinWith "," labels) labels := by
  refine ⟨labels, rfl, ?_⟩
  have hempty : AllBlank "" := nofun
  induction labels with
  | nil => exact .nil
  | cons label labels ih =>
    have hspread : Spread (("" ++ label ++ "") :: labels) _ := .label hempty hempty ih
    rwa [String.empty_append, String.append_empty] at hspread

/-! ### Requirements -/

/-- Trimming the whole text first makes no difference to its labels. -/
theorem labelsOf_trim (raw : String) : labelsOf (trim raw) = labelsOf raw := by
  rw [labelsOf, map_trim_splitOn_trim comma_toList (by decide), labelsOf]

/-- The settings read a variable to the requirement that its text expresses. -/
theorem parse_setting? (env : Env) (name : String) :
    parse (Env.setting? env name) = parse (Table.find? name env) := by
  unfold Env.setting?
  cases Table.find? name env with
  | none => rfl
  | some raw =>
    dsimp only
    split
    · next hblank =>
      have hnone : labelsOf raw = [] := by
        rw [← labelsOf_trim, hblank]
        decide
      rw [parse, parse, hnone]
      rfl
    · rw [parse, parse, labelsOf_trim]

/-- The labels that express a requirement. -/
def wording : Selection → List String
  | ⟨.default, _⟩ => []
  | ⟨.any, _⟩ => [anyWord]
  | ⟨.override, labels⟩ => labels

theorem wording_ofLabels (labels : List String) : (ofLabels labels).wording = labels := by
  unfold ofLabels
  split
  · next h => exact h.symm
  · split
    · next h => exact h.symm
    · rfl

/-- A text expresses a requirement when it writes the labels of the requirement. -/
theorem parse_eq_ofLabels_iff :
    parse (some raw) = ofLabels labels ↔ Writes raw labels ∧ ∀ label ∈ labels, IsLabel label := by
  rw [← labelsOf_eq_iff]
  constructor
  · intro h
    rw [← wording_ofLabels labels, ← h, parse, wording_ofLabels]
  · rintro rfl
    rfl

/-- Labels are asked for in override mode alone, and then they are the labels of the text. -/
theorem parse_cases (raw : Option String) :
    (parse raw).mode ≠ .override ∧ (parse raw).labels = [] ∨
      ∃ labels, labels ≠ [] ∧ (∀ label ∈ labels, IsLabel label) ∧
        parse raw = ⟨.override, labels⟩ ∧ ofLabels labels = ⟨.override, labels⟩ := by
  cases raw with
  | none => exact Or.inl ⟨nofun, rfl⟩
  | some s =>
    by_cases hnone : labelsOf s = []
    · rw [parse, hnone]
      exact Or.inl ⟨nofun, rfl⟩
    · by_cases hany : labelsOf s = [anyWord]
      · rw [parse, hany]
        exact Or.inl ⟨nofun, rfl⟩
      · have hoverride : ofLabels (labelsOf s) = ⟨.override, labelsOf s⟩ := by
          rw [ofLabels, if_neg hnone, if_neg hany]
        exact Or.inr ⟨labelsOf s, hnone, fun _ => isLabel_of_mem_labelsOf, hoverride, hoverride⟩

/-! ### The two readers -/

/-- A requirement has labels in override mode alone; they are not empty, trimmed and without commas,
and between bare commas they express the same requirement. A text expresses a requirement just when
it writes it: any other labels than the single word `any`, with blanks around them and blank pieces
among them, ask for the groups with these labels, the single word asks for any binary, and blank
pieces alone ask for every group. Whenever there are settings, the variable is read to the same
requirement from its text and from them. -/
theorem parse_normal_form :
    (∀ raw : Option String,
      (∀ label ∈ (parse raw).labels, IsLabel label) ∧
      ((parse raw).mode = .override ↔ (parse raw).labels ≠ []) ∧
      ((parse raw).mode = .override →
        parse (some (joinWith "," (parse raw).labels)) = parse raw)) ∧
    (∀ (raw : String) (labels : List String), labels ≠ [] → labels ≠ [anyWord] →
      (parse (some raw) = ⟨.override, labels⟩ ↔
        Writes raw labels ∧ ∀ label ∈ labels, IsLabel label)) ∧
    (∀ raw : String, parse (some raw) = ⟨.any, []⟩ ↔ Writes raw [anyWord]) ∧
    (∀ raw : String, parse (some raw) = everything ↔ Writes raw []) ∧
    ∀ (i : Installation) (env : Env) (root : Path), i.vendorRoot env = .ok root →
      ∃ settings, i.settings env = .ok settings ∧
        parse settings.requiredGroups = parse (Table.find? requiredGroupsVar env) := by
  refine ⟨fun raw => ?_, fun raw labels hne hany => ?_, fun raw => ?_, fun raw => ?_,
    fun i env root hroot => ?_⟩
  · rcases parse_cases raw with ⟨hmode, hlabels⟩ | ⟨labels, hne, hall, hparse, hoverride⟩
    · rw [hlabels]
      exact ⟨nofun, iff_of_false hmode (absurd rfl), fun h => absurd h hmode⟩
    · rw [hparse]
      refine ⟨hall, iff_of_true rfl hne, fun _ => ?_⟩
      exact (parse_eq_ofLabels_iff.mpr ⟨writes_joinWith labels, hall⟩).trans hoverride
  · have hoverride : ofLabels labels = ⟨.override, labels⟩ := by
      rw [ofLabels, if_neg hne, if_neg hany]
    rw [← hoverride]
    exact parse_eq_ofLabels_iff
  · have hlabel : ∀ label ∈ [anyWord], IsLabel label :=
      List.forall_mem_singleton.mpr ⟨by decide, by decide, by decide⟩
    have hany : (⟨.any, []⟩ : Selection) = ofLabels [anyWord] := rfl
    rw [hany, parse_eq_ofLabels_iff, and_iff_left hlabel]
  · have hnone : everything = ofLabels [] := rfl
    rw [hnone, parse_eq_ofLabels_iff, and_iff_left (List.forall_mem_nil _)]
  · refine ⟨_, by rw [Installation.settings, hroot], ?_⟩
    exact parse_setting? env requiredGroupsVar

/-- Two labels, one of them the word for any binary, between blanks of several kinds and with blank
pieces in front of them, between them and behind them. -/
def paddedLabels : String := "\t, any \u3000,\u2003, linux-x64\u001f,"

/-- The two labels are asked for, by the text and by the settings. -/
theorem parse_normal_form_paddedLabels :
    parse (some paddedLabels) = ⟨.override, ["any", "linux-x64"]⟩ ∧
      parse (some (joinWith "," ["any", "linux-x64"])) = parse (some paddedLabels) ∧
      ∃ settings, (⟨⟨.root, ["opt"]⟩, none, [], "/root"⟩ : Installation).settings
          [(requiredGroupsVar, paddedLabels)] = .ok settings ∧
        parse settings.requiredGroups = ⟨.override, ["any", "linux-x64"]⟩ := by
  obtain ⟨hnormal, hoverride, -, -, hsettings⟩ := parse_normal_form
  have hlabels : ∀ label ∈ ["any", "linux-x64"], IsLabel label := by
    refine List.forall_mem_cons.mpr ⟨⟨by decide, by decide, by decide⟩, ?_⟩
    exact List.forall_mem_singleton.mpr ⟨by decide, by decide, by decide⟩
  have hwrites : Writes paddedLabels ["any", "linux-x64"] := by
    refine ⟨["\t", " any \u3000", "\u2003", " linux-x64\u001f", ""], by decide, ?_⟩
    have hany : " any \u3000" = " " ++ "any" ++ " \u3000" := by decide
    have hlinux : " linux-x64\u001f" = " " ++ "linux-x64" ++ "\u001f" := by decide
    rw [hany, hlinux]
    have hend : Spread [""] [] := .gap (by decide) .nil
    exact .gap (by decide) (.label (by decide) (by decide) (.gap (by decide)
      (.label (by decide) (by decide) hend)))
  have hparse := (hoverride paddedLabels ["any", "linux-x64"] (by decide) (by decide)).mpr
    ⟨hwrites, hlabels⟩
  obtain ⟨-, -, hagain⟩ := hnormal (some paddedLabels)
  obtain ⟨settings, hset, hread⟩ := hsettings ⟨⟨.root, ["opt"]⟩, none, [], "/root"⟩
    [(requiredGroupsVar, paddedLabels)] _ rfl
  rw [hparse] at hagain
  exact ⟨hparse, (hagain rfl).trans hparse.symm, settings, hset, hread.trans hparse⟩

end Selection

end VendorLaunch
