import VendorLaunch.Log.Setup

/-!
# Lines of the log

Every form of a line ends in the message, so a line that is written ends in it too. Rendering copies
the characters that are no percent signs and puts a value in place of each field (`EndsIn.literal`,
`EndsIn.field`), and the forms ask for no value that a line does not have. The name of the program
stands in all of them; when it has no percent sign of its own, the console and the file can write
every line (`exists_text_consoleHandler`, `exists_text_fileHandler`).
-/

namespace VendorLaunch.Log

/-! ### Templates -/

section

variable {fields : Fields} {message template part name : String} {st : FieldStyle} {letter : Char}
  {v : FieldValue} {w : List Char}

/-- What follows a percent sign is a field of this name, to be written in this way. -/
def IsField (part name : String) (st : FieldStyle) (letter : Char) : Prop :=
  ∀ s, ∃ rest styled, part.toList ++ s = '(' :: rest ∧ takeName 0 [] rest = some (name, styled) ∧
    takeStyle styled = (st, letter :: s)

theorem writeField_of_isField (h : IsField part name st letter) (hfind : fields.find? name = some v)
    (hwrite : st.write letter v = some w) (s : List Char) :
    writeField fields (part.toList ++ s) = some (w, s) := by
  obtain ⟨rest, styled, hrest, hname, hstyle⟩ := h s
  rw [hrest, writeField, hname]
  simp only [Option.bind_eq_bind, Option.bind_some, hstyle, hfind, hwrite]
  rfl

theorem renderFrom_cons {c : Char} (hc : c ≠ '%') (n : Nat) (s : List Char) :
    renderFrom fields (n + 1) (c :: s) = (renderFrom fields n s).map (c :: ·) := by
  rw [renderFrom]
  exact hc

/-- Characters that are no percent signs are copied. -/
theorem renderFrom_append {p : List Char} (hp : '%' ∉ p) (n : Nat) (s : List Char) :
    renderFrom fields (p.length + n) (p ++ s) = (renderFrom fields n s).map (p ++ ·) := by
  induction p with
  | nil => simp
  | cons c p ih =>
    obtain ⟨hc, hp⟩ := not_or.mp (mt List.mem_cons.mpr hp)
    rw [List.length_cons, Nat.add_right_comm, List.cons_append, renderFrom_cons (Ne.symm hc), ih hp,
      Option.map_map]
    rfl

/-- The template can be written, and what is written ends in the message. -/
def EndsIn (fields : Fields) (message template : String) : Prop :=
  ∃ head, ∀ n, template.toList.length ≤ n →
    renderFrom fields n template.toList = some (head ++ message.toList)

theorem EndsIn.literal {p : String} (hp : '%' ∉ p.toList) (h : EndsIn fields message template) :
    EndsIn fields message (p ++ template) := by
  obtain ⟨head, hrender⟩ := h
  refine ⟨p.toList ++ head, fun n hn => ?_⟩
  rw [String.toList_append, List.length_append] at hn
  -- of the n steps, one for each character of p
  obtain ⟨k, rfl⟩ := Nat.exists_eq_add_of_le (Nat.le_of_add_right_le hn)
  rw [String.toList_append, renderFrom_append hp, hrender k (Nat.le_of_add_le_add_left hn),
    Option.map_some, List.append_assoc]

theorem renderFrom_field (h : IsField part name st letter) (hfind : fields.find? name = some v)
    (hwrite : st.write letter v = some w) (n : Nat) (s : List Char) :
    renderFrom fields (n + 1) ('%' :: (part.toList ++ s)) =
      (renderFrom fields n s).map (w ++ ·) := by
  rw [renderFrom, writeField_of_isField h hfind hwrite, Option.map_eq_bind]
  rfl

theorem EndsIn.field (hpart : IsField part name st letter) (hfind : fields.find? name = some v)
    (hwrite : st.write letter v = some w) (h : EndsIn fields message template) :
    EndsIn fields message ("%" ++ part ++ template) := by
  obtain ⟨head, hrender⟩ := h
  have htemplate : ("%" ++ part ++ template).toList = '%' :: (part.toList ++ template.toList) := by
    rw [String.toList_append, String.toList_append]
    rfl
  refine ⟨w ++ head, fun n hn => ?_⟩
  rw [htemplate, List.length_cons, List.length_append] at hn
  obtain ⟨k, rfl⟩ := Nat.exists_eq_add_of_le' (Nat.le_trans (Nat.le_add_left 1 _) hn)
  rw [htemplate, renderFrom_field hpart hfind hwrite, hrender k (by omega), Option.map_some,
    List.append_assoc]

theorem EndsIn.renderTemplate (h : EndsIn fields message template) :
    ∃ head, renderTemplate template fields = some (head ++ message) := by
  obtain ⟨head, hrender⟩ := h
  refine ⟨String.ofList head, ?_⟩
  rw [Log.renderTemplate, hrender _ (Nat.le_refl _), Option.map_some, String.ofList_append,
    String.ofList_toList]

end

/-! ### Forms -/

section

variable {l : Line} {h : LineHandler}

theorem isField_name : IsField "(name)s" "name" {} 's' := fun _ => ⟨_, _, rfl, rfl, rfl⟩

theorem endsIn_message : EndsIn (l.fields h) l.record.message "%(message)s" := by
  have hpart : IsField "(message)s" "message" {} 's' := fun _ => ⟨_, _, rfl, rfl, rfl⟩
  have hfind : (l.fields h).find? "message" = some (.text l.record.message) := rfl
  have hwrite : FieldStyle.write {} 's' (.text l.record.message) =
      some l.record.message.toList := by
    simp [FieldStyle.write, FieldStyle.text, FieldStyle.pad]
  refine ⟨[], fun n hn => ?_⟩
  obtain ⟨k, rfl⟩ := Nat.exists_eq_add_of_le' (Nat.le_trans (by decide) hn : 1 ≤ n)
  have hrender := renderFrom_field hpart hfind hwrite k []
  rw [renderFrom, Option.map_some, List.append_nil, List.append_nil] at hrender
  exact hrender

/-- A detailed line ends in the message. -/
theorem endsIn_detail : EndsIn (l.fields h) l.record.message detail := by
  have hlevel : IsField "(levelname)-5s" "levelname" { left := true, width := 5 } 's' :=
    fun _ => ⟨_, _, rfl, rfl, rfl⟩
  have hnumber : IsField "(lineno)d" "lineno" {} 'd' := fun _ => ⟨_, _, rfl, rfl, rfl⟩
  have hdetail : detail = "%" ++ "(levelname)-5s" ++ (" " ++ ("%" ++ "(name)s" ++ (":" ++
      ("%" ++ "(lineno)d" ++ (" — " ++ "%(message)s"))))) := rfl
  rw [hdetail]
  refine EndsIn.field hlevel rfl rfl (EndsIn.literal (by decide) ?_)
  refine EndsIn.field isField_name rfl rfl (EndsIn.literal (by decide) ?_)
  exact EndsIn.field hnumber rfl rfl (EndsIn.literal (by decide) endsIn_message)

/-- A template that asks for the time gets it. -/
theorem find?_asctime (htime : Text.contains "%(asctime)" h.template = true) :
    (l.fields h).find? "asctime" =
      some (.text (h.time.write (Moment.ofSeconds l.seconds))) := by
  rw [Line.fields, if_pos htime]
  rfl

theorem endsIn_timed (before after : String) (hbefore : '%' ∉ before.toList)
    (htemplate : h.template = before ++ ("%" ++ "(asctime)s" ++ after))
    (hafter : EndsIn (l.fields h) l.record.message after) :
    EndsIn (l.fields h) l.record.message h.template := by
  have hpart : IsField "(asctime)s" "asctime" {} 's' := fun _ => ⟨_, _, rfl, rfl, rfl⟩
  have htime : Text.contains "%(asctime)" h.template = true := by
    rw [htemplate]
    exact Text.contains_append_right _ (Text.contains_append_left (by decide) _)
  rw [htemplate]
  exact EndsIn.literal hbefore (EndsIn.field hpart (find?_asctime htime) rfl hafter)

theorem EndsIn.exists_text (hends : EndsIn (l.fields h) l.record.message h.template) :
    ∃ head, h.text l = head ++ l.record.message ++ "\n" := by
  obtain ⟨head, hrender⟩ := hends.renderTemplate
  exact ⟨head, by rw [LineHandler.text, hrender]⟩

end

section

variable {program : String} {h : LineHandler} {l : Line} (hprogram : '%' ∉ program.toList)
include hprogram

theorem endsIn_consoleForm {level : Int} (htemplate : h.template = (consoleForm program level).1) :
    EndsIn (l.fields h) l.record.message h.template := by
  have hlabel : '%' ∉ (program ++ ": ").toList := by simp [hprogram]
  unfold consoleForm at htemplate
  split at htemplate
  · refine endsIn_timed (program ++ ": ") (" " ++ detail) hlabel ?_ ?_
    · rw [htemplate, String.append_assoc, String.append_assoc]
      rfl
    · exact EndsIn.literal (by decide) endsIn_detail
  · split at htemplate
    · refine endsIn_timed (program ++ ": ")
        (" [" ++ ("%" ++ "(name)s" ++ ("] " ++ "%(message)s"))) hlabel ?_ ?_
      · rw [htemplate, String.append_assoc]
        rfl
      · refine EndsIn.literal (by decide) ?_
        exact EndsIn.field isField_name rfl rfl (EndsIn.literal (by decide) endsIn_message)
    · have hplain : h.template = program ++ ": " ++ "%(message)s" := by
        rw [htemplate, String.append_assoc]
        rfl
      rw [hplain]
      exact EndsIn.literal hlabel endsIn_message

theorem endsIn_fileForm (htemplate : h.template = fileForm program) :
    EndsIn (l.fields h) l.record.message h.template := by
  have hlabel : '%' ∉ (" " ++ program ++ "[").toList := by simp [hprogram]
  have hprocess : IsField "(process)d" "process" {} 'd' := fun _ => ⟨_, _, rfl, rfl, rfl⟩
  refine endsIn_timed "" (" " ++ program ++ "[" ++ ("%" ++ "(process)d" ++ ("] " ++ detail)))
    (by decide) ?_ ?_
  · rw [htemplate, fileForm, String.empty_append]
    simp only [String.append_assoc]
    rfl
  · exact EndsIn.literal hlabel
      (EndsIn.field hprocess rfl rfl (EndsIn.literal (by decide) endsIn_detail))

/-- A console of any level can write every line. -/
theorem exists_text_consoleHandler (level : Int) (l : Line) :
    ∃ head, (consoleHandler program level).text l = head ++ l.record.message ++ "\n" :=
  (endsIn_consoleForm hprogram rfl).exists_text

/-- A file at any location and of any level can hold every line. -/
theorem exists_text_fileHandler (level : Int) (place : List String) (l : Line) :
    ∃ head, (fileHandler program level place).text l = head ++ l.record.message ++ "\n" :=
  (endsIn_fileForm hprogram rfl).exists_text

end

end VendorLaunch.Log
