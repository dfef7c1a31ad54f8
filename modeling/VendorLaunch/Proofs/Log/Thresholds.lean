import VendorLaunch.Proofs.Log.Lines
import VendorLaunch.Proofs.Output

/-!
# Thresholds of the log

What a setup that returns leaves behind depends on its request alone (`Request.Configures`,
`configures_of_setup`), and writing a line does not change it (`Request.Configures.writeFiles`), so
after any run of setups and lines the last request is in force (`Runs.configures_last`).

Then the console and the file each have a threshold of their own: the level of the root is the lower
one of the two and hides nothing that one of them would take (`Request.Configures.takers`), and
`Runs.thresholds` says what is written where.
-/

namespace VendorLaunch.Log

variable {s s' : State} {t t' : FileTree} {r : Request} {rs : List Request} {l : Line}

/-! ### Levels -/

/-- A text that is no name of a level, in capitals, means warnings. -/
theorem levelOf_of_unknown {text : String} (h : ∀ n ∈ levelNames, n.1 ≠ Text.upper text) :
    levelOf text = warning := by
  have hnone : levelNames.find? (fun n => n.1 == Text.upper text) = none :=
    List.find?_eq_none.mpr fun n hn heq => h n hn (eq_of_beq heq)
  unfold levelOf
  dsimp only
  rw [hnone]

/-- A text that is a name of a level, in capitals, means this level. -/
theorem levelOf_of_known {text : String} {n : String × Int} (hn : n ∈ levelNames)
    (h : n.1 = Text.upper text) : levelOf text = n.2 := by
  have hnames : ∀ m ∈ levelNames, levelNames.find? (fun n => n.1 == m.1) = some m := by decide
  unfold levelOf
  dsimp only
  rw [← h, hnames n hn]

/-- A file without a level of its own has that of the console. -/
theorem Request.levelOfFile_of_none (h : r.fileLevel = none ∨ r.fileLevel = some "") :
    r.levelOfFile = levelOf r.level := by
  unfold Request.levelOfFile
  rcases h with h | h
  · rw [h]
  · rw [h]
    exact if_pos rfl

theorem Request.levelOfFile_of_some {text : String} (h : r.fileLevel = some text)
    (hne : text ≠ "") : r.levelOfFile = levelOf text := by
  unfold Request.levelOfFile
  rw [h]
  exact if_neg hne

/-! ### Setups -/

/-- The log is what the request asks for, and its file can be written to. -/
inductive Request.Configures (r : Request) : State → FileTree → Prop where
  | console {t : FileTree} : (∀ f, ¬r.Names f) → Configures r ⟨levelOf r.level, [r.console]⟩ t
  | file {t : FileTree} {f : String} {place : List String} : r.Names f → t.LeadsToFile f place →
      Configures r ⟨min (levelOf r.level) r.levelOfFile, [r.console, r.fileAt place]⟩ t

/-- A setup that returns leaves what it was asked for, whatever was there before. -/
theorem configures_of_setup (h : s.setup t r = (s', t', .ok ())) : r.Configures s' t' := by
  by_cases hfile : ∃ f, r.Names f
  · obtain ⟨f, hf⟩ := hfile
    obtain ⟨place, hopen, rfl⟩ := openAppend_of_setup hf h
    exact .file hf (FileTree.leadsToFile_openAppend hopen)
  · rw [setup_of_no_file (not_exists.mp hfile)] at h
    obtain ⟨rfl, -⟩ := Prod.mk.inj h
    exact .console (not_exists.mp hfile)

/-- Writing a line does not change what is configured. -/
theorem Request.Configures.writeFiles (h : r.Configures s t) (l : Line) :
    r.Configures s (s.writeFiles t l) := by
  cases h with
  | console hnone => exact .console hnone
  | file hf hleads => exact .file hf (hleads.sameShape (State.sameShape_writeFiles _ t l))

/-! ### Runs -/

/-- Setups that return, in order, with lines written before, between and after them. -/
inductive Runs : State → FileTree → List Request → State → FileTree → Prop where
  | done {s : State} {t : FileTree} : Runs s t [] s t
  | setup {s s₁ s' : State} {t t₁ t' : FileTree} {r : Request} {rs : List Request} :
      s.setup t r = (s₁, t₁, .ok ()) → Runs s₁ t₁ rs s' t' → Runs s t (r :: rs) s' t'
  | write {s s' : State} {t t' : FileTree} {rs : List Request} (l : Line) :
      Runs s (s.writeFiles t l) rs s' t' → Runs s t rs s' t'

/-- The last request is in force, and without one the request from before. -/
theorem Runs.configures (h : Runs s t rs s' t') {before : Request}
    (hbefore : before.Configures s t) :
    (rs.getLast?.getD before).Configures s' t' := by
  induction h generalizing before with
  | done => exact hbefore
  | setup hsetup _ ih =>
    rw [List.getLast?_cons, Option.getD_some]
    exact ih (configures_of_setup hsetup)
  | write l _ ih => exact ih (hbefore.writeFiles l)

theorem Runs.configures_last (h : Runs s t rs s' t') (hlast : rs.getLast? = some r) :
    r.Configures s' t' := by
  induction h with
  | done => cases hlast
  | setup hsetup hrest _ =>
    rw [List.getLast?_cons] at hlast
    obtain rfl := Option.some.inj hlast
    exact hrest.configures (configures_of_setup hsetup)
  | write l _ ih => exact ih hlast

/-! ### Records -/

namespace Request.Configures

theorem root_le (h : r.Configures s t) {g : LineHandler} (hg : g ∈ s.handlers) :
    s.root ≤ g.level := by
  cases h with
  | console _ =>
    rw [List.mem_singleton.mp hg]
    exact Int.le_of_eq (level_console r).symm
  | file _ _ =>
    rcases List.mem_cons.mp hg with rfl | hg
    · rw [level_console]
      exact Int.min_le_left _ _
    · rw [List.mem_singleton.mp hg, level_fileAt]
      exact Int.min_le_right _ _

/-- The root hides no record from a handler that would take it. -/
theorem takers (h : r.Configures s t) {level : Int} (hpos : 0 < level) :
    s.takers level = s.handlers.filter fun g => g.level ≤ level := by
  unfold State.takers
  split
  · rfl
  · next hpass =>
    -- what does not reach the root reaches no handler either
    have hroot : level < s.root := by simpa [State.passes, hpos] using hpass
    refine (List.filter_eq_nil_iff.mpr fun g hg hlevel => ?_).symm
    have hreached : s.root ≤ level := Int.le_trans (h.root_le hg) (of_decide_eq_true hlevel)
    exact absurd hreached (Int.not_le.mpr hroot)

theorem mem_handlers_iff (h : r.Configures s t) {g : LineHandler} :
    g ∈ s.handlers ↔ g = r.console ∨
      ∃ f place, r.Names f ∧ t.LeadsToFile f place ∧ g = r.fileAt place := by
  cases h with
  | console hnone =>
    have hno : ¬∃ f place, r.Names f ∧ t.LeadsToFile f place ∧ g = r.fileAt place := by
      rintro ⟨f, -, hf, -⟩
      exact hnone f hf
    rw [List.mem_singleton, or_iff_left hno]
  | file hf hleads =>
    rw [List.mem_cons, List.mem_singleton]
    refine or_congr Iff.rfl ⟨fun hg => ⟨_, _, hf, hleads, hg⟩, ?_⟩
    rintro ⟨f', place', hf', hleads', rfl⟩
    -- the request names one file, and its text leads to one location
    obtain rfl := hf.eq hf'
    rw [hleads.place_eq hleads']

/-- The handlers of the last request alone take a record, each from its own level on. -/
theorem mem_takers_iff (h : r.Configures s t) {level : Int} (hpos : 0 < level) {g : LineHandler} :
    g ∈ s.takers level ↔ g = r.console ∧ levelOf r.level ≤ level ∨
      ∃ f place, r.Names f ∧ t.LeadsToFile f place ∧ g = r.fileAt place ∧
        r.levelOfFile ≤ level := by
  rw [h.takers hpos, List.mem_filter, h.mem_handlers_iff, decide_eq_true_eq, or_and_right]
  refine or_congr (and_congr_right ?_) ?_
  · rintro rfl
    rfl
  · constructor
    · rintro ⟨⟨f, place, hf, hleads, rfl⟩, hlevel⟩
      exact ⟨f, place, hf, hleads, rfl, hlevel⟩
    · rintro ⟨f, place, hf, hleads, rfl, hlevel⟩
      exact ⟨⟨f, place, hf, hleads, rfl⟩, hlevel⟩

/-- The console shows a line when its level is reached, and nothing else. -/
theorem consoleText (h : r.Configures s t) (hpos : 0 < l.record.level) :
    s.consoleText l = if levelOf r.level ≤ l.record.level then r.console.text l else "" := by
  have hlast : lastResort s l = "" := by
    cases h with
    | console _ => rfl
    | file _ _ => rfl
  have hhandlers : s.handlers.filter (fun g => g.sink = .console) = [r.console] := by
    cases h with
    | console _ => rfl
    | file _ _ => rfl
  have hshown : (s.takers l.record.level).filter (fun g => g.sink = .console) =
      [r.console].filter fun g => g.level ≤ l.record.level := by
    rw [h.takers hpos, ← hhandlers, List.filter_filter, List.filter_filter]
    simp only [Bool.and_comm]
  rw [State.consoleText, hlast, String.append_empty, hshown]
  by_cases hlevel : levelOf r.level ≤ l.record.level
  · simp [hlevel]
  · simp [hlevel]

theorem writeFiles_of_no_file (h : r.Configures s t) (hnone : ∀ f, ¬r.Names f) :
    s.writeFiles t l = t := by
  cases h with
  | console _ =>
    unfold State.writeFiles State.takers
    split
    · by_cases hlevel : levelOf r.level ≤ l.record.level
      · simp [hlevel]
      · simp [hlevel]
    · rfl
  | file hf _ => exact absurd hf (hnone _)

/-- The file gets a line when its level is reached, and nothing else. -/
theorem writeFiles_of_file (h : r.Configures s t) (hpos : 0 < l.record.level) {f : String}
    (hf : r.Names f) :
    ∃ place, t.LeadsToFile f place ∧
      s.writeFiles t l = if r.levelOfFile ≤ l.record.level then
        t.appendText place ((r.fileAt place).text l) else t := by
  have htakers := h.takers hpos
  cases h with
  | console hnone => exact absurd hf (hnone f)
  | @file _ _ place hf' hleads =>
    obtain rfl := hf'.eq hf
    refine ⟨place, hleads, ?_⟩
    rw [State.writeFiles, htakers]
    by_cases hconsole : levelOf r.level ≤ l.record.level <;>
      by_cases hfile : r.levelOfFile ≤ l.record.level <;> simp [hconsole, hfile]

end Request.Configures

/-- After any run of setups that return and of lines, a record of a positive level is taken by the
console of the last request from its level on, by the file of the last request from its level on,
and by nothing else, so it is written there and nowhere else. Where the name of the program has no
percent sign, what is written is a line that ends in the message. A text that is no name of a level
sets that of warnings, and a file without a level of its own has that of the console. -/
theorem Runs.thresholds (h : Runs s t rs s' t') (hlast : rs.getLast? = some r) (l : Line)
    (hpos : 0 < l.record.level) :
    (∀ g, g ∈ s'.takers l.record.level ↔ g = r.console ∧ levelOf r.level ≤ l.record.level ∨
      ∃ f place, r.Names f ∧ t'.LeadsToFile f place ∧ g = r.fileAt place ∧
        r.levelOfFile ≤ l.record.level) ∧
    s'.consoleText l = (if levelOf r.level ≤ l.record.level then r.console.text l else "") ∧
    ((∀ f, ¬r.Names f) → s'.writeFiles t' l = t') ∧
    (∀ f, r.Names f → ∃ place b, t'.LeadsToFile f place ∧ t'.node? place = some (.file b) ∧
      s'.writeFiles t' l = if r.levelOfFile ≤ l.record.level then
        t'.setNode place (.file (b ++ Text.encodeUtf8 ((r.fileAt place).text l))) else t') ∧
    ('%' ∉ r.program.toList →
      (∃ head, r.console.text l = head ++ l.record.message ++ "\n") ∧
      ∀ place, ∃ head, (r.fileAt place).text l = head ++ l.record.message ++ "\n") ∧
    (∀ text, (∀ n ∈ levelNames, n.1 ≠ Text.upper text) → levelOf text = warning) ∧
    (∀ n ∈ levelNames, ∀ text, n.1 = Text.upper text → levelOf text = n.2) ∧
    (r.fileLevel = none ∨ r.fileLevel = some "" → r.levelOfFile = levelOf r.level) ∧
    ∀ text, r.fileLevel = some text → text ≠ "" → r.levelOfFile = levelOf text := by
  have hr : r.Configures s' t' := h.configures_last hlast
  refine ⟨fun g => hr.mem_takers_iff hpos, hr.consoleText hpos, hr.writeFiles_of_no_file, ?_, ?_,
    fun text => levelOf_of_unknown, fun n hn text => levelOf_of_known hn,
    Request.levelOfFile_of_none, fun text => Request.levelOfFile_of_some⟩
  · intro f hf
    obtain ⟨place, hleads, hwrite⟩ := hr.writeFiles_of_file hpos hf
    obtain ⟨b, hnode⟩ := hleads.file
    refine ⟨place, b, hleads, hnode, ?_⟩
    rw [hwrite, FileTree.appendText_of_file hnode]
  · intro hprogram
    exact ⟨exists_text_consoleHandler hprogram _ l,
      fun place => exists_text_fileHandler hprogram _ place l⟩

/-- A detailed console and a file. -/
def earlierRequest : Request := { level := "debug", file := some "/old.log" }

/-- A console for warnings and a file for everything. -/
def laterRequest : Request :=
  { level := "loud", file := some "/new.log", fileLevel := some "Debug" }

/-- A notable event. -/
def infoLine : Line := ⟨.info "codex_launcher.test" "resolved", 12, 1700000000, 4242⟩

theorem runs_two : ∃ s t, Runs {} ⟨[], []⟩ [earlierRequest, laterRequest] s t := by
  have hold : FileTree.openAppend ⟨[], []⟩ "/old.log" =
      .ok (FileTree.setNode ⟨[], []⟩ ["old.log"] (.file []), ["old.log"]) :=
    FileTree.openAppend_of_absent ⟨[], []⟩ "/old.log" "/old.log" (by rfl)
      (by rfl) (FileTree.follow_of_direct (by decide) (by rfl))
  generalize ht : FileTree.setNode ⟨[], []⟩ ["old.log"] (.file []) = t at hold
  have hnew : t.openAppend "/new.log" = .ok (t.setNode ["new.log"] (.file []), ["new.log"]) := by
    subst ht
    exact FileTree.openAppend_of_absent _ "/new.log" "/new.log" (by rfl)
      (by rfl) (FileTree.follow_of_direct (by decide) (by rfl))
  have hearlier := setup_of_openAppend (r := earlierRequest) ⟨rfl, by decide⟩ hold {}
  have hlater := setup_of_openAppend (r := laterRequest) ⟨rfl, by decide⟩ hnew
  exact ⟨_, _, .setup hearlier (.setup (hlater _) .done)⟩

/-- After two setups the old file gets nothing more, and a notable event is written to the new file
but not to the console. -/
theorem Runs.thresholds_two : ∃ s t, Runs {} ⟨[], []⟩ [earlierRequest, laterRequest] s t ∧
    s.consoleText infoLine = "" ∧ ∃ place head b, t.LeadsToFile "/new.log" place ∧
      t.node? place = some (.file b) ∧ s.writeFiles t infoLine =
        t.setNode place (.file (b ++ Text.encodeUtf8 (head ++ "resolved" ++ "\n"))) := by
  obtain ⟨s, t, hruns⟩ := runs_two
  have hloud : levelOf "loud" = warning := by rfl
  have hdebug : laterRequest.levelOfFile = debug := by rfl
  have hlast : [earlierRequest, laterRequest].getLast? = some laterRequest := rfl
  obtain ⟨-, hconsole, -, hfile, hlines, -⟩ := hruns.thresholds hlast infoLine (by decide)
  obtain ⟨place, b, hleads, hnode, hwrite⟩ := hfile "/new.log" ⟨rfl, by decide⟩
  obtain ⟨-, hline⟩ := hlines (by decide)
  obtain ⟨head, hhead⟩ := hline place
  refine ⟨s, t, hruns, ?_, place, head, b, hleads, hnode, ?_⟩
  · rw [hconsole, if_neg]
    change ¬levelOf "loud" ≤ info
    rw [hloud]
    decide
  · rw [hwrite, if_pos, hhead]
    · rfl
    · rw [hdebug]
      decide

end VendorLaunch.Log
