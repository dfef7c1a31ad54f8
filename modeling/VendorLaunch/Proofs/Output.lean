import VendorLaunch.Json
import VendorLaunch.Program.Session
import VendorLaunch.Proofs.Files

/-!
# What sessions show and keep

Output leaves out the style sequences of terminals, so a text is shown as it is when it has no
escape character (`Text.plain_of_notMem`). JSON has none, whatever the data and the style: line
breaks are its only control characters (`Json.typable_render`).

Writing to the log adds whole lines to standard error (`Session.exists_err_noteAll`), and changes no
file but in what it contains (`Session.sameShape_noteAll`).
-/

namespace VendorLaunch

namespace Text

/-! ### Texts without styles -/

/-- A text without an escape character has no style sequence. -/
theorem plain_of_notMem {s : String} (h : '\x1b' ∉ s.toList) : plain s = s := by
  have hchars : ∀ cs : List Char, '\x1b' ∉ cs → plainFrom 0 cs = cs := by
    intro cs hcs
    induction cs with
    | nil => rfl
    | cons c cs ih =>
      obtain ⟨hc, hcs⟩ := not_or.mp (mt List.mem_cons.mpr hcs)
      rw [plainFrom, if_neg (Ne.symm hc), ih hcs]
  rw [plain, hchars _ h, String.ofList_toList]

/-- A text without an escape character is no part of a style sequence. -/
theorem plain_append {p : String} (h : '\x1b' ∉ p.toList) (s : String) :
    plain (p ++ s) = p ++ plain s := by
  have hchars : ∀ cs : List Char, '\x1b' ∉ cs →
      plainFrom 0 (cs ++ s.toList) = cs ++ plainFrom 0 s.toList := by
    intro cs hcs
    induction cs with
    | nil => rfl
    | cons c cs ih =>
      obtain ⟨hc, hcs⟩ := not_or.mp (mt List.mem_cons.mpr hcs)
      rw [List.cons_append, plainFrom, if_neg (Ne.symm hc), ih hcs, List.cons_append]
  rw [plain, plain, String.toList_append, hchars _ h, String.ofList_append, String.ofList_toList]

/-! ### Lines -/

/-- The text is empty or ends with a line break. -/
def WholeLines (s : String) : Prop := s = "" ∨ ∃ u, s = u ++ "\n"

theorem WholeLines.append {s u : String} (hs : WholeLines s) (hu : WholeLines u) :
    WholeLines (s ++ u) := by
  rcases hu with rfl | ⟨v, rfl⟩
  · rwa [String.append_empty]
  · exact Or.inr ⟨s ++ v, String.append_assoc.symm⟩

theorem wholeLines_join {ps : List String} (h : ∀ p ∈ ps, WholeLines p) :
    WholeLines (String.join ps) := by
  induction ps with
  | nil => exact Or.inl rfl
  | cons p ps ih =>
    obtain ⟨hp, hps⟩ := List.forall_mem_cons.mp h
    rw [String.join_cons]
    exact hp.append (ih hps)

/-! ### Texts without control characters -/

/-- A line break, or a character that is the blank or comes after it. -/
def isTypable (c : Char) : Bool := c == '\n' || 32 ≤ c.toNat

/-- A text of such characters. -/
def Typable (s : List Char) : Prop := ∀ c ∈ s, isTypable c = true

instance : DecidablePred Typable := List.decidableBAll (isTypable · = true)

theorem Typable.append {s u : List Char} (hs : Typable s) (hu : Typable u) : Typable (s ++ u) :=
  List.forall_mem_append.mpr ⟨hs, hu⟩

/-- Typable texts are shown as they are. -/
theorem plain_of_typable {s : String} (h : Typable s.toList) : plain s = s :=
  plain_of_notMem fun hesc => absurd (h _ hesc) (by decide)

theorem typable_joinChars {sep : List Char} (hsep : Typable sep) {ps : List (List Char)}
    (hps : ∀ p ∈ ps, Typable p) : Typable (joinChars sep ps) := by
  induction ps with
  | nil => exact fun _ hc => absurd hc List.not_mem_nil
  | cons p ps ih =>
    obtain ⟨hp, hps⟩ := List.forall_mem_cons.mp hps
    cases ps with
    | nil => exact hp
    | cons q qs => exact (hp.append hsep).append (ih hps)

theorem typable_joinWith {sep : String} (hsep : Typable sep.toList) {ps : List String}
    (hps : ∀ p ∈ ps, Typable p.toList) : Typable (joinWith sep ps).toList := by
  rw [joinWith, String.toList_ofList]
  refine typable_joinChars hsep fun p hp => ?_
  obtain ⟨q, hq, rfl⟩ := List.mem_map.mp hp
  exact hps q hq

/-! ### Numbers -/

theorem isTypable_hexDigit {n : Nat} (h : n < 16) : isTypable (hexDigit n) = true := by
  have hall : ∀ m < 16, isTypable (hexDigit m) = true := by decide
  exact hall n h

theorem typable_hexDigits (width n : Nat) : Typable (hexDigits width n) := by
  induction width generalizing n with
  | zero => exact fun _ hc => absurd hc List.not_mem_nil
  | succ width ih =>
    refine (ih (n / 16)).append fun c hc => ?_
    rw [List.mem_singleton.mp hc]
    exact isTypable_hexDigit (Nat.mod_lt n (by decide))

theorem typable_toDigits (n : Nat) : Typable (Nat.toDigits 10 n) := by
  have hdigit : ∀ m < 10, isTypable (Nat.digitChar m) = true := by decide
  induction n using Nat.strongRecOn with
  | ind n ih =>
    rw [Nat.toDigits_eq_if (by decide)]
    split
    · next hn =>
      intro c hc
      rw [List.mem_singleton.mp hc]
      exact hdigit n hn
    · next hn =>
      refine (ih (n / 10) (by omega)).append fun c hc => ?_
      rw [List.mem_singleton.mp hc]
      exact hdigit _ (Nat.mod_lt n (by decide))

theorem typable_toString_int (i : Int) : Typable (toString i).toList := by
  have hnat : ∀ n : Nat, Typable n.repr.toList := by
    intro n
    rw [Nat.repr, String.toList_ofList]
    exact typable_toDigits n
  cases i with
  | ofNat n => exact hnat n
  | negSucc n =>
    have hminus : Typable ("-" : String).toList := by decide
    change Typable ("-" ++ (n + 1).repr).toList
    rw [String.toList_append]
    exact hminus.append (hnat (n + 1))

end Text

/-! ### JSON -/

namespace Json

open Text

theorem typable_unitEscape (n : Nat) : Typable (unitEscape n) := by
  have hstart : Typable ['\\', 'u'] := by decide
  exact hstart.append (typable_hexDigits 4 n)

theorem typable_escapeChar (ascii : Bool) (c : Char) : Typable (escapeChar ascii c) := by
  obtain ⟨e, he, h⟩ | ⟨-, -, hcontrol, h⟩ | ⟨-, h⟩ | ⟨-, h⟩ := escapeChar_cases ascii c
  · have hforms : ∀ p ∈ shortForms, Typable ['\\', p.1] := by decide
    rw [h]
    exact hforms _ he
  · rw [h]
    intro d hd
    rw [List.mem_singleton.mp hd]
    simp only [isTypable, Bool.or_eq_true, decide_eq_true_eq]
    exact Or.inr hcontrol
  · rw [h]
    exact typable_unitEscape _
  · rw [h]
    exact (typable_unitEscape _).append (typable_unitEscape _)

theorem typable_quote (ascii : Bool) (s : String) : Typable (quote ascii s).toList := by
  have hmark : Typable ['"'] := by decide
  have hbody : Typable (s.toList.flatMap (escapeChar ascii)) := by
    intro c hc
    obtain ⟨d, -, hd⟩ := List.mem_flatMap.mp hc
    exact typable_escapeChar ascii d c hd
  rw [quote, String.toList_ofList]
  exact (hmark.append hbody).append hmark

theorem Style.typable_break (st : Style) (level : Nat) : Typable (st.break level).toList := by
  have hline : Typable ("\n" : String).toList := by decide
  have hspace : isTypable ' ' = true := by decide
  have hspaces : ∀ n, Typable (String.ofList (List.replicate n ' ')).toList := by
    intro n c hc
    rw [String.toList_ofList] at hc
    rw [List.eq_of_mem_replicate hc]
    exact hspace
  unfold Style.break
  split
  · rw [String.toList_append]
    exact hline.append (hspaces _)
  · decide

/-- Entries between brackets are typable when the entries and the brackets are. -/
theorem Style.typable_enclose (st : Style) (level : Nat) {left right : String} {es : List String}
    (hleft : Typable left.toList) (hright : Typable right.toList)
    (hes : ∀ e ∈ es, Typable e.toList) : Typable (st.enclose level left right es).toList := by
  have hcomma : Typable ("," : String).toList := by decide
  have hsep : Typable (if st.lines then "," ++ st.break (level + 1) else ", ").toList := by
    split
    · rw [String.toList_append]
      exact hcomma.append (st.typable_break _)
    · decide
  unfold Style.enclose
  split
  · rw [String.toList_append]
    exact hleft.append hright
  · simp only [String.toList_append]
    exact (((hleft.append (st.typable_break _)).append (typable_joinWith hsep hes)).append
      (st.typable_break _)).append hright

variable (st : Style)

mutual

/-- JSON is typable, whatever the data. -/
theorem typable_render (level : Nat) :
    ∀ d, Typable (render st level d).toList
  | .bool true => by rw [render]; decide
  | .bool false => by rw [render]; decide
  | .int i => by rw [render]; exact typable_toString_int i
  | .text s => by rw [render]; exact typable_quote st.ascii s
  | .list xs | .tuple xs | .set xs => by
    rw [render]
    exact st.typable_enclose level (by decide) (by decide) (typable_renderAll (level + 1) xs)
  | .dict fs => by
    rw [render]
    exact st.typable_enclose level (by decide) (by decide) (typable_renderFields (level + 1) fs)
  | .null | .float _ | .brokenText _ | .bytes _ | .date .. | .time _ => by
    simp only [render]
    decide

theorem typable_renderAll (level : Nat) :
    ∀ xs, ∀ e ∈ renderAll st level xs, Typable e.toList
  | [] => by simp [renderAll]
  | x :: xs => by
    rw [renderAll]
    exact List.forall_mem_cons.mpr ⟨typable_render level x, typable_renderAll level xs⟩

theorem typable_renderFields (level : Nat) :
    ∀ fs, ∀ e ∈ renderFields st level fs, Typable e.toList
  | [] => by simp [renderFields]
  | (k, v) :: fs => by
    have hcolon : Typable (": " : String).toList := by decide
    have hnull : Typable ("null: " : String).toList := by decide
    have hv := typable_render level v
    have hfs := typable_renderFields level fs
    unfold renderFields
    split
    · next heq => cases heq
    · next k' v' fs' heq =>
      obtain ⟨hkv, rfl⟩ := List.cons.inj heq
      obtain ⟨-, rfl⟩ := Prod.mk.inj hkv
      refine List.forall_mem_cons.mpr ⟨?_, hfs⟩
      simp only [String.toList_append]
      exact ((typable_quote st.ascii k').append hcolon).append hv
    · next k' v' fs' _ heq =>
      obtain ⟨hkv, rfl⟩ := List.cons.inj heq
      obtain ⟨-, rfl⟩ := Prod.mk.inj hkv
      refine List.forall_mem_cons.mpr ⟨?_, hfs⟩
      rw [String.toList_append]
      exact hnull.append hv

end

end Json

/-! ### The log -/

namespace Log

theorem LineHandler.wholeLines_text (h : LineHandler) (l : Line) : Text.WholeLines (h.text l) := by
  unfold LineHandler.text
  split
  · exact Or.inr ⟨_, rfl⟩
  · exact Or.inl rfl

/-- What a record adds to the console is a number of lines. -/
theorem State.wholeLines_consoleText (s : State) (l : Line) :
    Text.WholeLines (s.consoleText l) := by
  have hlast : Text.WholeLines (lastResort s l) := by
    unfold lastResort
    split
    · exact Or.inr ⟨_, rfl⟩
    · exact Or.inl rfl
  refine (Text.wholeLines_join fun p hp => ?_).append hlast
  obtain ⟨h, -, rfl⟩ := List.mem_map.mp hp
  exact h.wholeLines_text l

/-- What a line adds to files is appended to files that are there. -/
theorem State.sameShape_writeFiles (s : State) (t : FileTree) (l : Line) :
    t.SameShape (s.writeFiles t l) := by
  refine FileTree.SameShape.foldl (fun t h => ?_) _ t
  split
  · exact FileTree.SameShape.refl t
  · exact FileTree.sameShape_appendText t _ _

theorem State.mem_handlers_of_mem_takers {s : State} {level : Int} {g : LineHandler}
    (h : g ∈ s.takers level) : g ∈ s.handlers ∧ g.level ≤ level := by
  unfold takers at h
  split at h
  · obtain ⟨hmem, hlevel⟩ := List.mem_filter.mp h
    exact ⟨hmem, of_decide_eq_true hlevel⟩
  · cases h

/-- A line changes nothing but the files of the handlers. -/
theorem State.node?_writeFiles {s : State} {p : List String}
    (h : ∀ g ∈ s.handlers, g.sink ≠ .file p) (t : FileTree) (l : Line) :
    (s.writeFiles t l).node? p = t.node? p := by
  have hother : ∀ g ∈ s.takers l.record.level, g.sink ≠ .file p := fun g hg =>
    h g (mem_handlers_of_mem_takers hg).1
  unfold writeFiles
  generalize s.takers l.record.level = gs at hother
  induction gs generalizing t with
  | nil => rfl
  | cons g gs ih =>
    obtain ⟨hg, hgs⟩ := List.forall_mem_cons.mp hother
    rw [List.foldl_cons, ih _ hgs]
    split
    · rfl
    · next place hplace =>
      have hp : p ≠ place := by
        rintro rfl
        exact hg hplace
      exact FileTree.node?_appendText_of_ne hp t _

end Log

/-! ### Sessions -/

namespace Session

theorem out_setUp (s : Session) (r : Log.Request) : (s.setUp r).1.out = s.out := rfl

theorem err_setUp (s : Session) (r : Log.Request) : (s.setUp r).1.err = s.err := rfl

/-- What is logged adds lines to standard error. -/
theorem exists_err_noteAll (s : Session) (rs : List LogRecord) :
    ∃ lines, Text.WholeLines lines ∧ (s.noteAll rs).err = s.err ++ lines := by
  induction rs generalizing s with
  | nil => exact ⟨"", Or.inl rfl, (String.append_empty).symm⟩
  | cons r rs ih =>
    obtain ⟨lines, hlines, herr⟩ := ih (s.note r)
    refine ⟨s.log.consoleText (s.line r) ++ lines,
      (s.log.wholeLines_consoleText (s.line r)).append hlines, ?_⟩
    rw [← String.append_assoc]
    exact herr

/-- JSON is printed as it is. -/
theorem out_print_render (s : Session) (st : Json.Style) (d : Data) :
    (s.print (Json.render st 0 d)).out = s.out ++ Json.render st 0 d ++ "\n" := by
  rw [print, Text.plain_of_typable (Json.typable_render st 0 d)]

/-- What is logged changes nothing but the files of the log. -/
theorem node?_noteAll {s : Session} {p : List String}
    (h : ∀ g ∈ s.log.handlers, g.sink ≠ .file p) (rs : List LogRecord) :
    (s.noteAll rs).tree.node? p = s.tree.node? p := by
  induction rs generalizing s with
  | nil => rfl
  | cons r rs ih =>
    exact (ih (s := s.note r) h).trans (Log.State.node?_writeFiles h s.tree (s.line r))

theorem sameShape_note (s : Session) (r : LogRecord) : s.tree.SameShape (s.note r).tree :=
  s.log.sameShape_writeFiles s.tree (s.line r)

theorem sameShape_noteAll (s : Session) (rs : List LogRecord) :
    s.tree.SameShape (s.noteAll rs).tree := by
  induction rs generalizing s with
  | nil => exact FileTree.SameShape.refl _
  | cons r rs ih => exact (s.sameShape_note r).trans (ih (s.note r))

end Session

end VendorLaunch
