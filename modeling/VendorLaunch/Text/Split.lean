/-!
# Cutting and joining text

`splitOn sep` cuts a text at the occurrences of a separator, found from left to right and without
overlap; `joinWith sep` puts the separator between pieces. A text without the separator is one
piece, so there is always at least one. Substring tests stand beside them.

The functions work on lists of characters; the versions on strings wrap them.
-/

namespace VendorLaunch.Text

/-- Puts a character in front of the first piece. -/
def consHead (c : Char) : List (List Char) → List (List Char)
  | [] => [[c]]
  | p :: ps => (c :: p) :: ps

/-- The pieces of a text of which the first `skip` characters belong to a separator. -/
def splitFrom (sep : List Char) : Nat → List Char → List (List Char)
  | _, [] => [[]]
  | skip + 1, _ :: s => splitFrom sep skip s
  | 0, c :: s =>
    if sep.isPrefixOf (c :: s) then [] :: splitFrom sep (sep.length - 1) s
    else consHead c (splitFrom sep 0 s)

/-- The pieces between the occurrences of `sep`, which is not empty. -/
def splitChars (sep s : List Char) : List (List Char) := splitFrom sep 0 s

/-- The pieces one after the other with `sep` between them. -/
def joinChars (sep : List Char) : List (List Char) → List Char
  | [] => []
  | [p] => p
  | p :: q :: ps => p ++ sep ++ joinChars sep (q :: ps)

/-- Whether `part` occurs in `s`. -/
def hasPart (part : List Char) : List Char → Bool
  | [] => part.isEmpty
  | c :: s => part.isPrefixOf (c :: s) || hasPart part s

/-- `splitChars` on strings. -/
def splitOn (sep s : String) : List String :=
  (splitChars sep.toList s.toList).map String.ofList

/-- `joinChars` on strings. -/
def joinWith (sep : String) (ps : List String) : String :=
  String.ofList (joinChars sep.toList (ps.map String.toList))

/-- `hasPart` on strings. -/
def contains (part s : String) : Bool := hasPart part.toList s.toList

/-- Whether `s` begins with `part`. -/
def startsWith (part s : String) : Bool := part.toList.isPrefixOf s.toList

/-- Whether `s` ends with `part`. -/
def endsWith (part s : String) : Bool := part.toList.isSuffixOf s.toList

theorem consHead_ne_nil (c : Char) (ps : List (List Char)) : consHead c ps ≠ [] := by
  cases ps <;> simp [consHead]

/-- There is always a piece. -/
theorem splitFrom_ne_nil (sep : List Char) (skip : Nat) (s : List Char) :
    splitFrom sep skip s ≠ [] := by
  induction s generalizing skip with
  | nil => simp [splitFrom]
  | cons c s ih =>
    cases skip with
    | zero =>
      unfold splitFrom
      split
      · simp
      · exact consHead_ne_nil c _
    | succ n => simpa [splitFrom] using ih n

/-- A separator of one character is cut at each of its occurrences. -/
theorem splitChars_cons (x c : Char) (s : List Char) :
    splitChars [x] (c :: s) =
      if x = c then [] :: splitChars [x] s else consHead c (splitChars [x] s) := by
  by_cases h : x = c <;> simp [splitChars, splitFrom, List.isPrefixOf, h]

section

variable {x : Char} {sep p : List Char}

theorem splitFrom_cons_of_ne {c : Char} (h : x ≠ c) (s : List Char) :
    splitFrom (x :: sep) 0 (c :: s) = consHead c (splitFrom (x :: sep) 0 s) := by
  rw [splitFrom, List.isPrefixOf_cons_cons, beq_eq_false_iff_ne.mpr h, Bool.false_and]
  rfl

/-- A text without the first character of the separator is one piece. -/
theorem splitChars_of_notMem (h : x ∉ p) : splitChars (x :: sep) p = [p] := by
  induction p with
  | nil => rfl
  | cons c p ih =>
    obtain ⟨hc, hp⟩ := not_or.mp (mt List.mem_cons.mpr h)
    rw [splitChars, splitFrom_cons_of_ne hc]
    exact congrArg (consHead c) (ih hp)

theorem splitFrom_append (sep u s : List Char) :
    splitFrom sep u.length (u ++ s) = splitFrom sep 0 s := by
  induction u with
  | nil => rfl
  | cons c u ih => exact ih

/-- A piece without the first character of the separator is cut off where the separator begins. -/
theorem splitChars_append (h : x ∉ p) (s : List Char) :
    splitChars (x :: sep) (p ++ x :: sep ++ s) = p :: splitChars (x :: sep) s := by
  induction p with
  | nil =>
    have hprefix : (x :: sep).isPrefixOf (x :: (sep ++ s)) = true :=
      List.isPrefixOf_iff_prefix.mpr (List.prefix_append (x :: sep) s)
    rw [List.nil_append, List.cons_append, splitChars, splitFrom, if_pos hprefix]
    exact congrArg ([] :: ·) (splitFrom_append (x :: sep) sep s)
  | cons c p ih =>
    obtain ⟨hc, hp⟩ := not_or.mp (mt List.mem_cons.mpr h)
    rw [List.cons_append, List.cons_append, splitChars, splitFrom_cons_of_ne hc]
    exact congrArg (consHead c) (ih hp)

/-- Pieces that are joined are found again. -/
theorem splitChars_joinChars {ps : List (List Char)} (hne : ps ≠ []) (h : ∀ p ∈ ps, x ∉ p) :
    splitChars (x :: sep) (joinChars (x :: sep) ps) = ps := by
  induction ps with
  | nil => exact absurd rfl hne
  | cons p ps ih =>
    have hp := h p List.mem_cons_self
    cases ps with
    | nil => exact splitChars_of_notMem hp
    | cons q ps =>
      have hps := ih (List.cons_ne_nil q ps) fun r hr => h r (List.mem_cons_of_mem p hr)
      rw [joinChars, splitChars_append hp, hps]

/-- `splitChars_of_notMem` on strings. -/
theorem splitOn_of_notMem {sep : String} {rest : List Char} (hsep : sep.toList = x :: rest)
    {s : String} (h : x ∉ s.toList) : splitOn sep s = [s] := by
  rw [splitOn, hsep, splitChars_of_notMem h, List.map_singleton, String.ofList_toList]

/-- `splitChars_joinChars` on strings. -/
theorem splitOn_joinWith {sep : String} {rest : List Char} (hsep : sep.toList = x :: rest)
    {ps : List String} (hne : ps ≠ []) (h : ∀ p ∈ ps, x ∉ p.toList) :
    splitOn sep (joinWith sep ps) = ps := by
  have hchars : ∀ p ∈ ps.map String.toList, x ∉ p := List.forall_mem_map.mpr h
  rw [splitOn, joinWith, String.toList_ofList, hsep,
    splitChars_joinChars (mt List.map_eq_nil_iff.mp hne) hchars]
  simp only [List.map_map, Function.comp_def, String.ofList_toList, List.map_id']

end

/-! ### Parts -/

theorem hasPart_iff {part s : List Char} : hasPart part s = true ↔ part <:+: s := by
  induction s with
  | nil => rw [hasPart, List.isEmpty_iff, List.infix_nil]
  | cons c s ih =>
    rw [hasPart, Bool.or_eq_true, List.isPrefixOf_iff_prefix, ih, List.infix_cons_iff]

/-- Each piece is a part of what is joined. -/
theorem infix_joinChars (sep : List Char) {p : List Char} {ps : List (List Char)} (h : p ∈ ps) :
    p <:+: joinChars sep ps := by
  induction ps with
  | nil => cases h
  | cons q ps ih =>
    cases ps with
    | nil => exact List.mem_singleton.mp h ▸ List.infix_refl q
    | cons r ps =>
      rw [joinChars]
      rcases List.mem_cons.mp h with rfl | h
      · rw [List.append_assoc]
        exact (List.prefix_append p _).isInfix
      · exact (ih h).trans (List.suffix_append _ _).isInfix

/-- `hasPart_iff` on strings. -/
theorem contains_iff {part s : String} : contains part s = true ↔ part.toList <:+: s.toList :=
  hasPart_iff

section

variable {part s t : String}

theorem contains_self (s : String) : contains s s = true := contains_iff.mpr (List.infix_refl _)

theorem contains_append_left (h : contains part s = true) (t : String) :
    contains part (s ++ t) = true := by
  rw [contains_iff] at h ⊢
  rw [String.toList_append]
  exact h.trans (List.prefix_append _ _).isInfix

theorem contains_append_right (s : String) (h : contains part t = true) :
    contains part (s ++ t) = true := by
  rw [contains_iff] at h ⊢
  rw [String.toList_append]
  exact h.trans (List.suffix_append _ _).isInfix

/-- `infix_joinChars` on strings. -/
theorem contains_joinWith (sep : String) {ps : List String} (h : part ∈ ps) :
    contains part (joinWith sep ps) = true := by
  rw [contains_iff, joinWith, String.toList_ofList]
  exact infix_joinChars _ (List.mem_map_of_mem h)

end

end VendorLaunch.Text
