/-!
# Blank characters and trimming

Blank are the white space of Unicode and the four separators U+001C to U+001F. `trim` removes
blanks at both ends and keeps those inside.

Main statements: `trim_eq_nil_iff` says that a text of blanks is what trims to nothing, and
`trim_trim` that trimming again changes nothing.
-/

namespace VendorLaunch.Text

/-- White space, or one of the separators U+001C to U+001F. -/
def isBlank (c : Char) : Bool :=
  let n := c.toNat
  (9 ≤ n && n ≤ 13) || (28 ≤ n && n ≤ 32) || n == 0x85 || n == 0xa0 || n == 0x1680 ||
    (0x2000 ≤ n && n ≤ 0x200a) || n == 0x2028 || n == 0x2029 || n == 0x202f || n == 0x205f ||
    n == 0x3000

/-- Every character that the core library calls white space is blank. -/
theorem isBlank_of_isWhitespace {c : Char} (h : c.isWhitespace = true) : isBlank c = true := by
  simp only [Char.isWhitespace, Bool.or_eq_true, decide_eq_true_eq] at h
  rcases h with ((rfl | rfl) | rfl) | rfl <;> decide

/-- The text without its leading blanks. -/
def trimLeft (s : List Char) : List Char := s.dropWhile isBlank

/-- The text without its trailing blanks: a character stays when it, or one after it, is no
blank. -/
def trimRight : List Char → List Char
  | [] => []
  | c :: s =>
    match trimRight s with
    | [] => if isBlank c then [] else [c]
    | d :: r => c :: d :: r

/-- The text without the blanks at its two ends. -/
def trimChars (s : List Char) : List Char := trimRight (trimLeft s)

/-- `trimChars` on strings. -/
def trim (s : String) : String := String.ofList (trimChars s.toList)

theorem trimRight_eq_nil_iff {s : List Char} : trimRight s = [] ↔ ∀ c ∈ s, isBlank c = true := by
  induction s with
  | nil => simp [trimRight]
  | cons c s ih =>
    unfold trimRight
    split <;> rename_i h
    · have hs := ih.1 h
      simp only [ite_eq_left_iff, List.mem_cons, forall_eq_or_imp, reduceCtorEq, imp_false,
        Bool.not_eq_true, Bool.not_eq_false]
      exact ⟨fun hc => ⟨hc, hs⟩, fun hc => hc.1⟩
    · simp only [List.mem_cons, forall_eq_or_imp, reduceCtorEq, false_iff, not_and]
      intro _ hs
      rw [ih.2 hs] at h
      cases h

theorem trimLeft_eq_nil_iff {s : List Char} : trimLeft s = [] ↔ ∀ c ∈ s, isBlank c = true := by
  induction s with
  | nil => simp [trimLeft]
  | cons c s ih =>
    by_cases hc : isBlank c = true
    · rw [trimLeft, List.dropWhile_cons_of_pos hc]
      exact ih.trans (by simp [hc])
    · simp [trimLeft, hc]

/-- The last character of a trimmed text is no blank. -/
theorem isBlank_getLast_trimRight {s : List Char} (h : trimRight s ≠ []) :
    isBlank ((trimRight s).getLast h) = false := by
  induction s with
  | nil => simp [trimRight] at h
  | cons c s ih =>
    have key : trimRight (c :: s) = match trimRight s with
      | [] => if isBlank c then [] else [c]
      | d :: r => c :: d :: r := rfl
    cases hs : trimRight s with
    | nil =>
      rw [hs] at key
      by_cases hc : isBlank c = true
      · simp [key, hc] at h
      · simp [key, hc]
    | cons d r =>
      rw [hs] at key
      simp only [key, List.getLast_cons_cons]
      have := ih (by simp [hs])
      simpa [hs] using this

/-- A text that does not end in a blank keeps everything. -/
theorem trimRight_eq_self {s : List Char} (h : ∀ c, s.getLast? = some c → isBlank c = false) :
    trimRight s = s := by
  induction s with
  | nil => rfl
  | cons c s ih =>
    cases s with
    | nil => simp [trimRight, h c (by simp)]
    | cons d s =>
      have := ih (fun x hx => h x (by simpa using hx))
      rw [trimRight, this]

/-- The first character of a text without leading blanks is no blank. -/
theorem isBlank_head_trimLeft {s : List Char} {c : Char} (h : (trimLeft s).head? = some c) :
    isBlank c = false := by
  have := List.head?_dropWhile_not isBlank s
  rw [trimLeft] at h
  simpa [h] using this

theorem trimLeft_eq_self {s : List Char} (h : ∀ c, s.head? = some c → isBlank c = false) :
    trimLeft s = s := by
  cases s with
  | nil => rfl
  | cons c s => simp [trimLeft, h c (by simp)]

theorem head?_trimRight {s : List Char} {c : Char} (h : (trimRight s).head? = some c) :
    s.head? = some c := by
  cases s with
  | nil => simp [trimRight] at h
  | cons d s =>
    have key : trimRight (d :: s) = match trimRight s with
      | [] => if isBlank d then [] else [d]
      | e :: r => d :: e :: r := rfl
    rw [key] at h
    cases hs : trimRight s with
    | nil =>
      by_cases hd : isBlank d = true <;> simp_all
    | cons e r => simp_all

/-- A text trims to nothing exactly when all of it is blank. -/
theorem trimChars_eq_nil_iff {s : List Char} : trimChars s = [] ↔ ∀ c ∈ s, isBlank c = true := by
  rw [trimChars, trimRight_eq_nil_iff]
  constructor
  · intro h
    rw [← trimLeft_eq_nil_iff]
    cases hs : trimLeft s with
    | nil => rfl
    | cons c r =>
      have h1 := h c (by simp [hs])
      have h2 := isBlank_head_trimLeft (s := s) (c := c) (by simp [hs])
      simp [h1] at h2
  · intro h c hc
    exact h c (List.dropWhile_sublist _ |>.mem hc)

/-- A trimmed text is its own trimming. -/
theorem trimChars_trimChars (s : List Char) : trimChars (trimChars s) = trimChars s := by
  have hl : trimLeft (trimChars s) = trimChars s :=
    trimLeft_eq_self fun c hc => isBlank_head_trimLeft (head?_trimRight hc)
  rw [trimChars, hl]
  refine trimRight_eq_self fun c hc => ?_
  have hne : trimRight (trimLeft s) ≠ [] := by
    intro hnil
    simp [trimChars, hnil] at hc
  have := isBlank_getLast_trimRight hne
  rw [trimChars, List.getLast?_eq_some_getLast hne] at hc
  cases hc
  exact this

@[simp] theorem toList_trim (s : String) : (trim s).toList = trimChars s.toList := by
  simp [trim]

theorem trim_trim (s : String) : trim (trim s) = trim s := by
  simp [trim, trimChars_trimChars]

end VendorLaunch.Text
