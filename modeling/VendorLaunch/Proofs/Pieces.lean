import VendorLaunch.Text.Blank
import VendorLaunch.Text.Split

/-!
# Pieces of texts

What cutting, joining and trimming do to each other, for a separator of one character. Cutting and
joining are inverse to each other: the pieces of a text make up the text (`joinChars_splitChars`),
and cutting what was joined gives the pieces of each part in turn (`splitChars_joinChars_flatMap`).
An empty piece comes from a separator at either end of the text or from two of them in a row
(`nil_mem_splitChars_iff`).

Blanks at the two ends of a text do not matter to its trimming (`trimChars_append`).
-/

namespace VendorLaunch.Text

/-! ### Cutting and joining -/

variable {x : Char} {s p : List Char} {ps qs : List (List Char)}

theorem splitChars_ne_nil (sep s : List Char) : splitChars sep s ≠ [] := splitFrom_ne_nil sep 0 s

theorem consHead_append (c : Char) (hne : ps ≠ []) : consHead c (ps ++ qs) = consHead c ps ++ qs := by
  cases ps with
  | nil => exact absurd rfl hne
  | cons p ps => rfl

/-- A text is cut at each of its separators. -/
theorem splitChars_append_cons (x : Char) (p s : List Char) :
    splitChars [x] (p ++ x :: s) = splitChars [x] p ++ splitChars [x] s := by
  induction p with
  | nil => rw [List.nil_append, splitChars_cons, if_pos rfl]; rfl
  | cons c p ih =>
    rw [List.cons_append, splitChars_cons, splitChars_cons, ih]
    by_cases hc : x = c
    · rw [if_pos hc, if_pos hc, List.cons_append]
    · rw [if_neg hc, if_neg hc, consHead_append c (splitChars_ne_nil [x] p)]

theorem joinChars_cons (sep p : List Char) (hne : ps ≠ []) :
    joinChars sep (p :: ps) = p ++ sep ++ joinChars sep ps := by
  cases ps with
  | nil => exact absurd rfl hne
  | cons q ps => rfl

theorem joinChars_consHead (sep : List Char) (c : Char) (ps : List (List Char)) :
    joinChars sep (consHead c ps) = c :: joinChars sep ps := by
  rcases ps with _ | ⟨p, _ | ⟨q, ps⟩⟩
  · rfl
  · rfl
  · rfl

/-- Cutting what was joined gives the pieces of each part in turn. -/
theorem splitChars_joinChars_flatMap (x : Char) (hne : ps ≠ []) :
    splitChars [x] (joinChars [x] ps) = ps.flatMap (splitChars [x]) := by
  induction ps with
  | nil => exact absurd rfl hne
  | cons p ps ih =>
    rw [List.flatMap_cons]
    by_cases hps : ps = []
    · rw [hps, List.flatMap_nil, List.append_nil]
      rfl
    · rw [joinChars_cons [x] p hps, List.append_assoc, List.singleton_append,
        splitChars_append_cons, ih hps]

/-- The pieces of a text make up the text. -/
theorem joinChars_splitChars (x : Char) (s : List Char) : joinChars [x] (splitChars [x] s) = s := by
  induction s with
  | nil => rfl
  | cons c s ih =>
    rw [splitChars_cons]
    by_cases hc : x = c
    · rw [if_pos hc, joinChars_cons [x] [] (splitChars_ne_nil [x] s), ih, hc]
      rfl
    · rw [if_neg hc, joinChars_consHead, ih]

/-- The pieces of a text are made of its characters, and the separator is in none of them. -/
theorem mem_of_mem_splitChars {c : Char} (hp : p ∈ splitChars [x] s) (hc : c ∈ p) :
    c ∈ s ∧ c ≠ x := by
  induction s generalizing p with
  | nil =>
    obtain rfl : p = [] := List.mem_singleton.mp hp
    cases hc
  | cons d s ih =>
    have htail : ∀ q ∈ splitChars [x] s, c ∈ q → c ∈ d :: s ∧ c ≠ x := fun q hq hcq =>
      (ih hq hcq).imp_left (List.mem_cons_of_mem d)
    rw [splitChars_cons] at hp
    split at hp
    · rcases List.mem_cons.mp hp with rfl | hp
      · cases hc
      · exact htail p hp hc
    · next hd =>
      cases hps : splitChars [x] s with
      | nil => exact absurd hps (splitChars_ne_nil [x] s)
      | cons q qs =>
        rw [hps] at hp htail
        rcases List.mem_cons.mp hp with rfl | hp
        · rcases List.mem_cons.mp hc with rfl | hc
          · exact ⟨List.mem_cons_self, Ne.symm hd⟩
          · exact htail q List.mem_cons_self hc
        · exact htail p (List.mem_cons_of_mem q hp) hc

theorem notMem_of_mem_splitChars (hp : p ∈ splitChars [x] s) : x ∉ p := fun hx =>
  (mem_of_mem_splitChars hp hx).2 rfl

/-! ### Empty pieces -/

/-- The first piece is empty when the text is, or begins with a separator. -/
theorem head?_splitChars_eq_nil_iff :
    (splitChars [x] s).head? = some [] ↔ s = [] ∨ s.head? = some x := by
  cases s with
  | nil => simp [splitChars, splitFrom]
  | cons c s =>
    rw [splitChars_cons]
    by_cases hc : x = c
    · simp [hc]
    · rw [if_neg hc]
      cases splitChars [x] s <;> simp [consHead, Ne.symm hc]

/-- A piece after the first one is empty when the text ends with a separator or has two of them in a
row. -/
theorem nil_mem_tail_splitChars_iff :
    [] ∈ (splitChars [x] s).tail ↔ s.getLast? = some x ∨ [x, x] <:+: s := by
  induction s with
  | nil => simp [splitChars, splitFrom]
  | cons c s ih =>
    have hpair : [x, x] <:+: c :: s ↔ x = c ∧ s.head? = some x ∨ [x, x] <:+: s := by
      rw [List.infix_cons_iff, List.cons_prefix_cons]
      cases s with
      | nil => simp
      | cons d s => simp [List.cons_prefix_cons, eq_comm]
    have hlast : (c :: s).getLast? = some x ↔ x = c ∧ s = [] ∨ s.getLast? = some x := by
      cases s with
      | nil => simp [eq_comm]
      | cons d s => simp
    rw [splitChars_cons, hpair, hlast]
    cases hps : splitChars [x] s with
    | nil => exact absurd hps (splitChars_ne_nil [x] s)
    | cons p ps =>
      rw [hps, List.tail_cons] at ih
      have hfirst : p = [] ↔ s = [] ∨ s.head? = some x := by
        rw [← head?_splitChars_eq_nil_iff (s := s), hps, List.head?_cons, Option.some.injEq]
      by_cases hc : x = c
      · rw [if_pos hc, List.tail_cons, List.mem_cons, ih, eq_comm, hfirst]
        grind
      · rw [if_neg hc, consHead, List.tail_cons, ih]
        grind

/-- An empty piece comes from a separator at an end of the text or from two of them in a row. -/
theorem nil_mem_splitChars_iff :
    [] ∈ splitChars [x] s ↔
      s = [] ∨ s.head? = some x ∨ s.getLast? = some x ∨ [x, x] <:+: s := by
  rw [← nil_mem_tail_splitChars_iff, ← or_assoc, ← head?_splitChars_eq_nil_iff]
  cases splitChars [x] s with
  | nil => simp
  | cons p ps => rw [List.mem_cons, List.head?_cons, List.tail_cons, Option.some.injEq, eq_comm]

/-! ### Trimming -/

/-- Trimming takes blanks away at both ends. -/
theorem exists_eq_trimChars (s : List Char) :
    ∃ l r, s = l ++ trimChars s ++ r ∧ (∀ c ∈ l, isBlank c = true) ∧ ∀ c ∈ r, isBlank c = true := by
  have hright : ∀ u : List Char, ∃ r, u = trimRight u ++ r ∧ ∀ c ∈ r, isBlank c = true := by
    intro u
    induction u with
    | nil => exact ⟨[], rfl, by simp⟩
    | cons c u ih =>
      obtain ⟨r, hu, hr⟩ := ih
      unfold trimRight
      cases ht : trimRight u with
      | nil =>
        rw [ht, List.nil_append] at hu
        by_cases hc : isBlank c = true
        · exact ⟨c :: u, by simp [hc], List.forall_mem_cons.mpr ⟨hc, hu ▸ hr⟩⟩
        · exact ⟨u, by simp [hc], hu ▸ hr⟩
      | cons d v =>
        rw [ht] at hu
        exact ⟨r, congrArg (c :: ·) hu, hr⟩
  obtain ⟨r, hr, hblank⟩ := hright (trimLeft s)
  refine ⟨s.takeWhile isBlank, r, ?_, List.all_eq_true.mp List.all_takeWhile, hblank⟩
  rw [trimChars, List.append_assoc, ← hr, trimLeft, List.takeWhile_append_dropWhile]

theorem trimRight_append {r : List Char} (hr : ∀ c ∈ r, isBlank c = true) (s : List Char) :
    trimRight (s ++ r) = trimRight s := by
  induction s with
  | nil => exact trimRight_eq_nil_iff.mpr hr
  | cons c s ih => rw [List.cons_append, trimRight, trimRight, ih]

/-- Blanks at the two ends of a text do not matter to its trimming. -/
theorem trimChars_append {l r : List Char} (hl : ∀ c ∈ l, isBlank c = true)
    (hr : ∀ c ∈ r, isBlank c = true) (s : List Char) : trimChars (l ++ s ++ r) = trimChars s := by
  have hleft : trimLeft (s ++ r) = if (trimLeft s).isEmpty then [] else trimLeft s ++ r := by
    rw [trimLeft, List.dropWhile_append, ← trimLeft, ← trimLeft, trimLeft_eq_nil_iff.mpr hr]
  rw [trimChars, List.append_assoc, trimLeft, List.dropWhile_append_of_pos hl, ← trimLeft, hleft,
    trimChars]
  split
  · next hempty => rw [List.isEmpty_iff.mp hempty]
  · exact trimRight_append hr _

/-- Blanks at the two ends of a text make no difference to its pieces when these are trimmed. -/
theorem map_trimChars_splitChars_append (hx : isBlank x = false) {l r : List Char}
    (hl : ∀ c ∈ l, isBlank c = true) (hr : ∀ c ∈ r, isBlank c = true) (s : List Char) :
    (splitChars [x] (l ++ s ++ r)).map trimChars = (splitChars [x] s).map trimChars := by
  have hblank : ∀ b : List Char, (∀ c ∈ b, isBlank c = true) → x ∉ b := fun b hb hmem => by
    rw [hb x hmem] at hx
    cases hx
  have hnil : ∀ c ∈ ([] : List Char), isBlank c = true := fun c hc => absurd hc List.not_mem_nil
  by_cases hs : x ∈ s
  · -- the blanks in front stay on the left of a separator, and those behind stay on its right
    obtain ⟨u, v, rfl⟩ := List.append_of_mem hs
    have hcut : l ++ (u ++ x :: v) ++ r = (l ++ u) ++ x :: (v ++ r) := by
      simp only [List.append_assoc, List.cons_append]
    have hu := map_trimChars_splitChars_append hx hl hnil u
    have hv := map_trimChars_splitChars_append hx hnil hr v
    rw [List.append_nil] at hu
    rw [List.nil_append] at hv
    rw [hcut, splitChars_append_cons, splitChars_append_cons, List.map_append, List.map_append, hu,
      hv]
  · have hall : x ∉ l ++ s ++ r := fun h =>
      (List.mem_append.mp h).elim (fun h => (List.mem_append.mp h).elim (hblank l hl) hs)
        (hblank r hr)
    rw [splitChars_of_notMem hs, splitChars_of_notMem hall, List.map_singleton, List.map_singleton,
      trimChars_append hl hr]
termination_by s.length

/-! ### On strings -/

/-- `trimChars_append` on strings. -/
theorem trim_append {l r : String} (hl : ∀ c ∈ l.toList, isBlank c = true)
    (hr : ∀ c ∈ r.toList, isBlank c = true) (s : String) : trim (l ++ s ++ r) = trim s := by
  rw [trim, String.toList_append, String.toList_append, trimChars_append hl hr, trim]

/-- Trimming a text makes no difference to its pieces when these are trimmed, too. -/
theorem map_trim_splitOn_trim {sep : String} (hsep : sep.toList = [x]) (hx : isBlank x = false)
    (s : String) : (splitOn sep (trim s)).map trim = (splitOn sep s).map trim := by
  have hchars : ∀ u : String, (splitOn sep u).map trim =
      ((splitChars [x] u.toList).map trimChars).map String.ofList := fun u => by
    rw [splitOn, hsep, List.map_map, List.map_map]
    exact List.map_congr_left fun p _ => by rw [Function.comp, trim, String.toList_ofList]; rfl
  obtain ⟨l, r, hs, hl, hr⟩ := exists_eq_trimChars s.toList
  rw [hchars, hchars, toList_trim, ← map_trimChars_splitChars_append hx hl hr, ← hs]

theorem splitOn_ne_nil (sep s : String) : splitOn sep s ≠ [] :=
  mt List.map_eq_nil_iff.mp (splitChars_ne_nil sep.toList s.toList)

variable {sep : String} (hsep : sep.toList = [x])
include hsep

/-- `splitChars_joinChars_flatMap` on strings. -/
theorem splitOn_joinWith_flatMap {ps : List String} (hne : ps ≠ []) :
    splitOn sep (joinWith sep ps) = ps.flatMap (splitOn sep) := by
  have hchars : ps.map String.toList ≠ [] := mt List.map_eq_nil_iff.mp hne
  have hsplit : splitOn sep = fun p => (splitChars [x] p.toList).map String.ofList := by
    funext p
    rw [splitOn, hsep]
  calc splitOn sep (joinWith sep ps)
      = (splitChars [x] (joinChars [x] (ps.map String.toList))).map String.ofList := by
        rw [splitOn, joinWith, hsep, String.toList_ofList]
    _ = ps.flatMap (splitOn sep) := by
        rw [splitChars_joinChars_flatMap x hchars, List.flatMap_map, List.map_flatMap, hsplit]

/-- `joinChars_splitChars` on strings. -/
theorem joinWith_splitOn (s : String) : joinWith sep (splitOn sep s) = s := by
  rw [joinWith, splitOn, hsep, List.map_map]
  simp only [Function.comp_def, String.toList_ofList, List.map_id', joinChars_splitChars,
    String.ofList_toList]

/-- `notMem_of_mem_splitChars` on strings. -/
theorem notMem_of_mem_splitOn {s p : String} (hp : p ∈ splitOn sep s) : x ∉ p.toList := by
  rw [splitOn, hsep] at hp
  obtain ⟨q, hq, rfl⟩ := List.mem_map.mp hp
  rw [String.toList_ofList]
  exact notMem_of_mem_splitChars hq

/-- `nil_mem_splitChars_iff` on strings. -/
theorem empty_mem_splitOn_iff {s : String} :
    "" ∈ splitOn sep s ↔
      s = "" ∨ startsWith sep s = true ∨ endsWith sep s = true ∨ contains (sep ++ sep) s = true := by
  have hmem : "" ∈ splitOn sep s ↔ [] ∈ splitChars [x] s.toList := by
    rw [splitOn, hsep, List.mem_map]
    constructor
    · rintro ⟨p, hp, hempty⟩
      rwa [String.ofList_eq_empty_iff.mp hempty] at hp
    · exact fun h => ⟨[], h, rfl⟩
  rw [hmem, nil_mem_splitChars_iff, String.toList_eq_nil_iff, startsWith, endsWith, contains_iff,
    String.toList_append, hsep, List.isPrefixOf_iff_prefix, List.isSuffixOf_iff_suffix,
    List.singleton_prefix_iff_head?_eq_some, List.singleton_suffix_iff_getLast?_eq_some]
  rfl

end VendorLaunch.Text
