import VendorLaunch.Environment

/-!
# Which package manager is guessed

Three things can show that bun has installed the launcher (`PackageManager.ShowsBun`): what the
package manager says of itself, the program it is, and the directory of the launcher. Of the first
it is not enough that it has `bun/` in it, for this can be the end of a longer word; but one place
where a word begins with it is enough, whatever stands before.

Nothing else is asked for bun, and without such a sign the guess is npm for a package manager that
says anything (`PackageManager.guess_by_signs`). A sign remains when more text follows, so bun
remains the guess (`PackageManager.ShowsBun.of_append`).
-/

namespace VendorLaunch.PackageManager

variable {env env' : Env} {dir : String}

/-- What the package manager says of itself; an absent variable is as good as an empty one. -/
def agentOf (env : Env) : String := (Table.find? "npm_config_user_agent" env).getD ""

/-- The program of the package manager. -/
def programOf (env : Env) : String := (Table.find? "npm_execpath" env).getD ""

/-- A text has `bun/` at its start, or after a character that is part of no word. -/
def NamesBun (agent : String) : Prop :=
  ∃ front rest, agent.toList = front ++ "bun/".toList ++ rest ∧
    ∀ c ∈ front.getLast?, Text.isWordChar c = false

/-- Something shows that bun has installed the launcher into a directory. -/
inductive ShowsBun (env : Env) (dir : String) : Prop where
  | agent : NamesBun (agentOf env) → ShowsBun env dir
  | program : "bun".toList <:+: (programOf env).toList → ShowsBun env dir
  /-- The directory is one of bun's. -/
  | directory : ".bun/install/global".toList <:+: dir.toList → ShowsBun env dir
  /-- The directory is one of bun's on Windows. -/
  | windows : ".bun\\install\\global".toList <:+: dir.toList → ShowsBun env dir

/-- The three tests of a guess look for the signs of bun. -/
theorem showsBun_iff :
    ShowsBun env dir ↔ Text.startsWordWith "bun/" (agentOf env) = true ∨
      Text.contains "bun" (programOf env) = true ∨
      (bunDirs.any fun d => Text.contains d dir) = true := by
  have hdirs : (bunDirs.any fun d => Text.contains d dir) = true ↔
      ".bun/install/global".toList <:+: dir.toList ∨
        ".bun\\install\\global".toList <:+: dir.toList := by
    simp only [bunDirs, List.any_cons, List.any_nil, Bool.or_false, Bool.or_eq_true,
      Text.contains_iff]
  rw [Text.startsWordWith_iff, Text.contains_iff, hdirs]
  constructor
  · rintro (h | h | h | h)
    · exact Or.inl h
    · exact Or.inr (Or.inl h)
    · exact Or.inr (Or.inr (Or.inl h))
    · exact Or.inr (Or.inr (Or.inr h))
  · rintro (h | h | h | h)
    · exact .agent h
    · exact .program h
    · exact .directory h
    · exact .windows h

theorem guess_eq (env : Env) (dir : String) :
    guess env dir = if Text.startsWordWith "bun/" (agentOf env) then .bun
      else if Text.contains "bun" (programOf env) then .bun
      else if bunDirs.any fun d => Text.contains d dir then .bun
      else if agentOf env != "" then .npm
      else .unknown := rfl

theorem guess_of_showsBun (h : ShowsBun env dir) : guess env dir = .bun := by
  rw [guess_eq]
  rcases showsBun_iff.mp h with h | h | h
  · rw [if_pos h]
  · rw [if_pos h, ite_self]
  · rw [if_pos h, ite_self, ite_self]

/-- Without a sign of bun the guess depends on whether the package manager says anything. -/
theorem guess_of_not_showsBun (h : ¬ShowsBun env dir) :
    guess env dir = if agentOf env != "" then .npm else .unknown := by
  rw [showsBun_iff, not_or, not_or] at h
  obtain ⟨hagent, hprogram, hdir⟩ := h
  rw [guess_eq, if_neg hagent, if_neg hprogram, if_neg hdir]

theorem guess_eq_bun_iff : guess env dir = .bun ↔ ShowsBun env dir := by
  by_cases h : ShowsBun env dir
  · exact iff_of_true (guess_of_showsBun h) h
  · rw [guess_of_not_showsBun h]
    refine iff_of_false (fun hbun => ?_) h
    split at hbun
    · cases hbun
    · cases hbun

theorem guess_eq_npm_iff : guess env dir = .npm ↔ ¬ShowsBun env dir ∧ agentOf env ≠ "" := by
  by_cases h : ShowsBun env dir
  · simp [guess_of_showsBun h, h]
  · simp [guess_of_not_showsBun h, h]

theorem guess_eq_unknown_iff : guess env dir = .unknown ↔ ¬ShowsBun env dir ∧ agentOf env = "" := by
  by_cases h : ShowsBun env dir
  · simp [guess_of_showsBun h, h]
  · simp [guess_of_not_showsBun h, h]

theorem NamesBun.append {agent : String} (h : NamesBun agent) (more : String) :
    NamesBun (agent ++ more) := by
  obtain ⟨front, rest, hagent, hfront⟩ := h
  refine ⟨front, rest ++ more.toList, ?_, hfront⟩
  rw [String.toList_append, hagent, List.append_assoc (front ++ _)]

/-- Text behind a part leaves the part where it is. -/
theorem infix_append {part s : String} (h : part.toList <:+: s.toList) (more : String) :
    part.toList <:+: (s ++ more).toList :=
  Text.contains_iff.mp (Text.contains_append_left (Text.contains_iff.mpr h) more)

/-- A sign of bun remains when text is appended to what it is found in. -/
theorem ShowsBun.of_append (h : ShowsBun env dir) {agent program : String}
    (hagent : agentOf env' = agentOf env ++ agent)
    (hprogram : programOf env' = programOf env ++ program) (more : String) :
    ShowsBun env' (dir ++ more) := by
  cases h with
  | agent h =>
    refine .agent ?_
    rw [hagent]
    exact h.append agent
  | program h =>
    refine .program ?_
    rw [hprogram]
    exact infix_append h program
  | directory h => exact .directory (infix_append h more)
  | windows h => exact .windows (infix_append h more)

/-- Bun is guessed just when something shows it. Without such a sign npm is guessed when the package
manager says something of itself, and nothing is known when it does not. So the guess depends on no
variable but the two, and text that is appended to them or to the directory never turns bun into
another guess. -/
theorem guess_by_signs (env : Env) (dir : String) :
    (guess env dir = .bun ↔ ShowsBun env dir) ∧
    (guess env dir = .npm ↔ ¬ShowsBun env dir ∧ agentOf env ≠ "") ∧
    (guess env dir = .unknown ↔ ¬ShowsBun env dir ∧ agentOf env = "") ∧
    (∀ env', (∀ name ∈ ["npm_config_user_agent", "npm_execpath"],
      Table.find? name env' = Table.find? name env) → guess env' dir = guess env dir) ∧
    ∀ env' agent program more, agentOf env' = agentOf env ++ agent →
      programOf env' = programOf env ++ program → guess env dir = .bun →
        guess env' (dir ++ more) = .bun := by
  refine ⟨guess_eq_bun_iff, guess_eq_npm_iff, guess_eq_unknown_iff, fun env' henv => ?_,
    fun env' agent program more hagent hprogram h => ?_⟩
  · have hagent : agentOf env' = agentOf env := by
      rw [agentOf, henv _ List.mem_cons_self, agentOf]
    have hprogram : programOf env' = programOf env := by
      rw [programOf, henv _ (List.mem_cons_of_mem _ List.mem_cons_self), programOf]
    rw [guess_eq, guess_eq, hagent, hprogram]
  · exact guess_of_showsBun ((guess_eq_bun_iff.mp h).of_append hagent hprogram more)

/-- An environment in which `bun/` ends two longer words before it begins one of its own. -/
def partialWords : Env := [("npm_config_user_agent", "ubun/1 _bun/2 (bun/3)"), ("HOME", "/root")]

/-- The third place decides, another home does not matter, and neither does what follows. With the
longer words alone the guess is npm. -/
theorem guess_by_signs_partialWords :
    guess partialWords "/opt" = .bun ∧
    guess [("npm_config_user_agent", "ubun/1 _bun/2 (bun/3)"), ("HOME", "/bun")] "/opt" = .bun ∧
    guess [("npm_config_user_agent", "ubun/1 _bun/2 (bun/3) npm/10"), ("npm_execpath", "npm")]
      "/opt/npm" = .bun ∧
    guess [("npm_config_user_agent", "ubun/1 _bun/2")] "/opt" = .npm ∧
    guess [] "/opt" = .unknown := by
  have hshows : ShowsBun partialWords "/opt" := showsBun_iff.mpr (Or.inl (by decide +kernel))
  have hlonger : ¬ShowsBun [("npm_config_user_agent", "ubun/1 _bun/2")] "/opt" :=
    mt showsBun_iff.mp (by decide)
  have hnothing : ¬ShowsBun [] "/opt" := mt showsBun_iff.mp (by decide)
  obtain ⟨hbun, -, -, hsame, happend⟩ := guess_by_signs partialWords "/opt"
  have hguess := hbun.mpr hshows
  exact ⟨hguess, (hsame _ (by decide)).trans hguess,
    happend _ " npm/10" "npm" "/npm" (by decide) (by decide) hguess,
    (guess_by_signs _ _).2.1.mpr ⟨hlonger, by decide⟩,
    (guess_by_signs _ _).2.2.1.mpr ⟨hnothing, by decide⟩⟩

end VendorLaunch.PackageManager
