import Mathlib.Data.List.Basic
import VendorLaunch.Environment
import VendorLaunch.Proofs.Launch.Planning
import VendorLaunch.Proofs.Pieces

/-!
# The environment that a child gets

The environment of the child differs from that of the launcher in two variables, the search path
and the marker (`Env.PreparedFrom`). The entries of the new search path are those of the helper
directory, if there is one, and behind them the entries of the old path that are not empty, all in
their order (`Build.environment_prepared`). A directory with the separator in its name counts as
more than one entry, and a path without entries is the empty text.

The system reads an empty entry as the current directory. A launcher that does not search it can
have a child that does (`Build.environment_searchesHere_iff`): an absent search path becomes the
empty text where there are no helpers, and the text of the helper directory can have an empty entry
of its own.
-/

namespace VendorLaunch

/-! ### Entries of a search path -/

/-- The entries of a search path in their order; a path without entries is the empty text. -/
def HasEntries (sep path : String) (entries : List String) : Prop :=
  if entries = [] then path = "" else Text.splitOn sep path = entries

theorem HasEntries.splitOn_eq {sep path : String} {entries : List String}
    (h : HasEntries sep path entries) (hne : entries ≠ []) : Text.splitOn sep path = entries := by
  rwa [HasEntries, if_neg hne] at h

/-- Cutting a path gives an empty entry when it has one, or when it has no entry at all. -/
theorem HasEntries.empty_mem_iff {sep path : String} {entries : List String}
    (h : HasEntries sep path entries) :
    "" ∈ Text.splitOn sep path ↔ entries = [] ∨ "" ∈ entries := by
  by_cases hnil : entries = []
  · rw [HasEntries, if_pos hnil] at h
    rw [h]
    exact iff_of_true List.mem_cons_self (Or.inl hnil)
  · rw [h.splitOn_eq hnil, or_iff_right hnil]

section

variable {x : Char} {sep : String} (hsep : sep.toList = [x])
include hsep

/-- An entry of a path has no separator in it. -/
theorem splitOn_of_mem_pathEntries {existing p : String} (hp : p ∈ pathEntries sep existing) :
    Text.splitOn sep p = [p] :=
  Text.splitOn_of_notMem hsep (Text.notMem_of_mem_splitOn hsep (List.mem_filter.mp hp).1)

/-- The entries of what is made of directories and a path are those of the directories, one after
the other, and the ones of the path that are not empty. -/
theorem hasEntries_searchEntries (dirs : List String) (existing : String) :
    HasEntries sep (searchEntries sep dirs existing)
      (dirs.flatMap (Text.splitOn sep) ++ pathEntries sep existing) := by
  have hentries : (pathEntries sep existing).flatMap (Text.splitOn sep) =
      pathEntries sep existing :=
    calc (pathEntries sep existing).flatMap (Text.splitOn sep)
        = (pathEntries sep existing).flatMap fun p => [p] :=
          List.flatMap_congr fun p hp => splitOn_of_mem_pathEntries hsep hp
      _ = pathEntries sep existing := List.flatMap_singleton' _
  have hcut : (dirs ++ pathEntries sep existing).flatMap (Text.splitOn sep) =
      dirs.flatMap (Text.splitOn sep) ++ pathEntries sep existing := by
    rw [List.flatMap_append, hentries]
  unfold HasEntries searchEntries
  by_cases hnone : dirs ++ pathEntries sep existing = []
  · rw [← hcut, hnone, if_pos List.flatMap_nil]
    rfl
  · rw [if_neg, Text.splitOn_joinWith_flatMap hsep hnone, hcut]
    rw [← hcut]
    intro hnil
    -- even an empty text is cut into one piece
    obtain ⟨p, hp⟩ := List.exists_mem_of_ne_nil _ hnone
    exact Text.splitOn_ne_nil sep p (List.flatMap_eq_nil_iff.mp hnil p hp)

end

/-! ### The two variables -/

/-- A variable of the child's environment. -/
theorem find?_environmentWith (dirs : List String) (base : Env) (manager : PackageManager)
    (name : String) :
    Table.find? name (environmentWith dirs base manager) =
      if name = managedByVar then some manager.name
      else if name = pathVar then
        some (searchEntries pathSeparator dirs ((Table.find? pathVar base).getD ""))
      else Table.find? name base := by
  rw [environmentWith, Table.find?_insert, Table.find?_insert]

/-- The environment is made of another one for a child with some helper directories. -/
structure Env.PreparedFrom (env base : Env) (dirs : List String) (manager : PackageManager) :
    Prop where
  /-- Every other variable is as it was, and is absent where it was absent. -/
  others : ∀ name, name ≠ pathVar → name ≠ managedByVar →
    Table.find? name env = Table.find? name base
  marker : Table.find? managedByVar env = some manager.name
  /-- The search path has the entries of the directories and those of the old path that are not
  empty. -/
  path : ∃ path, Table.find? pathVar env = some path ∧
    HasEntries pathSeparator path (dirs.flatMap (Text.splitOn pathSeparator) ++
      (Text.splitOn pathSeparator ((Table.find? pathVar base).getD "")).filter (· ≠ ""))

theorem preparedFrom_environmentWith (dirs : List String) (base : Env) (manager : PackageManager) :
    (environmentWith dirs base manager).PreparedFrom base dirs manager where
  others name hpath hmarker := by
    rw [find?_environmentWith, if_neg hmarker, if_neg hpath]
  marker := by rw [find?_environmentWith, if_pos rfl]
  path := by
    have hne : pathVar ≠ managedByVar := by decide
    refine ⟨_, by rw [find?_environmentWith, if_neg hne, if_pos rfl], ?_⟩
    exact hasEntries_searchEntries (x := ':') (by decide) _ _

/-- The helper directories of a build. -/
def Build.helperDirs (e : Build) (has : Bool) : List String := if has then [e.helpers.render] else []

theorem Build.environment_eq_ok {e : Build} {t : FileTree} {has : Bool} (h : e.hasHelpers t = .ok has)
    (base : Env) (manager : PackageManager) :
    e.environment t base manager = .ok (environmentWith (e.helperDirs has) base manager) := by
  rw [Build.environment, h]
  rfl

/-! ### What the child gets -/

/-- The child has no environment only when it cannot be seen whether there is a directory at the
path of the helpers. Otherwise its environment is that of the launcher but for two variables: the
marker names the package manager, and the search path has the entries of the helper directory, if
there is one, before the entries of the old path that are not empty. For any separator of one
character, any directories and any old path, the new path has the entries of the directories before
those of the old path that are not empty, and is the empty text when there are neither. -/
theorem Build.environment_prepared (e : Build) (t : FileTree) (base : Env)
    (manager : PackageManager) :
    (∀ f, e.environment t base manager = .error f ↔ t.isDirectory e.helpers = .error f) ∧
    (∀ has, t.isDirectory e.helpers = .ok has → ∃ env, e.environment t base manager = .ok env ∧
      env.PreparedFrom base (e.helperDirs has) manager) ∧
    ∀ (x : Char) (dirs : List String) (existing : String), ∃ path,
      searchPath (String.singleton x) dirs existing = .ok path ∧
      HasEntries (String.singleton x) path (dirs.flatMap (Text.splitOn (String.singleton x)) ++
        (Text.splitOn (String.singleton x) existing).filter (· ≠ "")) := by
  refine ⟨fun f => environment_eq_error_iff, fun has hhas => ?_, fun x dirs existing => ?_⟩
  · exact ⟨_, environment_eq_ok hhas base manager, preparedFrom_environmentWith _ base manager⟩
  · have hsep : (String.singleton x).toList = [x] := String.toList_singleton x
    have hne : String.singleton x ≠ "" := fun h => by
      rw [h] at hsep
      cases hsep
    exact ⟨_, if_neg hne, hasEntries_searchEntries hsep dirs existing⟩

/-- The triple of the helpers below. -/
def helperTriple : String := "x86_64-unknown-linux-musl"

/-- A tree in which a directory of the root has helper executables for one triple. -/
def helperTree (name : String) : FileTree where
  current := []
  nodes := [([name], .directory), ([name, helperTriple], .directory),
    ([name, helperTriple, "path"], .directory)]

/-- The build that the helpers belong to. -/
def helperBuild (name : String) : Build := Catalog.packaged.build ⟨.root, [name]⟩ helperTriple

/-- An environment with a marker, and with a search path that has empty entries. -/
def markedEnv : Env :=
  [("PATH", ":/usr/bin::/bin"), ("HOME", "/root"), ("CODEX_INFINITE_MANAGED_BY", "npm")]

/-- The directory of the helpers has a colon in its name and makes two entries; of the old path the
empty entries are dropped, and the old marker is replaced. Where the directory is not there, the
entries of the old path are left. -/
theorem Build.environment_prepared_twoEntries :
    (∃ env path, (helperBuild "a:b").environment (helperTree "a:b") markedEnv .bun = .ok env ∧
      Table.find? "HOME" env = some "/root" ∧
      Table.find? "CODEX_INFINITE_MANAGED_BY" env = some "bun" ∧
      Table.find? "PATH" env = some path ∧
      Text.splitOn ":" path = ["/a", "b/x86_64-unknown-linux-musl/path", "/usr/bin", "/bin"]) ∧
    ∃ env path, (helperBuild "a:b").environment (helperTree "c") markedEnv .bun = .ok env ∧
      Table.find? "PATH" env = some path ∧ Text.splitOn ":" path = ["/usr/bin", "/bin"] := by
  have hold : (Text.splitOn pathSeparator ((Table.find? pathVar markedEnv).getD "")).filter
      (· ≠ "") = ["/usr/bin", "/bin"] := by rfl
  constructor
  · have hhas : (helperBuild "a:b").hasHelpers (helperTree "a:b") = .ok true :=
      hasHelpers_of_glance (by rfl)
    have hdirs : ((helperBuild "a:b").helperDirs true).flatMap (Text.splitOn pathSeparator) =
        ["/a", "b/x86_64-unknown-linux-musl/path"] := by rfl
    obtain ⟨-, hprepared, -⟩ :=
      environment_prepared (helperBuild "a:b") (helperTree "a:b") markedEnv .bun
    obtain ⟨env, henv, h⟩ := hprepared true hhas
    obtain ⟨path, hpath, hentries⟩ := h.path
    rw [hdirs, hold] at hentries
    exact ⟨env, path, henv, h.others "HOME" (by decide) (by decide), h.marker, hpath,
      hentries.splitOn_eq (List.cons_ne_nil _ _)⟩
  · have hhas : (helperBuild "a:b").hasHelpers (helperTree "c") = .ok false :=
      hasHelpers_of_glance (by rfl)
    obtain ⟨-, hprepared, -⟩ :=
      environment_prepared (helperBuild "a:b") (helperTree "c") markedEnv .bun
    obtain ⟨env, henv, h⟩ := hprepared false hhas
    obtain ⟨path, hpath, hentries⟩ := h.path
    rw [hold] at hentries
    exact ⟨env, path, henv, hpath, hentries.splitOn_eq (List.cons_ne_nil _ _)⟩

/-! ### The current directory -/

theorem Path.render_ne_empty (p : Path) : p.render ≠ "" := by
  unfold Path.render
  dsimp only
  split
  · decide
  · next h => exact h

/-- The search path of an environment has an empty entry, which stands for the current directory. A
path that is absent has none. -/
def Env.SearchesHere (env : Env) : Prop :=
  ∃ path, Table.find? pathVar env = some path ∧ "" ∈ Text.splitOn pathSeparator path

theorem Env.PreparedFrom.searchesHere_iff {env base : Env} {dirs : List String}
    {manager : PackageManager} (h : env.PreparedFrom base dirs manager) :
    env.SearchesHere ↔
      (dirs = [] ∧ pathEntries pathSeparator ((Table.find? pathVar base).getD "") = []) ∨
        ∃ d ∈ dirs, "" ∈ Text.splitOn pathSeparator d := by
  obtain ⟨path, hpath, hentries⟩ := h.path
  have hempty : "" ∉ pathEntries pathSeparator ((Table.find? pathVar base).getD "") := fun hmem =>
    absurd rfl (of_decide_eq_true (List.mem_filter.mp hmem).2)
  have hcut : dirs.flatMap (Text.splitOn pathSeparator) = [] ↔ dirs = [] := by
    rw [List.flatMap_eq_nil_iff, List.eq_nil_iff_forall_not_mem]
    exact forall_congr' fun d => imp_congr_right fun _ => iff_false_intro (Text.splitOn_ne_nil _ d)
  have hhere : env.SearchesHere ↔ "" ∈ Text.splitOn pathSeparator path := by
    constructor
    · rintro ⟨path', hpath', hmem⟩
      rwa [Option.some.inj (hpath.symm.trans hpath')]
    · exact fun hmem => ⟨path, hpath, hmem⟩
  rw [hhere, hentries.empty_mem_iff, List.append_eq_nil_iff, hcut, List.mem_append,
    List.mem_flatMap]
  exact or_congr_right (or_iff_left hempty)

/-- The path of a launcher that does not search the current directory has entries, unless it is
absent. -/
theorem pathEntries_eq_nil_iff {base : Env} (hbase : ¬base.SearchesHere) :
    pathEntries pathSeparator ((Table.find? pathVar base).getD "") = [] ↔
      Table.find? pathVar base = none := by
  cases hfind : Table.find? pathVar base with
  | none => exact iff_of_true (by decide) rfl
  | some old =>
    refine iff_of_false (fun hnil => ?_) nofun
    obtain ⟨p, hp⟩ := List.exists_mem_of_ne_nil _ (Text.splitOn_ne_nil pathSeparator old)
    have hblank : p = "" := by simpa using List.filter_eq_nil_iff.mp hnil p hp
    exact hbase ⟨old, hfind, hblank ▸ hp⟩

/-- Where the launcher does not search the current directory, the child does just in two cases:
there are no helpers and the search path is absent, for then it becomes the empty text; or the text
of the helper directory begins or ends with a colon or has two of them in a row. -/
theorem Build.environment_searchesHere_iff {e : Build} {t : FileTree} {base : Env} {has : Bool}
    (hhas : e.hasHelpers t = .ok has) (hbase : ¬base.SearchesHere) (manager : PackageManager) :
    ∃ env, e.environment t base manager = .ok env ∧
      (env.SearchesHere ↔
        (has = false ∧ Table.find? pathVar base = none) ∨
        (has = true ∧ (Text.startsWith ":" e.helpers.render = true ∨
          Text.endsWith ":" e.helpers.render = true ∨
          Text.contains "::" e.helpers.render = true))) := by
  have hprepared := preparedFrom_environmentWith (e.helperDirs has) base manager
  refine ⟨_, environment_eq_ok hhas base manager, ?_⟩
  rw [hprepared.searchesHere_iff, pathEntries_eq_nil_iff hbase]
  cases has with
  | false => simp [helperDirs]
  | true =>
    have hempty : "" ∈ Text.splitOn pathSeparator e.helpers.render ↔
        e.helpers.render = "" ∨ Text.startsWith ":" e.helpers.render = true ∨
          Text.endsWith ":" e.helpers.render = true ∨
          Text.contains (":" ++ ":") e.helpers.render = true :=
      Text.empty_mem_splitOn_iff (x := ':') (by decide)
    have hcolons : ":" ++ ":" = "::" := by decide
    rw [or_iff_right e.helpers.render_ne_empty, hcolons] at hempty
    simpa [helperDirs] using hempty

/-- A directory with two colons in its name makes the child search the current directory. -/
theorem Build.environment_searchesHere_iff_twoColons :
    ∃ env, (helperBuild "a::b").environment (helperTree "a::b") [("PATH", "/bin")] .npm = .ok env ∧
      env.SearchesHere := by
  have hhas : (helperBuild "a::b").hasHelpers (helperTree "a::b") = .ok true :=
    hasHelpers_of_glance (by rfl)
  have hbase : ¬Env.SearchesHere [("PATH", "/bin")] := by
    rintro ⟨path, hpath, hmem⟩
    obtain rfl := Option.some.inj hpath
    exact absurd hmem (by decide)
  obtain ⟨env, henv, hiff⟩ := environment_searchesHere_iff hhas hbase .npm
  exact ⟨env, henv, hiff.mpr (Or.inr ⟨rfl, Or.inr (Or.inr (by rfl))⟩)⟩

/-- A launcher that does not search the current directory can have a child that does: without
helpers an absent search path becomes the empty text. -/
theorem Build.not_forall_searchesHere :
    ¬∀ (e : Build) (t : FileTree) (base env : Env) (manager : PackageManager),
      ¬base.SearchesHere → e.environment t base manager = .ok env → ¬env.SearchesHere := by
  intro h
  have hbase : ¬Env.SearchesHere [] := by
    rintro ⟨path, hpath, -⟩
    cases hpath
  have henv := Site.environment_muslOnly (r := Site.muslOnlyRequest []) rfl
  exact h _ _ _ _ _ hbase henv ⟨"", rfl, List.mem_cons_self⟩

end VendorLaunch
