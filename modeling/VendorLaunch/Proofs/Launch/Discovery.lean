import VendorLaunch.Proofs.Launch.Planning

/-!
# Which candidate is found

A search checks the candidates one after the other (`Catalog.checks`), and the first check that does
not come out false decides (`Catalog.Decides`). When it is true the build of that position is found;
when it is a fault, so is the search (`Decides.outcome`). What stands behind that position plays no
part, whether it is there or cannot be looked at.

A missing binary is reported only when every check comes out false (`discover_eq_missing_iff`). The
report names all that was tried and where (`contains_message_missingBinary`).
-/

namespace VendorLaunch

/-- The message about a missing binary has the root and every triple in it. -/
theorem contains_message_missingBinary (triples : List String) (root : Path) :
    Text.contains root.render (Failure.missingBinary triples root).message = true ∧
      ∀ s ∈ triples, Text.contains s (Failure.missingBinary triples root).message = true := by
  unfold Failure.message
  dsimp only
  constructor
  · -- what is tried and the five parts of the explanation stand behind the root
    iterate 7 apply Text.contains_append_left
    exact Text.contains_append_right _ (Text.contains_self root.render)
  · intro s hs
    iterate 5 apply Text.contains_append_left
    exact Text.contains_append_right _ (Text.contains_joinWith ", " hs)

namespace Catalog

variable {c : Catalog} {t : FileTree} {root : Path} {triples : List String}

/-! ### The check that decides -/

/-- What the check of each candidate gives: whether its binary exists, or a fault. -/
def checks (c : Catalog) (t : FileTree) (root : Path) (triples : List String) :
    List (Except Fault Bool) :=
  triples.map fun s => (c.build root s).present t

theorem getElem?_checks {k : Nat} {triple : String} (h : triples[k]? = some triple) :
    (c.checks t root triples)[k]? = some ((c.build root triple).present t) := by
  rw [checks, List.getElem?_map, h, Option.map_some]

theorem forall_mem_checks {x : Except Fault Bool} :
    (∀ y ∈ c.checks t root triples, y = x) ↔ ∀ s ∈ triples, (c.build root s).present t = x :=
  List.forall_mem_map

/-- The check of the triple at position `k` is the first that does not come out false. -/
structure Decides (c : Catalog) (t : FileTree) (root : Path) (triples : List String) (k : Nat)
    (triple : String) : Prop where
  position : triples[k]? = some triple
  before : ∀ j < k, (c.checks t root triples)[j]? = some (.ok false)
  decides : (c.build root triple).present t ≠ .ok false

/-- Either every check comes out false, or one of them decides. -/
theorem exists_decides (c : Catalog) (t : FileTree) (root : Path) (triples : List String) :
    (∀ x ∈ c.checks t root triples, x = .ok false) ∨
      ∃ k triple, c.Decides t root triples k triple := by
  rcases exists_first c t root triples with habsent | ⟨before, triple, after, rfl, hbefore, hp⟩
  · exact Or.inl (forall_mem_checks.mpr habsent)
  · have hposition : (before ++ triple :: after)[before.length]? = some triple := by
      rw [List.getElem?_append_right (Nat.le_refl _), Nat.sub_self, List.getElem?_cons_zero]
    refine Or.inr ⟨before.length, triple, hposition, fun j hj => ?_, hp⟩
    have hj' : (before ++ triple :: after)[j]? = some before[j] := by
      rw [List.getElem?_append_left hj, List.getElem?_eq_getElem hj]
    rw [getElem?_checks hj', hbefore _ (List.getElem_mem hj)]

namespace Decides

variable {k : Nat} {triple : String} (h : c.Decides t root triples k triple)
include h

/-- A check that does not come out false stands nowhere before the one that decides. -/
theorem le {n : Nat} {x : Except Fault Bool} (hn : (c.checks t root triples)[n]? = some x)
    (hx : x ≠ .ok false) : k ≤ n := by
  refine Nat.le_of_not_lt fun hlt => hx ?_
  exact Option.some.inj (hn.symm.trans (h.before n hlt))

/-- So one that comes out in another way stands behind it. -/
theorem lt {n : Nat} {x y : Except Fault Bool} (hn : (c.checks t root triples)[n]? = some x)
    (hx : x ≠ .ok false) (hk : (c.checks t root triples)[k]? = some y) (hne : y ≠ x) : k < n := by
  refine Nat.lt_of_le_of_ne (h.le hn hx) ?_
  rintro rfl
  exact hne (Option.some.inj (hk.symm.trans hn))

theorem split : triples = triples.take k ++ triple :: triples.drop (k + 1) ∧
    ∀ s ∈ triples.take k, (c.build root s).present t = .ok false := by
  obtain ⟨hlt, rfl⟩ := List.getElem?_eq_some_iff.mp h.position
  refine ⟨?_, fun s hs => ?_⟩
  · rw [← List.drop_eq_getElem_cons hlt, List.take_append_drop]
  · obtain ⟨j, hj, rfl⟩ := List.mem_take_iff_getElem.mp hs
    have hj' : triples[j]? = some triples[j] := List.getElem?_eq_getElem (by omega)
    have hcheck := h.before j (by omega)
    rw [getElem?_checks hj'] at hcheck
    exact Option.some.inj hcheck

/-- Where the check that decides is true its build is found, and where it is a fault the search has
this fault. -/
theorem outcome :
    ((c.checks t root triples)[k]? = some (.ok true) ∧
      (c.discover t root triples).result = .ok (c.build root triple)) ∨
    ∃ f, (c.checks t root triples)[k]? = some (.error f) ∧
      (c.discover t root triples).result = .error (.fault f) := by
  obtain ⟨hsplit, hbefore⟩ := h.split
  rw [getElem?_checks h.position]
  cases hp : (c.build root triple).present t with
  | ok here =>
    cases here with
    | true =>
      exact Or.inl ⟨rfl, discoverFrom_eq_ok_iff.mpr ⟨_, triple, _, hsplit, hbefore, hp, rfl⟩⟩
    | false => exact absurd hp h.decides
  | error f =>
    exact Or.inr ⟨f, rfl, discoverFrom_eq_error_iff.mpr
      (Or.inr ⟨_, triple, _, f, hsplit, hbefore, hp, rfl⟩)⟩

end Decides

theorem discover_eq_missing_iff {ts : List String} {r : Path} :
    (c.discover t root triples).result = .error (.missingBinary ts r) ↔
      (∀ x ∈ c.checks t root triples, x = .ok false) ∧ ts = triples ∧ r = root := by
  rw [discover, discoverFrom_eq_error_iff, forall_mem_checks]
  constructor
  · rintro (⟨habsent, h⟩ | ⟨_, _, _, _, -, -, -, h⟩)
    · exact ⟨habsent, Failure.missingBinary.inj h⟩
    · cases h
  · rintro ⟨habsent, rfl, rfl⟩
    exact Or.inl ⟨habsent, rfl⟩

/-! ### What is found -/

/-- Where some binary exists and no candidate before it is a fault to look at, the search finds the
first build whose binary exists, whatever stands behind it. Where a candidate is a fault to look at
and no binary before it exists, the first such fault is that of the search. A missing binary is
reported exactly when no candidate has one and none is a fault to look at; the report holds all of
the triples in their order and the root, and its message has each of them in it. -/
theorem discover_first_existing (c : Catalog) (t : FileTree) (root : Path) (triples : List String) :
    (∀ n : Nat, (c.checks t root triples)[n]? = some (.ok true) →
      (∀ j < n, ∀ f, (c.checks t root triples)[j]? ≠ some (.error f)) →
      ∃ k ≤ n, ∃ triple, triples[k]? = some triple ∧
        (c.checks t root triples)[k]? = some (.ok true) ∧
        (∀ j < k, (c.checks t root triples)[j]? = some (.ok false)) ∧
        (c.discover t root triples).result = .ok (c.build root triple)) ∧
    (∀ (n : Nat) (f : Fault), (c.checks t root triples)[n]? = some (.error f) →
      (∀ j < n, (c.checks t root triples)[j]? ≠ some (.ok true)) →
      ∃ k ≤ n, ∃ g, (c.checks t root triples)[k]? = some (.error g) ∧
        (∀ j < k, (c.checks t root triples)[j]? = some (.ok false)) ∧
        (c.discover t root triples).result = .error (.fault g)) ∧
    ((∃ ts r, (c.discover t root triples).result = .error (.missingBinary ts r)) ↔
      ∀ x ∈ c.checks t root triples, x = .ok false) ∧
    ∀ ts r, (c.discover t root triples).result = .error (.missingBinary ts r) →
      ts = triples ∧ r = root ∧
      Text.contains root.render (Failure.missingBinary ts r).message = true ∧
      ∀ s ∈ triples, Text.contains s (Failure.missingBinary ts r).message = true := by
  refine ⟨fun n hn hclear => ?_, fun n f hn hmissed => ?_, ?_, fun ts r h => ?_⟩
  · rcases exists_decides c t root triples with habsent | ⟨k, triple, hd⟩
    · cases habsent _ (List.mem_of_getElem? hn)
    · rcases hd.outcome with ⟨hk, hresult⟩ | ⟨f, hk, -⟩
      · exact ⟨k, hd.le hn nofun, triple, hd.position, hk, hd.before, hresult⟩
      · exact absurd hk (hclear k (hd.lt hn nofun hk nofun) f)
  · rcases exists_decides c t root triples with habsent | ⟨k, triple, hd⟩
    · cases habsent _ (List.mem_of_getElem? hn)
    · rcases hd.outcome with ⟨hk, -⟩ | ⟨g, hk, hresult⟩
      · exact absurd hk (hmissed k (hd.lt hn nofun hk nofun))
      · exact ⟨k, hd.le hn nofun, g, hk, hd.before, hresult⟩
  · constructor
    · rintro ⟨ts, r, h⟩
      exact (discover_eq_missing_iff.mp h).1
    · intro habsent
      exact ⟨triples, root, discover_eq_missing_iff.mpr ⟨habsent, rfl, rfl⟩⟩
  · obtain ⟨-, rfl, rfl⟩ := discover_eq_missing_iff.mp h
    exact ⟨rfl, rfl, contains_message_missingBinary ts r⟩

/-- The glibc build, which is not there, the musl build, which is, and a name that is too long. -/
def muslOnlyTriples : List String :=
  ["x86_64-unknown-linux-gnu", "x86_64-unknown-linux-musl", String.ofList (List.replicate 256 'x')]

/-- The musl build is found, and the name behind it is not looked at. Without the two of them the
glibc build is reported to be missing. -/
theorem discover_first_existing_muslOnly :
    (packaged.discover Site.muslOnly.tree Site.muslOnlyRoot muslOnlyTriples).result =
        .ok Site.muslOnlyBuild ∧
      ∃ ts r, (packaged.discover Site.muslOnly.tree Site.muslOnlyRoot
          (muslOnlyTriples.take 1)).result = .error (.missingBinary ts r) ∧
        ts = ["x86_64-unknown-linux-gnu"] ∧ r = Site.muslOnlyRoot := by
  have hgnu : (packaged.checks Site.muslOnly.tree Site.muslOnlyRoot muslOnlyTriples)[0]? =
      some (.ok false) := by
    rw [getElem?_checks rfl, Site.absent_muslOnly]
  have hmusl : (packaged.checks Site.muslOnly.tree Site.muslOnlyRoot muslOnlyTriples)[1]? =
      some (.ok true) := by
    rw [getElem?_checks rfl, Site.build_muslOnly, Site.present_muslOnly]
  have hclear : ∀ j < 1, ∀ f,
      (packaged.checks Site.muslOnly.tree Site.muslOnlyRoot muslOnlyTriples)[j]? ≠
        some (.error f) := by
    intro j hj f
    obtain rfl : j = 0 := by omega
    rw [hgnu]
    exact nofun
  obtain ⟨hfirst, -⟩ := discover_first_existing packaged Site.muslOnly.tree Site.muslOnlyRoot
    muslOnlyTriples
  obtain ⟨-, -, hmissing, hreport⟩ := discover_first_existing packaged Site.muslOnly.tree
    Site.muslOnlyRoot (muslOnlyTriples.take 1)
  constructor
  · obtain ⟨k, hk, triple, hposition, hcheck, -, hresult⟩ := hfirst 1 hmusl hclear
    obtain rfl : k = 1 := by
      refine Nat.le_antisymm hk (Nat.pos_of_ne_zero ?_)
      rintro rfl
      cases hgnu.symm.trans hcheck
    obtain rfl : "x86_64-unknown-linux-musl" = triple := Option.some.inj hposition
    rw [hresult, Site.build_muslOnly]
  · have habsent : ∀ x ∈ packaged.checks Site.muslOnly.tree Site.muslOnlyRoot
        (muslOnlyTriples.take 1), x = .ok false :=
      forall_mem_checks.mpr fun s hs => List.mem_singleton.mp hs ▸ Site.absent_muslOnly
    obtain ⟨ts, r, h⟩ := hmissing.mpr habsent
    obtain ⟨hts, hr, -⟩ := hreport ts r h
    exact ⟨ts, r, h, hts, hr⟩

end Catalog

end VendorLaunch
