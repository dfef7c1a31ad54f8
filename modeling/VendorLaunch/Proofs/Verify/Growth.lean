import VendorLaunch.Proofs.Verify.Requested

/-!
# Trees that grow

What happens when binaries are added to a tree (`Catalog.Grows`). More labels are present and fewer
are missing, for each is a filter of the same groups. A search finds something at the same place or
earlier, for nothing before that place is lost (`Grows.foundAt`).

That a platform which could be served still can is another matter: the build that is found earlier
may be one that the C library refuses. With the packaged catalog it is not. Where the glibc build is
refused the musl build comes first, so the glibc build is found only where the musl build is absent,
and there it was found and refused before (`Grows.select_packaged`).
-/

namespace VendorLaunch.Catalog

variable {c : Catalog} {root : Path} {t t' : FileTree} {triples : List String}

/-- Of each of the triples it can be seen in both trees whether its binary is there, and what is
there in the first tree is there in the second. -/
structure Grows (c : Catalog) (root : Path) (t t' : FileTree) (triples : List String) : Prop where
  before : c.Seen t root triples
  after : c.Seen t' root triples
  keeps : ∀ triple ∈ triples, (c.build root triple).present t = .ok true →
    (c.build root triple).present t' = .ok true

theorem Grows.of_subset (h : c.Grows root t t' triples) {some : List String}
    (hsub : ∀ triple ∈ some, triple ∈ triples) : c.Grows root t t' some :=
  ⟨fun s hs => h.before s (hsub s hs), fun s hs => h.after s (hsub s hs),
    fun s hs => h.keeps s (hsub s hs)⟩

/-- What is absent in the second tree is absent in the first. -/
theorem Grows.absent (h : c.Grows root t t' triples) {triple : String} (hmem : triple ∈ triples)
    (habsent : (c.build root triple).present t' = .ok false) :
    (c.build root triple).present t = .ok false := by
  obtain ⟨here, hhere⟩ := h.before triple hmem
  cases here with
  | false => exact hhere
  | true =>
    rw [h.keeps triple hmem hhere] at habsent
    cases habsent

theorem Grows.hasSome (h : c.Grows root t t' triples) (hsome : c.hasSome t root triples = true) :
    c.hasSome t' root triples = true := by
  obtain ⟨triple, hmem, hp⟩ := hasSome_iff.mp hsome
  exact hasSome_iff.mpr ⟨triple, hmem, h.keeps triple hmem hp⟩

/-! ### Reports -/

/-- A stronger filter leaves a sublist. -/
theorem filter_sublist_filter {α : Type} {p q : α → Bool} {as : List α}
    (h : ∀ a ∈ as, p a = true → q a = true) : (as.filter p).Sublist (as.filter q) := by
  have hpq : as.filter p = (as.filter q).filter p := by
    rw [List.filter_filter]
    refine List.filter_congr fun a ha => ?_
    cases hp : p a with
    | true => rw [h a ha hp, Bool.and_self]
    | false => rfl
  rw [hpq]
  exact List.filter_sublist

section

variable {groups : List Group} (h : ∀ g ∈ groups, c.Grows root t t' g.triples)
include h

theorem presentLabels_sublist :
    (c.presentLabels t root groups).Sublist (c.presentLabels t' root groups) :=
  (filter_sublist_filter fun g hg => (h g hg).hasSome).map Group.label

theorem missingLabels_sublist :
    (c.missingLabels t' root groups).Sublist (c.missingLabels t root groups) := by
  refine (filter_sublist_filter fun g hg hmissing => ?_).map Group.label
  rw [Bool.not_eq_true'] at hmissing ⊢
  cases hsome : c.hasSome t root g.triples with
  | false => rfl
  | true =>
    rw [(h g hg).hasSome hsome] at hmissing
    cases hmissing

end

/-- The second report says at least as much is present and no more is missing. -/
structure NoWorse (r r' : Report) : Prop where
  ok : r.ok = true → r'.ok = true
  present : r.present.Sublist r'.present
  missing : r'.missing.Sublist r.missing

theorem noWorse_groupReport {groups : List Group} (h : ∀ g ∈ groups, c.Grows root t t' g.triples)
    (mode : Mode) :
    NoWorse (c.groupReport t root mode groups) (c.groupReport t' root mode groups) := by
  refine ⟨fun hok => ?_, presentLabels_sublist h, missingLabels_sublist h⟩
  rw [groupReport_ok_iff] at hok ⊢
  exact fun g hg => (h g hg).hasSome (hok g hg)

theorem noWorse_anyReport (h : c.Grows root t t' c.triples) :
    NoWorse (c.anyReport t root) (c.anyReport t' root) := by
  refine ⟨h.hasSome, filter_sublist_filter fun triple hmem hthere => ?_, List.Sublist.refl _⟩
  exact Build.isThere_iff.mpr (h.keeps triple hmem (Build.isThere_iff.mp hthere))

/-- Growing makes no verification worse. -/
theorem Grows.verify (h : c.Grows root t t' c.triples) (s : Selection) :
    (∃ unknown valid,
      (c.verify t root s).result = .error (.unknownGroup unknown valid) ∧
      (c.verify t' root s).result = .error (.unknownGroup unknown valid)) ∨
    ∃ r r', (c.verify t root s).result = .ok r ∧ (c.verify t' root s).result = .ok r' ∧
      NoWorse r r' := by
  by_cases hmode : s.mode = .any
  · exact Or.inr ⟨_, _, verify_any_of_seen hmode h.before, verify_any_of_seen hmode h.after,
      noWorse_anyReport h⟩
  · cases hrequired : c.required s with
    | error e =>
      obtain rfl := required_eq_error hrequired
      refine Or.inl ⟨s.labels.filter fun l => (c.group? l).isNone, c.labels, ?_, ?_⟩
      · rw [verify_of_refused hmode hrequired]
        rfl
      · rw [verify_of_refused hmode hrequired]
        rfl
    | ok groups =>
      have hgroups : ∀ g ∈ groups, c.Grows root t t' g.triples := fun g hg =>
        h.of_subset fun triple hmem =>
          mem_triples_iff.mpr ⟨g, (sublist_of_required hrequired).subset hg, hmem⟩
      exact Or.inr ⟨_, _, verify_of_seen hmode hrequired fun g hg => (hgroups g hg).before,
        verify_of_seen hmode hrequired fun g hg => (hgroups g hg).after,
        noWorse_groupReport hgroups s.mode⟩

/-! ### Searches -/

/-- The build is that of the triple at position `i`, and its binary is the first that is there. -/
def FoundAt (c : Catalog) (t : FileTree) (root : Path) (triples : List String) (i : Nat)
    (b : Build) : Prop :=
  ∃ triple, triples[i]? = some triple ∧ b = c.build root triple ∧
    (c.build root triple).present t = .ok true ∧
    ∀ s ∈ triples.take i, (c.build root s).present t = .ok false

/-- A search that finds something finds it at some position. -/
theorem discover_eq_ok_iff {b : Build} :
    (c.discover t root triples).result = .ok b ↔ ∃ i, c.FoundAt t root triples i b := by
  rw [discover, discoverFrom_eq_ok_iff]
  constructor
  · rintro ⟨before, triple, after, rfl, hbefore, hp, rfl⟩
    refine ⟨before.length, triple, by simp, rfl, hp, ?_⟩
    rw [List.take_left]
    exact hbefore
  · rintro ⟨i, triple, hi, rfl, hp, hbefore⟩
    obtain ⟨hlt, rfl⟩ := List.getElem?_eq_some_iff.mp hi
    refine ⟨triples.take i, triples[i], triples.drop (i + 1), ?_, hbefore, hp, rfl⟩
    rw [← List.drop_eq_getElem_cons hlt, List.take_append_drop]

/-- In a tree that has grown something is found at the same position or an earlier one. -/
theorem Grows.foundAt (h : c.Grows root t t' triples) {i : Nat} {b : Build}
    (hfound : c.FoundAt t root triples i b) : ∃ j ≤ i, ∃ b', c.FoundAt t' root triples j b' := by
  obtain ⟨triple, hi, -, hp, -⟩ := hfound
  have hmem : triple ∈ triples := List.mem_of_getElem? hi
  have hthere := h.keeps triple hmem hp
  cases hdiscover : (c.discover t' root triples).result with
  | ok b' =>
    obtain ⟨j, hfound'⟩ := discover_eq_ok_iff.mp hdiscover
    obtain ⟨-, -, -, -, habsent⟩ := id hfound'
    refine ⟨j, Nat.le_of_not_lt fun hlt => ?_, b', hfound'⟩
    -- what was found at `i` is there, so it cannot stand before what is found now
    have htake : triple ∈ triples.take j := by
      refine List.mem_of_getElem? (i := i) ?_
      rw [List.getElem?_take_of_lt hlt, hi]
    rw [habsent triple htake] at hthere
    cases hthere
  | error e =>
    rcases discoverFrom_eq_error_iff.mp hdiscover with ⟨habsent, -⟩ | ⟨_, s, _, f, hsplit, -, hf, -⟩
    · rw [habsent triple hmem] at hthere
      cases hthere
    · exact absurd hf (h.after.present_ne_error (hsplit ▸ by simp) f)

/-! ### The packaged catalog -/

/-- A platform that the packaged catalog has a build for keeps having one. -/
theorem Grows.select_packaged {key : Platform} {rule : Rule}
    (hrule : packaged.rule? key.osFamily key.arch = some rule)
    (h : packaged.Grows root t t' (rule.triplesFor key.libc)) {b : Build}
    (hb : (packaged.select t root key).result = .ok b) :
    ∃ b', (packaged.select t' root key).result = .ok b' := by
  obtain ⟨triples, hres, hdisc, hload⟩ := select_eq_ok_iff.mp hb
  obtain ⟨rule', hrule', rfl⟩ := resolve_eq_ok_iff.mp hres
  obtain rfl := Option.some.inj (hrule.symm.trans hrule')
  obtain ⟨i, hfound⟩ := discover_eq_ok_iff.mp hdisc
  obtain ⟨j, -, b', hfound'⟩ := h.foundAt hfound
  have hdisc' := discover_eq_ok_iff.mpr ⟨j, hfound'⟩
  by_cases hun : Unloadable key b'
  · -- the glibc build is found where it cannot be loaded: the musl build is absent
    have hrefused := select_eq_incompatible_iff.mpr ⟨_, b', hres, hdisc', hun, rfl⟩
    obtain ⟨hos, hlibc, rule', musl, hrule', hgnu, hmusl, habsent, -⟩ :=
      select_packaged_eq_incompatible_iff.mp hrefused
    obtain rfl := Option.some.inj (hrule.symm.trans hrule')
    obtain ⟨gnu', musl', hpair⟩ := isPair_of_packaged hrule hos
    obtain rfl : gnu' = b'.triple := Option.some.inj (hpair.gnu_eq.symm.trans hgnu)
    obtain rfl : musl' = musl := Option.some.inj (hpair.musl_eq.symm.trans hmusl)
    have htriples : rule.triplesFor key.libc = [musl', b'.triple] := by
      rw [hpair.triplesFor, if_neg hlibc]
    rw [htriples] at h hfound
    have hbefore := h.absent List.mem_cons_self habsent
    obtain ⟨triple, hi, -, hp, -⟩ := hfound
    -- so it was absent before, and the same glibc build was found and refused
    have hgnuThere : (packaged.build root b'.triple).present t = .ok true := by
      rcases List.mem_cons.mp (List.mem_of_getElem? hi) with rfl | hmem
      · rw [hbefore] at hp
        cases hp
      · exact List.mem_singleton.mp hmem ▸ hp
    have hwas := select_packaged_eq_incompatible_iff.mpr
      ⟨hos, hlibc, rule, musl', hrule, hgnu, hmusl, hbefore, hgnuThere⟩
    rw [hb] at hwas
    cases hwas
  · exact ⟨b', select_eq_ok_iff.mpr ⟨_, hres, hdisc', ensureLoadable_eq_ok_iff.mpr hun⟩⟩

/-- Growing makes nothing worse. A verification is refused on both trees or on neither; otherwise it
is in order on the second tree if it is on the first, what is present on the first is present on
the second, and what is missing on the second is missing on the first. A search that finds something
finds something at the same position or an earlier one. And with the packaged catalog a platform
that there is a build for keeps having one. -/
theorem grows_serves (root : Path) (t t' : FileTree) :
    (∀ c : Catalog, c.Grows root t t' c.triples → ∀ s,
      (∃ unknown valid,
        (c.verify t root s).result = .error (.unknownGroup unknown valid) ∧
        (c.verify t' root s).result = .error (.unknownGroup unknown valid)) ∨
      ∃ r r', (c.verify t root s).result = .ok r ∧ (c.verify t' root s).result = .ok r' ∧
        (r.ok = true → r'.ok = true) ∧ r.present.Sublist r'.present ∧
        r'.missing.Sublist r.missing) ∧
    (∀ (c : Catalog) (triples : List String), c.Grows root t t' triples → ∀ b,
      (c.discover t root triples).result = .ok b →
      ∃ i j b', c.FoundAt t root triples i b ∧ c.FoundAt t' root triples j b' ∧ j ≤ i ∧
        (c.discover t' root triples).result = .ok b') ∧
    (∀ key : Platform, (∀ rule, packaged.rule? key.osFamily key.arch = some rule →
        packaged.Grows root t t' (rule.triplesFor key.libc)) → ∀ b,
      (packaged.select t root key).result = .ok b →
      ∃ b', (packaged.select t' root key).result = .ok b') := by
  refine ⟨fun c h s => ?_, fun c triples h b hb => ?_, fun key h b hb => ?_⟩
  · rcases h.verify s with hrefused | ⟨r, r', hr, hr', hno⟩
    · exact Or.inl hrefused
    · exact Or.inr ⟨r, r', hr, hr', hno.ok, hno.present, hno.missing⟩
  · obtain ⟨i, hfound⟩ := discover_eq_ok_iff.mp hb
    obtain ⟨j, hle, b', hfound'⟩ := h.foundAt hfound
    exact ⟨i, j, b', hfound, hfound', hle, discover_eq_ok_iff.mpr ⟨j, hfound'⟩⟩
  · obtain ⟨triples, hres, -, -⟩ := select_eq_ok_iff.mp hb
    obtain ⟨rule, hrule, -⟩ := resolve_eq_ok_iff.mp hres
    exact (h rule hrule).select_packaged hrule hb

/-- The whole tree with a glibc build beside the musl build. -/
def glibcTree : FileTree :=
  { wholeTree with
    nodes := wholeTree.nodes ++ [(["x86_64-unknown-linux-gnu"], .directory),
      (["x86_64-unknown-linux-gnu", "codex"], .directory),
      (["x86_64-unknown-linux-gnu", "codex", "codex"], .file [])] }

/-- A system with glibc, on which the added build takes the place of the musl build. -/
def glibcKey : Platform := ⟨"linux", "x64", some .gnu⟩

/-- The groups pass the same verification on both trees, on both a build for the system is found,
and the system is served from both. -/
theorem grows_serves_glibc :
    (∃ r r', (twins.verify wholeTree wholeRoot ⟨.override, ["mac"]⟩).result = .ok r ∧
      (twins.verify glibcTree wholeRoot ⟨.override, ["mac"]⟩).result = .ok r' ∧ r.ok = true ∧
      r'.ok = true) ∧
    (∃ i j b', packaged.FoundAt wholeTree wholeRoot
        ["x86_64-unknown-linux-gnu", "x86_64-unknown-linux-musl"] i
        (packaged.build wholeRoot "x86_64-unknown-linux-musl") ∧
      packaged.FoundAt glibcTree wholeRoot
        ["x86_64-unknown-linux-gnu", "x86_64-unknown-linux-musl"] j b' ∧ j ≤ i) ∧
    ∃ b', (packaged.select wholeTree wholeRoot glibcKey).result =
        .ok (packaged.build wholeRoot "x86_64-unknown-linux-musl") ∧
      (packaged.select glibcTree wholeRoot glibcKey).result = .ok b' := by
  have hglance : ∀ triple ∈ twins.triples, glibcTree.glance (fun _ => true)
      (twins.build wholeRoot triple).binary = some (["x86_64-unknown-linux-gnu",
        "x86_64-unknown-linux-musl", "aarch64-apple-darwin"].contains triple) := by decide +kernel
  have hafter := fun triple hmem => Build.present_of_glance (hglance triple hmem)
  have hgrows : twins.Grows wholeRoot wholeTree glibcTree twins.triples := by
    refine ⟨fun triple hmem => ⟨_, present_twins triple hmem⟩,
      fun triple hmem => ⟨_, hafter triple hmem⟩, fun triple hmem hp => ?_⟩
    rw [present_twins triple hmem] at hp
    rw [hafter triple hmem, List.contains_cons, Except.ok.inj hp, Bool.or_true]
  -- the packaged catalog has its builds at the same places
  have hpair : packaged.Grows wholeRoot wholeTree glibcTree
      ["x86_64-unknown-linux-gnu", "x86_64-unknown-linux-musl"] :=
    have h : twins.Grows wholeRoot wholeTree glibcTree
        ["x86_64-unknown-linux-gnu", "x86_64-unknown-linux-musl"] := hgrows.of_subset (by decide)
    ⟨h.before, h.after, h.keeps⟩
  have hgnu : (packaged.build wholeRoot "x86_64-unknown-linux-gnu").present wholeTree =
      .ok false := present_twins _ (by decide)
  have hmusl : (packaged.build wholeRoot "x86_64-unknown-linux-musl").present wholeTree =
      .ok true := present_twins _ (by decide)
  have hrule : packaged.rule? "linux" "x64" = some (.ofPair ["linux", "android"] "x64"
      "x86_64-unknown-linux-gnu" "x86_64-unknown-linux-musl") := by decide
  obtain ⟨hverify, hdiscover, hserves⟩ := grows_serves wholeRoot wholeTree glibcTree
  refine ⟨?_, ?_, ?_⟩
  · obtain ⟨r, hr, hok, -⟩ := verify_twins_mac
    rcases hverify twins hgrows ⟨.override, ["mac"]⟩ with ⟨_, _, h, -⟩ | ⟨_, r', h, hr', hmono, -, -⟩
    · rw [hr] at h
      cases h
    · obtain rfl := Except.ok.inj (hr.symm.trans h)
      exact ⟨r, r', hr, hr', hok, hmono hok⟩
  · obtain ⟨i, j, b', hi, hj, hle, -⟩ := hdiscover packaged _ hpair _
      (discover_eq_ok_iff.mpr ⟨1, _, rfl, rfl, hmusl, List.forall_mem_singleton.mpr hgnu⟩)
    exact ⟨i, j, b', hi, hj, hle⟩
  · have hselect : (packaged.select wholeTree wholeRoot glibcKey).result =
        .ok (packaged.build wholeRoot "x86_64-unknown-linux-musl") :=
      select_packaged_musl (Or.inl rfl) hrule rfl rfl hmusl fun _ => hgnu
    obtain ⟨b', hb'⟩ := hserves glibcKey
      (fun rule hr => by
        obtain rfl := Option.some.inj (hrule.symm.trans hr)
        exact hpair) _ hselect
    exact ⟨b', hselect, hb'⟩

end VendorLaunch.Catalog
