import VendorLaunch.Proofs.Launch.Ending
import VendorLaunch.Proofs.Relay.Steps

/-!
# What a launch logs

Everything that a launch logs, from the probe of the platform to the signal that the launcher sends
to itself, is less than a warning (`LogRecord.Minor`). For the plan this is shown along its stages
(`LaunchRequest.minor_plan`); the rest is logged by the steps of a machine, which log nothing but
debug records (`LaunchRequest.exists_log`, `Launcher.exists_log_runChild`). A plan ends with a
record that tells what is launched, so a plan that is made leaves a log
(`LaunchRequest.log_plan_ne_nil`).
-/

namespace VendorLaunch

/-! ### Minor records -/

/-- A record that is less than a warning, and that a log of everything takes. -/
structure LogRecord.Minor (r : LogRecord) : Prop where
  debug_le : Log.debug ≤ r.level
  lt_warning : r.level < Log.warning

theorem LogRecord.minor_of_debug {r : LogRecord} (h : r.level = debugLevel) : r.Minor := by
  constructor
  · rw [h]
    decide
  · rw [h]
    decide

theorem LogRecord.minor_debug (logger message : String) : (LogRecord.debug logger message).Minor :=
  minor_of_debug rfl

theorem LogRecord.minor_info (logger message : String) : (LogRecord.info logger message).Minor where
  debug_le := show Log.debug ≤ infoLevel by decide
  lt_warning := show infoLevel < Log.warning by decide

namespace Logged

variable {α β : Type} {x : Logged α} {f : α → Logged β}

/-- A computation that logs nothing but minor records. -/
def Minor (x : Logged α) : Prop := ∀ r ∈ x.log, r.Minor

theorem minor_pure (a : α) : (pure a : Logged α).Minor := fun _ hr => by cases hr

theorem minor_fail (e : Failure) : (fail e : Logged α).Minor := fun _ hr => by cases hr

theorem minor_ofExcept (r : Except Failure α) : (ofExcept r).Minor := fun _ hr => by cases hr

theorem minor_ofFault (r : Except Fault α) : (ofFault r).Minor := fun _ hr => by cases hr

theorem minor_note {r : LogRecord} (hr : r.Minor) : (note r).Minor := fun _ h =>
  List.mem_singleton.mp h ▸ hr

theorem minor_noteAll {rs : List LogRecord} (hrs : ∀ r ∈ rs, r.Minor) : (noteAll rs).Minor := hrs

theorem Minor.bind (hx : x.Minor) (hf : ∀ a, (f a).Minor) : (x >>= f).Minor := by
  intro r hr
  rw [log_bind] at hr
  rcases List.mem_append.mp hr with hr | hr
  · exact hx r hr
  · split at hr
    · next a _ => exact hf a r hr
    · cases hr

/-- What a computation logs stays when others run before it. -/
theorem log_bind_ne_nil {a : α} (hx : x.result = .ok a) (h : (f a).log ≠ []) :
    (x >>= f).log ≠ [] := by
  rw [log_bind, hx]
  exact List.append_ne_nil_of_right_ne_nil _ h

theorem minor_note_bind {r : LogRecord} (hr : r.Minor) {f : Unit → Logged β}
    (hf : (f ()).Minor) : (note r >>= f).Minor := (minor_note hr).bind fun _ => hf

end Logged

open Logged

theorem minor_libcOf (probe : Except Fault Bool) : (libcOf probe).Minor := by
  unfold libcOf
  split
  · exact minor_pure _
  · exact minor_pure _
  · exact minor_note_bind (LogRecord.minor_debug _ _) (minor_pure _)

theorem minor_libcOn {σ : Type} (os : String) (probe : Probe σ) (s : σ) :
    (libcOn os probe s).1.Minor := by
  unfold libcOn
  split
  · exact (minor_libcOf _).bind fun _ => minor_pure _
  · exact minor_pure _

theorem minor_detectWith (system machine : String) (probe : Except Fault Bool) :
    (detectWith system machine probe).Minor := by
  unfold detectWith detectBy
  generalize osFamilyOf system = os
  exact (minor_libcOn os _ _).bind fun _ =>
    minor_note_bind (LogRecord.minor_debug _ _) (minor_pure _)

namespace Catalog

theorem minor_resolve (c : Catalog) (key : Platform) : (c.resolve key).Minor := by
  unfold resolve
  split
  · exact minor_fail _
  · exact minor_note_bind (LogRecord.minor_debug _ _) (minor_pure _)

/-- A candidate that is passed over is no warning. -/
theorem minor_discoverFrom (c : Catalog) (t : FileTree) (root : Path) (all triples : List String) :
    (c.discoverFrom t root all triples).Minor := by
  induction triples with
  | nil => exact minor_fail _
  | cons s triples ih =>
    rw [discoverFrom, Build.orElse]
    refine (minor_ofFault _).bind fun here => ?_
    split
    · exact minor_note_bind (LogRecord.minor_debug _ _) (minor_pure _)
    · exact minor_note_bind (LogRecord.minor_debug _ _) ih

theorem minor_select (c : Catalog) (t : FileTree) (root : Path) (key : Platform) :
    (c.select t root key).Minor :=
  (c.minor_resolve key).bind fun triples => (c.minor_discoverFrom t root triples triples).bind
    fun _ => (minor_ofExcept _).bind fun _ => minor_pure _

theorem minor_reading (c : Catalog) (unread : Option Path) : ∀ r ∈ c.reading unread, r.Minor := by
  intro r hr
  cases unread with
  | none => cases hr
  | some path =>
    rcases List.mem_cons.mp hr with rfl | hr
    · exact LogRecord.minor_debug _ _
    · obtain rfl := List.mem_singleton.mp hr
      exact LogRecord.minor_debug _ _

end Catalog

namespace LaunchRequest

variable {r : LaunchRequest} {site : Site}

/-- Whatever a plan comes to, it logs minor records. -/
theorem minor_plan (r : LaunchRequest) (site : Site) : (r.plan site).Minor := by
  have hplatform : (r.platformAt site).Minor := by
    unfold platformAt
    split
    · exact minor_pure _
    · exact minor_detectWith _ _ _
  unfold plan
  refine (minor_ofFault _).bind fun root => hplatform.bind fun key => ?_
  refine (minor_noteAll (r.catalog.minor_reading r.unread)).bind fun _ => ?_
  refine (r.catalog.minor_select site.tree root key).bind fun b => ?_
  exact (minor_ofFault _).bind fun env =>
    minor_note_bind (LogRecord.minor_info _ _) (minor_pure _)

/-- A plan that is made has told what is launched. -/
theorem log_plan_ne_nil {child : Child} (h : (r.plan site).result = .ok child) :
    (r.plan site).log ≠ [] := by
  obtain ⟨root, key, b, env, hroot, hkey, hb, henv, -⟩ := plan_eq_ok_iff.mp h
  unfold plan
  refine log_bind_ne_nil (result_ofFault_eq_ok.mpr hroot) ?_
  refine log_bind_ne_nil hkey ?_
  refine log_bind_ne_nil (a := ()) rfl ?_
  refine log_bind_ne_nil hb ?_
  refine log_bind_ne_nil (result_ofFault_eq_ok.mpr henv) ?_
  exact List.cons_ne_nil _ _

/-- A launch logs its plan and then minor records. -/
theorem exists_log (r : LaunchRequest) (site : Site) (m : Machine) :
    ∃ rs, (r.run site m).1.log = m.log ++ (r.plan site).log ++ rs ∧ ∀ x ∈ rs, x.Minor := by
  cases h : (r.plan site).result with
  | error e =>
    rw [run_of_error h]
    exact ⟨[], (List.append_nil _).symm, fun x hx => by cases hx⟩
  | ok child =>
    rw [run_of_ok h]
    obtain ⟨rs, hrs, hdebug⟩ := (Machine.steps_superviseChild (P := fun _ => True)
      (fun _ _ => trivial) (m := Machine.setChild { m with log := m.log ++ (r.plan site).log } 0
        child) (i := 0) trivial).log
    exact ⟨rs, hrs, fun x hx => LogRecord.minor_of_debug (hdebug x hx)⟩

end LaunchRequest

/-! ### Runs -/

namespace Launcher

/-- What a run has logged is its plan and then minor records. -/
theorem exists_log_runChild (site : Site) (settings : Settings) (env : Env) (args : List String)
    (s : Session) (w : Surroundings) :
    ∃ rs, (runChild site settings env args s w.boot).2.1.log =
        ((request settings env args s.unread).plan { site with tree := s.tree }).log ++ rs ∧
      ∀ r ∈ rs, r.Minor := by
  obtain ⟨rs, hrs, hminor⟩ :=
    (request settings env args s.unread).exists_log { site with tree := s.tree } w.boot
  have hboot : w.boot.log = [] := rfl
  rw [hboot, List.nil_append] at hrs
  rcases h : (request settings env args s.unread).run { site with tree := s.tree } w.boot with
    ⟨m₁, e | t⟩
  · rw [h] at hrs
    rw [runChild_of_error h]
    exact ⟨rs, hrs, hminor⟩
  · obtain ⟨rs', hrs', hdebug⟩ :=
      (Machine.steps_endAs (P := fun _ => True) (fun _ _ => trivial) m₁ t).log
    rw [h] at hrs
    rw [machine_runChild_of_ok h, hrs', hrs]
    refine ⟨rs ++ rs', List.append_assoc _ _ _, fun r hr => ?_⟩
    rcases List.mem_append.mp hr with hr | hr
    · exact hminor r hr
    · exact LogRecord.minor_of_debug (hdebug r hr)

theorem minor_runChild (site : Site) (settings : Settings) (env : Env) (args : List String)
    (s : Session) (w : Surroundings) :
    ∀ r ∈ (runChild site settings env args s w.boot).2.1.log, r.Minor := by
  obtain ⟨rs, hrs, hminor⟩ := exists_log_runChild site settings env args s w
  intro r hr
  rw [hrs] at hr
  rcases List.mem_append.mp hr with hr | hr
  · exact LaunchRequest.minor_plan _ _ r hr
  · exact hminor r hr

end Launcher

end VendorLaunch
