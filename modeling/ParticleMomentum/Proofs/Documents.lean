import ParticleMomentum.Proofs.Exact.Profiles
import ParticleMomentum.Proofs.FileTrees
import ParticleMomentum.Report.Document

/-!
# How reports end

Once the profiles are computed, a report ends well whatever happens while its page is written: either its
document is there, or it has no path and leaves nothing behind. The profiles are computed before that. A
fault there ends the report, and it comes from a scheme that the scenario need not have used: settings with
which a scenario of the Adami scheme returns can have profiles that the Monaghan scheme refuses.
-/

namespace ParticleMomentum

open Procedure (Reaches)

/-! ## Writing -/

/-- A page writer that may fail at any point, but changes nothing other than a file at the end of its
path, and does not say that it has succeeded unless the document is there. -/
structure PageWriter.Lawful {α : Type} (writer : PageWriter α) : Prop where
  changes : ∀ page path t, FileTree.ChangesFileAt path t (writer page path t).1
  written : ∀ page path t, (writer page path t).2 = .ok () →
    (writer page path t).1.look path = some .document

namespace Document

variable {α : Type}

/-- A report has come to a good end: its document is at its path, or it has no path and nothing is left
of it. -/
def Settled (path : String) (before after : FileTree) (d : Document α) : Prop :=
  (d.path = path ∧ after.look path = some .document) ∨
    (d.path = "" ∧ after.NoFileAt path ∧ before.AddsNoFile after)

theorem Settled.of_addsNoFile {path : String} {before middle after : FileTree} {d : Document α}
    (h : d.Settled path middle after) (made : before.AddsNoFile middle) :
    d.Settled path before after :=
  h.imp_right fun ⟨unnamed, gone, nothing⟩ => ⟨unnamed, gone, made.trans nothing⟩

theorem plainWriter_lawful : (plainWriter : PageWriter α).Lawful where
  changes _ path t := (t.writeDocument_spec path).1
  written _ path t := by
    intro succeeded
    refine (t.writeDocument_spec path).2 ?_
    change (t.writeDocument path).2.mapError _ = .ok () at succeeded
    cases result : (t.writeDocument path).2 with
    | ok => rfl
    | error f =>
        rw [result] at succeeded
        cases succeeded

/-- What is discarded leaves no file behind, and nothing else changes. -/
theorem discard_spec (path : String) (t : FileTree) :
    FileTree.ChangesFileAt path t (discard path t) ∧ (discard path t).NoFileAt path := by
  rw [discard]
  split
  · obtain ⟨removed, gone, -⟩ := t.removeFile_spec path
    exact ⟨removed, gone⟩
  · next nothing =>
    rw [Bool.not_eq_true, Option.isSome_eq_false_iff, Option.isNone_iff_eq_none] at nothing
    exact ⟨.refl path t, fun kind found => absurd (nothing.symm.trans found) nofun⟩

variable {writer : PageWriter α}

/-- Whatever a writer does, a page that is published comes to a good end. -/
theorem publish_settles (lawful : writer.Lawful) (page : Page α) (path : String) (t : FileTree) :
    ∃ d after, (publish writer page path).Reaches t d after ∧ d.Settled path t after := by
  have changed := lawful.changes page path t
  have written := lawful.written page path t
  have tried : (Procedure.ofChange (publish.attempt writer page path) :
      Procedure FileTree (Notice α) (Fault α) _).Reaches t (writer page path t).2
        (writer page path t).1 := ⟨rfl, rfl⟩
  cases result : (writer page path t).2 with
  | ok =>
      rw [result] at tried
      exact ⟨_, _, tried.bind ((Reaches.emit _ _).bind (Reaches.pure _ _)), .inl ⟨rfl, written result⟩⟩
  | error f =>
      rw [result] at tried
      obtain ⟨removed, gone⟩ := discard_spec path (writer page path t).1
      exact ⟨_, _, tried.bind ((Reaches.emit _ _).bind ((Reaches.update _ _).bind (Reaches.pure _ _))),
        .inr ⟨rfl, gone, (changed.trans removed).addsNoFile gone⟩⟩

/-! ## Reports -/

theorem prepare_reaches {directory : String} {t prepared : FileTree}
    (made : t.makeAll directory = (prepared, .ok ())) :
    (prepare (.text directory) : Procedure FileTree (Notice α) (Fault α) String).Reaches t directory
      prepared := by
  rw [prepare]
  refine Reaches.bind (b := ()) ⟨?_, ?_⟩ (Reaches.pure directory prepared)
  · rw [Procedure.ofChange_apply]
    simp only [made]
    rfl
  · rw [Procedure.ofChange_apply]
    simp only [made]

section

variable [Arithmetic α] {timestamp directory : String} {settings : Settings α} {t prepared : FileTree}

/-- A fault of the profiles is the fault of the report. -/
theorem generate_of_refused (made : t.makeAll directory = (prepared, .ok ())) {fault : Fault α}
    (refused : Profiles.compute settings = .error fault) :
    (generate writer timestamp settings (.text directory) t).1.result = .error fault := by
  rw [generate, (prepare_reaches made).bind_result, (Reaches.emit _ _).bind_result, refused]
  rfl

/-- With profiles a report comes to a good end. -/
theorem generate_of_computed (lawful : writer.Lawful)
    (made : t.makeAll directory = (prepared, .ok ())) {p : Profiles α}
    (computed : Profiles.compute settings = .ok p) :
    ∃ d after, (generate writer timestamp settings (.text directory)).Reaches t d after ∧
      d.Settled (Path.join directory (fileName timestamp)) t after := by
  obtain ⟨d, after, published, settled⟩ := publish_settles lawful (.ofProfiles p)
    (Path.join directory (fileName timestamp)) prepared
  have added : t.AddsNoFile prepared := by
    have := FileTree.AddsNoFile.makeAll t directory
    rwa [made] at this
  exact ⟨d, after, (prepare_reaches made).bind ((Reaches.emit _ _).bind (Reaches.lift_bind computed
    published)), settled.of_addsNoFile added⟩

end

end Document

/-! ## Refused settings -/

namespace Profiles

open Arithmetic

/-- Settings whose profiles are refused: they give no number of samples, or there are samples and the bulk
viscosity is above five thirds of the viscosity. -/
inductive Refused (settings : Settings ℝ) : Prop where
  | samples (fault : Fault ℝ) : sampleCount settings = .error fault → Refused settings
  | diffusion (count : Nat) (viscosity bulkViscosity : ℝ) : sampleCount settings = .ok count →
      0 < count → realOr settings "dynamic_viscosity" 1e-3 = .ok viscosity →
      realOr settings "bulk_viscosity" 0.0 = .ok bulkViscosity → 5 * viscosity / 3 < bulkViscosity →
      Refused settings

variable {settings : Settings ℝ} {fault : Fault ℝ}

theorem compute_of_sampleCount_error {kernel : Kernel ℝ}
    (created : Catalogue.createKernel settings.kernelId (.record settings) = .ok kernel)
    (counted : sampleCount settings = .error fault) : compute settings = .error fault := by
  have created : Catalogue.createKernel (settings.findD "default_kernel" (.text "cubic_spline"))
      (.record settings) = .ok kernel := created
  simp only [compute, created, counted]
  rfl

/-- Of the settings that a scenario accepts, just the refused ones have no profiles. -/
theorem compute_error_iff {draw : Draws ℝ} (valid : settings.validate = .ok ())
    (ends : (Scenario.run settings draw).Ends) :
    (∃ fault, compute settings = .error fault) ↔ Refused settings := by
  obtain ⟨kernel, created⟩ : ∃ kernel,
      Catalogue.createKernel settings.kernelId (.record settings) = .ok kernel := by
    obtain ⟨summary, returned⟩ := ends
    rw [Scenario.result_run, bind_eq_ok_iff] at returned
    obtain ⟨-, -, returned⟩ := returned
    obtain ⟨made, equipment, -⟩ := bind_eq_ok_iff.mp returned
    simp only [Settings.equipment, bind_eq_ok_iff] at equipment
    obtain ⟨-, -, kernel, created, -⟩ := equipment
    exact ⟨kernel, created⟩
  rcases counted : sampleCount settings with fault | count
  · exact iff_of_true ⟨fault, compute_of_sampleCount_error created counted⟩ (.samples fault counted)
  obtain ⟨q, given, rfl, density, spacing, viscosity, bulkViscosity⟩ :=
    Readings.exists_of_validate valid created counted
  have computed := given.compute_eq density.ne' spacing.ne'
  have negative : q.state.diffusion < 0 ↔ 5 * q.viscosity / 3 < q.bulkViscosity := by
    change 5 * max q.viscosity 0 / 3 - max q.bulkViscosity 0 < 0 ↔ _
    rw [max_eq_left viscosity, max_eq_left bulkViscosity, sub_neg]
  constructor
  · rintro ⟨fault, failed⟩
    rw [computed] at failed
    split at failed
    · next refused =>
      exact .diffusion _ _ _ counted refused.1 given.viscosity given.bulkViscosity
        (negative.mp refused.2)
    · cases failed
  · rintro (⟨fault, failed⟩ | ⟨count, μ, κ, some, positive, hμ, hκ, exceeds⟩)
    · rw [counted] at failed
      cases failed
    · cases counted.symm.trans some
      cases given.viscosity.symm.trans hμ
      cases given.bulkViscosity.symm.trans hκ
      exact ⟨_, computed.trans (if_pos ⟨positive, negative.mpr exceeds⟩)⟩

end Profiles

/-! ## Main theorem -/

namespace Document

/-- A directory that is made in an empty home. -/
theorem makeAll_out : (FileTree.empty "home").makeAll "out" =
    ((FileTree.empty "home").put ["home", "out"] .directory, .ok ()) := by
  cbv

/-- Once its directory is made, a report either meets a fault of the profiles or comes to a good end,
whatever happens while its page is written. In exact arithmetic the settings that a scenario accepts and
that have a fault of the profiles are the refused ones. -/
theorem generate_settles_or_refuses {α : Type} [Arithmetic α] {writer : PageWriter α}
    (lawful : writer.Lawful) (timestamp : String) (settings : Settings α) {directory : String}
    {t prepared : FileTree} (made : t.makeAll directory = (prepared, .ok ())) :
    (∀ fault, Profiles.compute settings = .error fault →
      (generate writer timestamp settings (.text directory) t).1.result = .error fault) ∧
    (∀ p, Profiles.compute settings = .ok p →
      ∃ d after, (generate writer timestamp settings (.text directory)).Reaches t d after ∧
        d.Settled (Path.join directory (fileName timestamp)) t after) ∧
    ∀ (exact : Settings ℝ) (draw : Draws ℝ), exact.validate = .ok () →
      (Scenario.run exact draw).Ends →
      ((∃ fault, Profiles.compute exact = .error fault) ↔ Profiles.Refused exact) := by
  refine ⟨fun fault => generate_of_refused made, fun p => generate_of_computed lawful made, ?_⟩
  intro exact draw valid ends
  exact Profiles.compute_error_iff valid ends

/-- With the usual settings a report comes to a good end. -/
theorem generate_settles_or_refuses_defaults :
    (plainWriter : PageWriter ℝ).Lawful ∧
    (FileTree.empty "home").makeAll "out" =
      ((FileTree.empty "home").put ["home", "out"] .directory, .ok ()) ∧
    (Settings.defaults : Settings ℝ).validate = .ok () ∧
    (Scenario.run Settings.defaults fun _ => (0 : ℝ)).Ends ∧
    ∃ (d : Document ℝ) (after : FileTree),
      (generate plainWriter "20240102_030405" Settings.defaults (.text "out")).Reaches
        (FileTree.empty "home") d after ∧
      d.Settled (Path.join "out" (fileName "20240102_030405")) (FileTree.empty "home") after := by
  have ends : (Scenario.run Settings.defaults fun _ => (0 : ℝ)).Ends :=
    Scenario.run_defaults_ends fun k _ => Set.left_mem_Icc.mpr zero_le_one
  have counted : Profiles.sampleCount (Settings.defaults : Settings ℝ) = .ok 200 := rfl
  have accepted : ¬ Profiles.Refused Settings.defaults := by
    rintro (⟨fault, failed⟩ | ⟨count, μ, κ, some, positive, hμ, hκ, exceeds⟩)
    · cases counted.symm.trans failed
    · cases hμ
      cases hκ
      norm_num at exceeds
  refine ⟨plainWriter_lawful, makeAll_out, Settings.validate_defaults, ends, ?_⟩
  obtain ⟨-, settles, refuses⟩ := generate_settles_or_refuses plainWriter_lawful "20240102_030405"
    (Settings.defaults : Settings ℝ) makeAll_out
  rcases computed : Profiles.compute (Settings.defaults : Settings ℝ) with fault | p
  · exact absurd ((refuses _ _ Settings.validate_defaults ends).mp ⟨fault, computed⟩) accepted
  · exact settles p computed

/-- The usual settings with a bulk viscosity of one are accepted, and the scenario returns with them. The
report ends with a fault all the same, as the Monaghan scheme refuses them. -/
theorem generate_refuses_bulky :
    (Scenario.bulky 1).validate = .ok () ∧
    (∀ draw : Draws ℝ, (∀ k < 4 * 6 ^ 3, draw k ∈ Set.Icc (0 : ℝ) 1) →
      (Scenario.run (Scenario.bulky 1) draw).Ends) ∧
    ((FileTree.empty "home").makeAll "out").2 = .ok () ∧
    ∃ report, (generate plainWriter "20240102_030405" (Scenario.bulky 1) (.text "out")
      (FileTree.empty "home")).1.result = .error (.negativeDiffusion report) := by
  refine ⟨Scenario.validate_bulky zero_le_one (by norm_num), fun draw =>
    Scenario.run_bulky_ends zero_le_one (by norm_num), congrArg Prod.snd makeAll_out, ?_⟩
  obtain ⟨q, given, density, spacing, count, viscosity, bulkViscosity⟩ :=
    Profiles.Readings.exists_of_bulky 1
  have negative : q.state.diffusion < 0 := by
    change 5 * max q.viscosity 0 / 3 - max q.bulkViscosity 0 < 0
    rw [viscosity, bulkViscosity]
    norm_num
  have refused := (given.compute_eq density spacing).trans (if_pos ⟨by omega, negative⟩)
  exact ⟨_, generate_of_refused makeAll_out refused⟩

end Document

end ParticleMomentum
