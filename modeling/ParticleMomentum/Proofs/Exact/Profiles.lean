import ParticleMomentum.Proofs.Evaluation.AdmissibleStates
import ParticleMomentum.Proofs.Exact.Samples
import ParticleMomentum.Proofs.Exact.Scenarios

/-!
# Pair profiles in exact arithmetic

The profiles of settings are the formulas for two equal particles at separations in even steps, from a
fiftieth of the support radius to the radius itself, where they all vanish. The settings give the state of
the particles, and that state alone decides whether there are profiles.
-/

namespace ParticleMomentum

open Arithmetic

namespace Profiles

variable {s : ProfileState ℝ}

/-! ## Profiles of a state -/

/-- The samples of a scheme at separations with given slopes. -/
noncomputable def samples (scheme : Scheme) (kernel : Kernel ℝ) (s : ProfileState ℝ)
    (points : List (ℝ × ℝ)) : Except (Fault ℝ) (List (ℝ × ℝ)) :=
  points.mapM fun (distance, slope) => sample scheme kernel s distance slope

def ofSamples (id : String) (samples : List (ℝ × ℝ)) : FormulationProfile ℝ :=
  ⟨id, samples.map (·.1), samples.map (·.2)⟩

/-- The catalogue has both schemes. -/
theorem formulations_eq (settings : Settings ℝ) (kernel : Kernel ℝ) (s : ProfileState ℝ)
    (points : List (ℝ × ℝ)) :
    Catalogue.formulations.mapM (ofFormulation settings kernel s points) = do
      let monaghan ← samples .monaghan kernel s points
      let adami ← samples .adami kernel s points
      return [ofSamples "monaghan" monaghan, ofSamples "adami" adami] := by
  have monaghan : ofFormulation settings kernel s points Catalogue.formulations[0] =
      samples .monaghan kernel s points >>= fun m => pure (ofSamples "monaghan" m) := rfl
  have adami : ofFormulation settings kernel s points Catalogue.formulations[1] =
      samples .adami kernel s points >>= fun m => pure (ofSamples "adami" m) := rfl
  change ([Catalogue.formulations[0], Catalogue.formulations[1]] : List (Definition ℝ)).mapM _ = _
  simp only [List.mapM_cons, List.mapM_nil, monaghan, adami, bind_assoc, pure_bind]

section

variable {kernel : Kernel ℝ} {rs : List ℝ}

/-- Separations with the slopes of a kernel there. -/
noncomputable def points (kernel : Kernel ℝ) (rs : List ℝ) : List (ℝ × ℝ) :=
  rs.map fun r => (r, kernel.slopeAt r)

noncomputable def profile (kernel : Kernel ℝ) (s : ProfileState ℝ) (rs : List ℝ) (id : String)
    (scheme : Scheme) : FormulationProfile ℝ where
  id
  pressure := rs.map fun r => s.pressureSize (kernel.slopeAt r)
  shear := rs.map fun r => s.shearSize scheme r (kernel.slopeAt r)

variable (density : s.density ≠ 0) (mass : s.mass ≠ 0) (apart : ∀ r ∈ rs, r ≠ 0)
include density mass apart

/-- A scheme that does not refuse the state has a profile; without separations nothing is refused. -/
theorem samples_accepted (kernel : Kernel ℝ) (scheme : Scheme)
    (accepted : rs ≠ [] → ¬ (scheme = .monaghan ∧ s.diffusion < 0)) :
    ∃ found, samples scheme kernel s (points kernel rs) = .ok found ∧
      ∀ id, ofSamples id found = profile kernel s rs id scheme := by
  refine ⟨rs.map fun r => (s.pressureSize (kernel.slopeAt r),
    s.shearSize scheme r (kernel.slopeAt r)), ?_, fun id => ?_⟩
  · rw [samples, points, List.mapM_map]
    exact mapM_eq_ok_map fun r hmem =>
      (sample_eq scheme kernel density mass (apart r hmem) _).trans
        (if_neg (accepted (List.ne_nil_of_mem hmem)))
  · simp only [ofSamples, profile, List.map_map]
    rfl

/-- A negative diffusion coefficient is found at the first sample, if there is one. -/
theorem samples_refused (negative : s.diffusion < 0) (some : rs ≠ []) :
    samples .monaghan kernel s (points kernel rs) = .error (.negativeDiffusion (refusal s)) := by
  cases rs with
  | nil => exact absurd rfl some
  | cons r rest =>
      have first := sample_eq .monaghan kernel density mass (apart r List.mem_cons_self)
        (kernel.slopeAt r)
      rw [if_pos ⟨rfl, negative⟩] at first
      simp only [samples, points, List.map_cons, List.mapM_cons, first]
      rfl

end

/-- Settings give every number of samples that their plots ask for, however large it is. -/
theorem sampleCount_eq_ok_iff {settings : Settings ℝ} {count : Nat} :
    sampleCount settings = .ok count ↔ ∃ plots, plotSettings settings = .ok plots ∧
      (plots.findD "n_samples" (.whole 200)).toInt = .ok (count : Int) := by
  rw [sampleCount, bind_eq_ok_iff]
  refine exists_congr fun plots => and_congr_right fun _ => ?_
  rw [bind_eq_ok_iff]
  constructor
  · rintro ⟨n | n, asked, same⟩
    · cases same
      exact asked
    · cases same
  · exact fun asked => ⟨_, asked, rfl⟩

/-- What settings give for the profiles: a kernel, a number of samples and the state of the particles. -/
structure Readings where
  kernel : Kernel ℝ
  count : Nat
  density : ℝ
  spacing : ℝ
  soundSpeed : ℝ
  perturbation : ℝ
  viscosity : ℝ
  bulkViscosity : ℝ
  speed : ℝ

namespace Readings

/-- Settings give these readings; what is not set has its usual value. -/
structure Of (q : Readings) (settings : Settings ℝ) : Prop where
  kernel : Catalogue.createKernel settings.kernelId (.record settings) = .ok q.kernel
  count : sampleCount settings = .ok q.count
  density : realOr settings "density" 1000.0 = .ok q.density
  spacing : realOr settings "lattice_spacing" 0.1 = .ok q.spacing
  soundSpeed : realOr settings "speed_of_sound" 10.0 = .ok q.soundSpeed
  perturbation : realOr settings "density_perturbation" 0.01 = .ok q.perturbation
  viscosity : realOr settings "dynamic_viscosity" 1e-3 = .ok q.viscosity
  bulkViscosity : realOr settings "bulk_viscosity" 0.0 = .ok q.bulkViscosity
  speed : realOr settings "velocity_scale" 0.1 = .ok q.speed

variable (q : Readings)

noncomputable def mass : ℝ := q.density * q.spacing ^ q.kernel.dimension

/-- The pressure at the greatest perturbation of the density. -/
noncomputable def pressure : ℝ := q.soundSpeed ^ 2 * q.density * q.perturbation

noncomputable def state : ProfileState ℝ :=
  ⟨q.density, q.mass, q.pressure, q.viscosity, q.bulkViscosity, q.speed⟩

/-- The separations, from a fiftieth of the support radius on. -/
noncomputable def separations : List ℝ :=
  evenly (0.02 * q.kernel.supportRadius) q.kernel.supportRadius q.count

variable {q} {settings : Settings ℝ}

namespace Of

variable (given : q.Of settings)
include given

theorem sound : q.kernel.Sound := Catalogue.sound_of_createKernel given.kernel

theorem state_eq : stateOf settings q.kernel = .ok q.state := by
  simp only [stateOf, boundedPower_real, given.density, given.spacing, given.soundSpeed,
    given.perturbation, given.viscosity, given.bulkViscosity, given.speed]
  rfl

theorem first_lt_last :
    0 < 0.02 * q.kernel.supportRadius ∧ 0.02 * q.kernel.supportRadius < q.kernel.supportRadius := by
  have radius := given.sound.radius_pos
  constructor <;> norm_num <;> linarith

theorem apart : ∀ r ∈ q.separations, r ≠ 0 := fun r hmem =>
  (pos_of_mem_evenly given.first_lt_last.1 given.first_lt_last.2 r hmem).ne'

/-- The profiles come from the samples of both schemes. -/
theorem compute_eq_samples :
    compute settings = do
      let monaghan ← samples .monaghan q.kernel q.state (points q.kernel q.separations)
      let adami ← samples .adami q.kernel q.state (points q.kernel q.separations)
      return ⟨q.separations, [ofSamples "monaghan" monaghan, ofSamples "adami" adami]⟩ := by
  have created : Catalogue.createKernel (settings.findD "default_kernel" (.text "cubic_spline"))
      (.record settings) = .ok q.kernel := given.kernel
  have computed : compute settings = do
      let slopes ← q.kernel.slopes .bulk q.separations
      let state ← stateOf settings q.kernel
      let formulations ← Catalogue.formulations.mapM
        (ofFormulation settings q.kernel state (q.separations.zip slopes))
      return ⟨q.separations, formulations⟩ := by
    simp only [compute, created, given.count]
    rfl
  have zipped : q.separations.zip (q.separations.map q.kernel.slopeAt) =
      points q.kernel q.separations := by
    rw [points, List.zip, List.zipWith_map_right, List.zipWith_self]
  rw [computed, given.sound.slopes_eq, given.state_eq]
  change (Catalogue.formulations.mapM (ofFormulation settings q.kernel q.state
    (q.separations.zip (q.separations.map q.kernel.slopeAt))) >>= _) = _
  rw [zipped, formulations_eq, bind_assoc]
  refine congrArg _ (funext fun monaghan => ?_)
  rw [bind_assoc]
  rfl

/-- The diffusion coefficient decides whether there are profiles. -/
theorem compute_eq (density : q.density ≠ 0) (spacing : q.spacing ≠ 0) :
    compute settings =
      if 0 < q.count ∧ q.state.diffusion < 0 then .error (.negativeDiffusion (refusal q.state))
      else .ok ⟨q.separations, [profile q.kernel q.state q.separations "monaghan" .monaghan,
        profile q.kernel q.state q.separations "adami" .adami]⟩ := by
  have mass : q.state.mass ≠ 0 := mul_ne_zero density (pow_ne_zero _ spacing)
  have sampled : q.separations ≠ [] ↔ 0 < q.count := by
    rw [← List.length_pos_iff, separations, length_evenly]
  rw [given.compute_eq_samples]
  split
  · next refused =>
    rw [samples_refused density mass given.apart refused.2 (sampled.mpr refused.1)]
    rfl
  · next accepted =>
    obtain ⟨monaghan, hm, profileM⟩ := samples_accepted density mass given.apart q.kernel .monaghan
      fun some both => accepted ⟨sampled.mp some, both.2⟩
    obtain ⟨adami, ha, profileA⟩ := samples_accepted density mass given.apart q.kernel .adami
      fun _ both => by cases both.1
    rw [hm, ha, ← profileM, ← profileA]
    rfl

end Of

/-- A bounded setting of valid settings, or the usual value of its bound, is a number within the bound. -/
theorem exists_realOr (valid : settings.validate = .ok ()) (key : String) {b : Bound ℝ}
    (bound : Bound.all.find? (·.key == key) = some b) {least greatest : Setting.Number ℝ}
    (hl : b.least.number? = some least) (hg : b.greatest.number? = some greatest) {usual : ℝ}
    (hu : b.usual = .real usual) :
    ∃ x, realOr settings key usual = .ok x ∧ least.value ≤ x ∧ x ≤ greatest.value := by
  rw [realOr, Settings.findD]
  rcases found : settings.find? key with _ | value
  · obtain ⟨x, numeric, holds⟩ := b.holds_usual (List.mem_of_find?_eq_some bound)
    rw [hu] at numeric
    cases numeric
    exact ⟨usual, rfl, (Bound.holds_iff hl hg).mp holds⟩
  · exact Settings.exists_number_of_validate valid found bound hl hg

/-- Valid settings give readings if they make a kernel and give a number of samples. -/
theorem exists_of_validate (valid : settings.validate = .ok ()) {kernel : Kernel ℝ}
    (created : Catalogue.createKernel settings.kernelId (.record settings) = .ok kernel) {count : Nat}
    (counted : sampleCount settings = .ok count) :
    ∃ q : Readings, q.Of settings ∧ q.count = count ∧ 0 < q.density ∧ 0 < q.spacing ∧
      0 ≤ q.viscosity ∧ 0 ≤ q.bulkViscosity := by
  obtain ⟨density, hdensity, leastDensity, -⟩ := exists_realOr valid "density" rfl rfl rfl rfl
  obtain ⟨spacing, hspacing, leastSpacing, -⟩ := exists_realOr valid "lattice_spacing" rfl rfl rfl rfl
  obtain ⟨_, hsoundSpeed, -⟩ := exists_realOr valid "speed_of_sound" rfl rfl rfl rfl
  obtain ⟨_, hperturbation, -⟩ := exists_realOr valid "density_perturbation" rfl rfl rfl rfl
  obtain ⟨viscosity, hviscosity, leastViscosity, -⟩ :=
    exists_realOr valid "dynamic_viscosity" rfl rfl rfl rfl
  obtain ⟨bulkViscosity, hbulk, leastBulk, -⟩ := exists_realOr valid "bulk_viscosity" rfl rfl rfl rfl
  obtain ⟨_, hspeed, -⟩ := exists_realOr valid "velocity_scale" rfl rfl rfl rfl
  simp only [Setting.Number.value, zero_literal] at leastDensity leastSpacing leastViscosity leastBulk
  refine ⟨⟨kernel, count, density, spacing, _, _, viscosity, bulkViscosity, _⟩, ⟨created, counted,
    hdensity, hspacing, hsoundSpeed, hperturbation, hviscosity, hbulk, hspeed⟩, rfl, ?_, ?_,
    leastViscosity, leastBulk⟩
  · exact lt_of_lt_of_le (by norm_num) leastDensity
  · exact lt_of_lt_of_le (by norm_num) leastSpacing

/-- What the usual settings with a bulk viscosity give. -/
theorem exists_of_bulky (x : ℝ) :
    ∃ q : Readings, q.Of (Scenario.bulky x) ∧ q.density ≠ 0 ∧ q.spacing ≠ 0 ∧ q.count = 200 ∧
      q.viscosity = 1e-3 ∧ q.bulkViscosity = x := by
  obtain ⟨kernel, created⟩ := Scenario.exists_kernel_bulky x
  refine ⟨⟨kernel, 200, 1000.0, 0.1, 10.0, 0.01, 1e-3, x, 0.1⟩,
    ⟨created, rfl, rfl, rfl, rfl, rfl, rfl, rfl, rfl⟩, ?_, ?_, rfl, rfl, rfl⟩
  · norm_num
  · norm_num

variable (q) in
/-- The closed form of profiles, where `slope` is the slope of the kernel. -/
structure ClosedForm (slope : ℝ → ℝ) (p : Profiles ℝ) : Prop where
  length : p.separations.length = q.count
  rising : p.separations.Pairwise (· < ·)
  first : p.separations.head? = some (0.02 * q.kernel.supportRadius)
  last : p.separations.getLast? = some q.kernel.supportRadius
  series : p.series =
    [("r", p.separations),
     ("monaghan_pressure", p.separations.map fun r =>
       |2 * q.mass * q.pressure * slope r / q.density ^ 2|),
     ("monaghan_shear", p.separations.map fun r =>
       |q.mass * (5 * max q.viscosity 0 / 3 - max q.bulkViscosity 0) * q.speed * slope r /
         (q.density ^ 2 * r)|),
     ("adami_pressure", p.separations.map fun r =>
       |2 * q.mass * q.pressure * slope r / q.density ^ 2|),
     ("adami_shear", p.separations.map fun r =>
       |2 * q.mass * max q.viscosity 0 * q.speed * slope r / (q.density ^ 2 * r)|)]
  vanishing : ∀ samples ∈ p.series.tail, samples.2.getLast? = some 0

theorem Of.closedForm (given : q.Of settings) (two : 2 ≤ q.count) :
    q.ClosedForm q.kernel.slopeAt ⟨q.separations,
      [profile q.kernel q.state q.separations "monaghan" .monaghan,
       profile q.kernel q.state q.separations "adami" .adami]⟩ where
  length := length_evenly
  rising := pairwise_evenly two given.first_lt_last.2
  first := head_evenly two
  last := getLast_evenly two
  series := by
    have adami (r slope : ℝ) : q.state.shearSize .adami r slope =
        |2 * q.mass * max q.viscosity 0 * q.speed * slope / (q.density ^ 2 * r)| := by
      rw [ProfileState.shearSize, ProfileState.shearFactor, mul_left_comm, ← mul_assoc]
      rfl
    simp only [series, profile, List.flatMap_cons, List.flatMap_nil, adami]
    rfl
  vanishing := by
    have flat := given.sound.slopeAt_of_le le_rfl
    have vanishes (f : ℝ → ℝ) (zero : f q.kernel.supportRadius = 0) :
        (q.separations.map f).getLast? = some 0 := by
      rw [List.getLast?_map, separations, getLast_evenly two, Option.map_some, zero]
    have pressure := vanishes (fun r => q.state.pressureSize (q.kernel.slopeAt r))
      (by rw [flat, ProfileState.pressureSize, mul_zero, zero_div, abs_zero])
    have shear (scheme : Scheme) :=
      vanishes (fun r => q.state.shearSize scheme r (q.kernel.slopeAt r))
        (by rw [flat, ProfileState.shearSize, mul_zero, zero_div, abs_zero])
    simp only [series, profile, List.flatMap_cons, List.flatMap_nil, List.tail_cons, List.append_nil,
      List.cons_append, List.nil_append, List.forall_mem_cons]
    exact ⟨pressure, shear .monaghan, pressure, shear .adami,
      fun _ hmem => (List.not_mem_nil hmem).elim⟩

end Readings

open Readings in
/-- Profiles have a closed form, in which the schemes agree on the pressure and differ in a factor of the
shear. They are refused just if the viscosities give a negative diffusion coefficient. -/
theorem compute_closedForm {settings : Settings ℝ} {q : Readings} (given : q.Of settings)
    (density : q.density ≠ 0) (spacing : q.spacing ≠ 0) (two : 2 ≤ q.count) :
    ((∃ report, compute settings = .error (.negativeDiffusion report)) ↔
      5 * max q.viscosity 0 / 3 < max q.bulkViscosity 0) ∧
    (¬ 5 * max q.viscosity 0 / 3 < max q.bulkViscosity 0 →
      ∃ slope : ℝ → ℝ, (∀ r, q.kernel.slope r = .ok (slope r)) ∧
        ∃ p, compute settings = .ok p ∧ q.ClosedForm slope p) := by
  have decided := given.compute_eq density spacing
  have negative : q.state.diffusion < 0 ↔ 5 * max q.viscosity 0 / 3 < max q.bulkViscosity 0 := sub_neg
  have some : 0 < q.count := by omega
  simp only [some, true_and, negative] at decided
  refine ⟨⟨?_, fun refused => ⟨_, decided.trans (if_pos refused)⟩⟩, fun accepted =>
    ⟨_, given.sound.slope_eq, _, decided.trans (if_neg accepted), given.closedForm two⟩⟩
  rintro ⟨report, refused⟩
  by_contra accepted
  rw [decided, if_neg accepted] at refused
  cases refused

open Readings in
/-- The usual settings give profiles of both schemes. -/
theorem compute_closedForm_defaults :
    ∃ q : Readings, q.Of Settings.defaults ∧ q.density ≠ 0 ∧ q.spacing ≠ 0 ∧ 2 ≤ q.count ∧
      ∃ slope p, compute Settings.defaults = .ok p ∧ q.ClosedForm slope p := by
  obtain ⟨q, given, density, spacing, count, viscosity, bulkViscosity⟩ := exists_of_bulky 0.0
  rw [Scenario.bulky_zero] at given
  have two : 2 ≤ q.count := by omega
  have accepted : ¬ 5 * max q.viscosity 0 / 3 < max q.bulkViscosity 0 := by
    rw [viscosity, bulkViscosity]
    norm_num
  obtain ⟨slope, -, p, computed, form⟩ := (compute_closedForm given density spacing two).2 accepted
  exact ⟨q, given, density, spacing, two, slope, p, computed, form⟩

end Profiles

end ParticleMomentum
