import ParticleMomentum.Proofs.Exact.Scenarios
import ParticleMomentum.Proofs.Lattices
import ParticleMomentum.Proofs.Neighbours.Search

/-!
# Lattices in exact arithmetic

Valid settings that name all that a lattice is built from describe one. Its particles stand on a grid, no
farther from their cells than the jitter along each axis, and their densities vary by no more than the
perturbation. If the jitter is small against the spacing, no two particles coincide.
-/

namespace ParticleMomentum

open Arithmetic

/-! ## Searches that drop nothing -/

namespace Neighbours

variable {n : Nat} {kernel : Kernel ℝ} {positions : Vector (Vector3 ℝ) n}

/-- No two particles coincide for a search. -/
def AllApart (kernel : Kernel ℝ) (positions : Vector (Vector3 ℝ) n) : Prop :=
  ∀ i j, i ≠ j → isApart kernel.supportRadius (separation positions i j) = true

/-- A search among particles that do not coincide drops none of the pairs within the support radius. -/
theorem AllApart.find_items (apart : AllApart kernel positions) : (find kernel positions).items = [] := by
  have keeps : (candidates positions kernel.supportRadius).filter (isApart kernel.supportRadius) =
      candidates positions kernel.supportRadius := by
    refine List.filter_eq_self.mpr fun s hs => ?_
    obtain ⟨i, j, ordered, -, rfl⟩ := mem_candidates_iff.mp hs
    exact apart i j ordered.ne
  cases ready : kernel.ready with
  | false => rw [find, ready]; rfl
  | true =>
      have finite : positions.toList.all Vector3.isFinite = true := List.all_eq_true.mpr fun _ _ => rfl
      rw [find_eq ready finite rfl]
      dsimp only
      rw [keeps, Nat.sub_self, warning, if_pos rfl]

theorem AllApart.pairs_of_find (apart : AllApart kernel positions) {rows : List (PairRow n ℝ)}
    (found : (find kernel positions).result = .ok rows) :
    rows.map PairRow.pair = indices positions kernel.supportRadius := by
  have keeps : apartIndices positions kernel.supportRadius = indices positions kernel.supportRadius := by
    refine List.filter_eq_self.mpr fun p hp => ?_
    exact apart p.1 p.2 (mem_indices_iff.mp hp).1.ne
  obtain ⟨factor, -, rfl⟩ := rows_of_find found
  rw [apart_candidates, keeps, List.map_map, List.map_map]
  exact List.map_id'' (fun p => pair_rowWith factor p) _

/-- Neither does a search by columns. -/
theorem AllApart.search_items (apart : AllApart kernel positions) {query : List (Fin n × Fin n)}
    (h : IsQuery positions kernel.supportRadius query) : (search query kernel positions).items = [] := by
  have none : query.countP (fun p => !isApart kernel.supportRadius (separation positions p.1 p.2)) = 0 := by
    refine List.countP_eq_zero.mpr fun p hp => ?_
    rw [apart p.1 p.2 ((h.mem_iff p.1 p.2).mp hp).1.ne]
    decide
  cases ready : kernel.ready with
  | false => rw [search, ready]; rfl
  | true => rw [search_eq ready h, none, warning, if_pos rfl]

end Neighbours

namespace CubicLattice

/-! ## The lattice of settings -/

/-- The names of the settings that a lattice is built from. -/
def names : List String :=
  ["lattice_n", "lattice_spacing", "density", "lattice_jitter", "density_perturbation", "velocity_scale",
    "speed_of_sound", "dynamic_viscosity", "bulk_viscosity", "background_pressure"]

/-- A lattice is built from the numbers that settings give. -/
structure Describes (settings : Settings ℝ) (l : CubicLattice ℝ) : Prop where
  edge : settings.require "lattice_n" >>= Setting.toInt = .ok (l.edge : Int)
  spacing : settings.requireReal "lattice_spacing" = .ok l.spacing
  density : settings.requireReal "density" = .ok l.density
  jitter : settings.requireReal "lattice_jitter" = .ok l.jitter
  perturbation : settings.requireReal "density_perturbation" = .ok l.densityPerturbation
  velocityScale : settings.requireReal "velocity_scale" = .ok l.velocityScale
  speedOfSound : ∃ c, settings.requireReal "speed_of_sound" = .ok c ∧ l.squaredSoundSpeed = c ^ 2
  viscosity : settings.requireReal "dynamic_viscosity" = .ok l.viscosity
  bulkViscosity : settings.requireReal "bulk_viscosity" = .ok l.bulkViscosity
  backgroundPressure : settings.requireReal "background_pressure" = .ok l.backgroundPressure
  mass : l.mass = l.density * l.spacing ^ 3

/-- The numbers that a lattice is built from are in their ranges. -/
structure InBounds (l : CubicLattice ℝ) : Prop where
  edge : 2 ≤ l.edge ∧ l.edge ≤ 64
  spacing : 0 < l.spacing
  density : 0 < l.density
  jitter : 0 ≤ l.jitter
  perturbation : 0 ≤ l.densityPerturbation ∧ l.densityPerturbation ≤ 1 / 2
  mass : 0 < l.mass

/-- Valid settings describe a lattice if they name all that it is built from. -/
theorem exists_ofSettings {settings : Settings ℝ} (valid : settings.validate = .ok ())
    (complete : ∀ key ∈ names, settings.has key = true) :
    ∃ l, ofSettings settings = .ok l ∧ Describes settings l ∧ l.InBounds := by
  have number (key : String) (named : key ∈ names) {b : Bound ℝ} {least greatest : Setting.Number ℝ}
      (bound : Bound.all.find? (·.key == key) = some b) (hl : b.least.number? = some least)
      (hg : b.greatest.number? = some greatest) :=
    Settings.exists_requireReal valid (complete key named) bound hl hg
  obtain ⟨value, found⟩ := Option.isSome_iff_exists.mp (complete "lattice_n" (by decide))
  have required : settings.require "lattice_n" = .ok value := by rw [Settings.require, found]
  obtain ⟨n, whole, least, greatest⟩ := Settings.exists_whole_of_validate valid found rfl rfl rfl
  obtain ⟨spacing, hspacing, spacing_le, -⟩ := number "lattice_spacing" (by decide) rfl rfl rfl
  obtain ⟨density, hdensity, density_le, -⟩ := number "density" (by decide) rfl rfl rfl
  obtain ⟨jitter, hjitter, jitter_le, -⟩ := number "lattice_jitter" (by decide) rfl rfl rfl
  obtain ⟨perturbation, hperturbation, perturbation_le, le_perturbation⟩ :=
    number "density_perturbation" (by decide) rfl rfl rfl
  obtain ⟨velocityScale, hvelocity, -⟩ := number "velocity_scale" (by decide) rfl rfl rfl
  obtain ⟨c, hc, -⟩ := number "speed_of_sound" (by decide) rfl rfl rfl
  obtain ⟨viscosity, hviscosity, -⟩ := number "dynamic_viscosity" (by decide) rfl rfl rfl
  obtain ⟨bulkViscosity, hbulk, -⟩ := number "bulk_viscosity" (by decide) rfl rfl rfl
  obtain ⟨backgroundPressure, hbackground, -⟩ := number "background_pressure" (by decide) rfl rfl rfl
  have spaced : 0 < spacing := lt_of_lt_of_le (show (0 : ℝ) < 1e-6 by norm_num) spacing_le
  have dense : 0 < density := lt_of_lt_of_le (show (0 : ℝ) < 1e-9 by norm_num) density_le
  refine ⟨⟨n, spacing, density, jitter, perturbation, velocityScale, density * spacing ^ 3, c ^ 2,
    viscosity, bulkViscosity, backgroundPressure⟩, ?_, ?_, ?_⟩
  · simp only [ofSettings, bind_eq_ok_iff, pure_eq_ok_iff, boundedPower_real]
    exact ⟨value, required, n, whole, spacing, hspacing, density, hdensity, jitter, hjitter,
      perturbation, hperturbation, velocityScale, hvelocity, _, rfl, c, hc, _, rfl, viscosity,
      hviscosity, bulkViscosity, hbulk, backgroundPressure, hbackground, rfl⟩
  · refine ⟨?_, hspacing, hdensity, hjitter, hperturbation, hvelocity, ⟨c, hc, rfl⟩, hviscosity, hbulk,
      hbackground, rfl⟩
    rw [required]
    exact whole
  · exact ⟨⟨least, greatest⟩, spaced, dense, zero_literal.ge.trans jitter_le,
      ⟨zero_literal.ge.trans perturbation_le, le_perturbation.trans_eq half_literal⟩,
      mul_pos dense (pow_pos spaced 3)⟩

/-! ## Places -/

/-- A point is not farther than a distance from another one along any axis. -/
structure Near (distance : ℝ) (v w : Vector3 ℝ) : Prop where
  x : |v.x - w.x| ≤ distance
  y : |v.y - w.y| ≤ distance
  z : |v.z - w.z| ≤ distance

/-- Where a cell of the grid lies. -/
noncomputable def corner (l : CubicLattice ℝ) (c : Vector3 Nat) : Vector3 ℝ :=
  ⟨l.spacing * c.x, l.spacing * c.y, l.spacing * c.z⟩

/-- The uniform draws spread between minus one and one. -/
def Uniform (l : CubicLattice ℝ) (draw : Draws ℝ) : Prop :=
  ∀ k < l.uniformDraws, spread (draw k) ∈ Set.Icc (-1 : ℝ) 1

variable {l : CubicLattice ℝ} {draw : Draws ℝ}

/-- A particle has moved from its cell by no more than the jitter. -/
theorem near_position (bounds : l.InBounds) (uniform : l.Uniform draw) {k : Nat} (inside : k < l.size) :
    Near l.jitter (l.position draw k) (l.corner (l.cell k)) := by
  have along (place axis : Nat) (small : axis < 3) :
      |ofInt place * l.spacing + spread (draw (3 * k + axis)) * l.jitter - l.spacing * place| ≤
        l.jitter := by
    have drawn : |spread (draw (3 * k + axis))| ≤ 1 :=
      abs_le.mpr (uniform _ (by rw [uniformDraws]; omega))
    calc |ofInt place * l.spacing + spread (draw (3 * k + axis)) * l.jitter - l.spacing * place|
        = |spread (draw (3 * k + axis)) * l.jitter| := by
          rw [ofInt_real, Int.cast_natCast]
          ring_nf
      _ = |spread (draw (3 * k + axis))| * l.jitter := by rw [abs_mul, abs_of_nonneg bounds.jitter]
      _ ≤ l.jitter := mul_le_of_le_one_left bounds.jitter drawn
  exact ⟨along _ 0 (by omega), along _ 1 (by omega), along _ 2 (by omega)⟩

/-- Two numbers that are near to different multiples of the spacing are far from each other. -/
theorem spacing_sub_le {p q jitter spacing : ℝ} {a b : Nat} (pos : 0 < spacing) (ne : a ≠ b)
    (hp : |p - spacing * a| ≤ jitter) (hq : |q - spacing * b| ≤ jitter) :
    spacing - 2 * jitter ≤ |q - p| := by
  obtain ⟨p_least, p_most⟩ := abs_le.mp hp
  obtain ⟨q_least, q_most⟩ := abs_le.mp hq
  rcases Nat.lt_or_gt_of_ne ne with below | above
  · have step : (a : ℝ) + 1 ≤ b := by exact_mod_cast below
    have wide := mul_le_mul_of_nonneg_left step pos.le
    exact le_trans (by linarith) (le_abs_self (q - p))
  · have step : (b : ℝ) + 1 ≤ a := by exact_mod_cast above
    have wide := mul_le_mul_of_nonneg_left step pos.le
    exact le_trans (by linarith) (neg_le_abs (q - p))

/-- Different particles are apart by the spacing, up to twice the jitter. -/
theorem spacing_sub_le_norm (bounds : l.InBounds) (uniform : l.Uniform draw) {j k : Nat} (ne : j ≠ k)
    (hj : j < l.size) (hk : k < l.size) :
    l.spacing - 2 * l.jitter ≤ (l.position draw k - l.position draw j).norm := by
  have atJ := near_position bounds uniform hj
  have atK := near_position bounds uniform hk
  have cells : l.cell j ≠ l.cell k := fun same => ne (l.cell_injective same)
  let way := l.position draw k - l.position draw j
  -- different cells differ along an axis
  by_cases x : (l.cell j).x = (l.cell k).x
  · by_cases y : (l.cell j).y = (l.cell k).y
    · have z : (l.cell j).z ≠ (l.cell k).z := fun z => cells (Vector3.ext x y z)
      exact (spacing_sub_le bounds.spacing z atJ.z atK.z).trans way.abs_z_le_norm
    · exact (spacing_sub_le bounds.spacing y atJ.y atK.y).trans way.abs_y_le_norm
  · exact (spacing_sub_le bounds.spacing x atJ.x atK.x).trans way.abs_x_le_norm

/-! ## States -/

theorem densityAt_mem (bounds : l.InBounds) (uniform : l.Uniform draw) {k : Nat} (inside : k < l.size) :
    l.densityAt draw k ∈ Set.Icc (l.density * (1 - l.densityPerturbation))
      (l.density * (1 + l.densityPerturbation)) := by
  obtain ⟨least, most⟩ : spread (draw (3 * l.size + k)) ∈ Set.Icc (-1 : ℝ) 1 :=
    uniform _ (by rw [uniformDraws]; omega)
  obtain ⟨nonneg, -⟩ := bounds.perturbation
  have below := mul_le_mul_of_nonneg_left least nonneg
  have above := mul_le_mul_of_nonneg_left most nonneg
  rw [densityAt, one_literal]
  constructor
  · exact mul_le_mul_of_nonneg_left (by linarith) bounds.density.le
  · exact mul_le_mul_of_nonneg_left (by linarith) bounds.density.le

/-! ## Proper lattices -/

theorem particle_ensemble (l : CubicLattice ℝ) (draw : Draws ℝ) (k : Fin l.size) :
    (l.ensemble draw).particles[k] = l.particle draw k :=
  Vector.getElem_ofFn _

/-- The particles stand where they should, in the states that they should have, and each draw is used for
one number. -/
structure Proper (l : CubicLattice ℝ) (draw : Draws ℝ) : Prop where
  size : l.size = l.edge ^ 3
  numbered : ∀ k : Fin l.size, ∃ a b c, a < l.edge ∧ b < l.edge ∧ c < l.edge ∧
    k.val = (a * l.edge + b) * l.edge + c
  placed : ∀ a b c, a < l.edge → b < l.edge → c < l.edge →
    ∃ k : Fin l.size, k.val = (a * l.edge + b) * l.edge + c ∧
      Near l.jitter (l.ensemble draw).particles[k].position
        ⟨l.spacing * a, l.spacing * b, l.spacing * c⟩
  positions : ((l.ensemble draw).particles.toList.flatMap fun p => p.position.toList) =
    List.zipWith (fun (place : Nat) d => ofInt place * l.spacing + spread d * l.jitter)
      ((grid l.edge).flatMap Vector3.toList) (drawn draw 0 (3 * l.size))
  densities : ((l.ensemble draw).particles.toList.map fun p => p.density) =
    (drawn draw (3 * l.size) l.size).map fun d => l.density * (1.0 + l.densityPerturbation * spread d)
  velocities : ((l.ensemble draw).particles.toList.flatMap fun p => p.velocity.toList) =
    (drawn draw (4 * l.size) (3 * l.size)).map (scaled l.velocityScale)
  density : ∀ k : Fin l.size, (l.ensemble draw).particles[k].density ∈
    Set.Icc (l.density * (1 - l.densityPerturbation)) (l.density * (1 + l.densityPerturbation))
  density_pos : ∀ k : Fin l.size, 0 < (l.ensemble draw).particles[k].density
  pressure : ∀ k : Fin l.size, (l.ensemble draw).particles[k].pressure =
    l.squaredSoundSpeed * ((l.ensemble draw).particles[k].density - l.density)
  mass : ∀ k : Fin l.size, (l.ensemble draw).particles[k].mass = l.mass
  mass_pos : 0 < l.mass

theorem proper (bounds : l.InBounds) (uniform : l.Uniform draw) : l.Proper draw where
  size := by
    rw [size]
    ring
  numbered k := by
    obtain ⟨x, y, z⟩ := onGrid_cell k.isLt
    exact ⟨_, _, _, x, y, z, (l.number_cell k).symm⟩
  placed a b c ha hb hc := by
    have on : l.OnGrid ⟨a, b, c⟩ := ⟨ha, hb, hc⟩
    have near := near_position bounds uniform (number_lt on)
    rw [cell_number on] at near
    refine ⟨⟨_, number_lt on⟩, rfl, ?_⟩
    rw [particle_ensemble]
    exact near
  positions := l.positions_use_draws draw
  densities := l.densities_use_draws draw
  velocities := l.velocities_use_draws draw
  density k := by
    rw [particle_ensemble]
    exact densityAt_mem bounds uniform k.isLt
  density_pos k := by
    obtain ⟨-, small⟩ := bounds.perturbation
    have least : 0 < l.density * (1 - l.densityPerturbation) := mul_pos bounds.density (by linarith)
    rw [particle_ensemble]
    exact least.trans_le (densityAt_mem bounds uniform k.isLt).1
  pressure k := by
    rw [particle_ensemble]
    rfl
  mass k := by
    rw [particle_ensemble]
    rfl
  mass_pos := bounds.mass

/-- If the jitter is small against the spacing, no two particles coincide. -/
theorem allApart (bounds : l.InBounds) (uniform : l.Uniform draw) {kernel : Kernel ℝ}
    (small : 2 * l.jitter + 1e-12 * kernel.supportRadius < l.spacing) :
    Neighbours.AllApart kernel (l.ensemble draw).positions := by
  intro i j ne
  have far := spacing_sub_le_norm bounds uniform (mt Fin.ext ne) i.isLt j.isLt
  have positions (k : Fin l.size) : (l.ensemble draw).positions[k] = l.position draw k := by
    rw [Ensemble.positions_particle, particle_ensemble]
    rfl
  rw [Neighbours.isApart, decide_eq_true_iff, Neighbours.coincidentTolerance]
  change _ < ((l.ensemble draw).positions[j] - (l.ensemble draw).positions[i]).norm
  rw [positions, positions]
  linarith

/-- Valid settings that name all that a lattice is built from describe a lattice. Whatever is drawn, its
particles stand properly, and a search for pairs drops none of them if the jitter is small against the
spacing. -/
theorem valid_settings_lay_out {settings : Settings ℝ} (valid : settings.validate = .ok ())
    (complete : ∀ key ∈ names, settings.has key = true) :
    ∃ l, ofSettings settings = .ok l ∧ Describes settings l ∧
      ∀ draw : Draws ℝ, l.Uniform draw → l.Proper draw ∧
        ∀ kernel : Kernel ℝ, 2 * l.jitter + 1e-12 * kernel.supportRadius < l.spacing →
          (Neighbours.find kernel (l.ensemble draw).positions).items = [] ∧
          (∀ rows, (Neighbours.find kernel (l.ensemble draw).positions).result = .ok rows →
            rows.map PairRow.pair =
              Neighbours.indices (l.ensemble draw).positions kernel.supportRadius) ∧
          (kernel.Reachable → kernel.ready = true →
            (Neighbours.find kernel (l.ensemble draw).positions).Ends) ∧
          ∀ query, Neighbours.IsQuery (l.ensemble draw).positions kernel.supportRadius query →
            (Neighbours.search query kernel (l.ensemble draw).positions).items = [] := by
  obtain ⟨l, laid, describes, bounds⟩ := exists_ofSettings valid complete
  refine ⟨l, laid, describes, fun draw uniform => ⟨proper bounds uniform, fun kernel small => ?_⟩⟩
  have apart := allApart bounds uniform small
  exact ⟨apart.find_items, fun rows found => apart.pairs_of_find found,
    fun reachable ready => Neighbours.find_ends (reachable.sound ready) _,
    fun query h => apart.search_items h⟩

/-- The usual settings lay out a lattice on which a search drops nothing, whatever is drawn. -/
theorem valid_settings_lay_out_defaults :
    (Settings.defaults : Settings ℝ).validate = .ok () ∧
    (∀ key ∈ names, (Settings.defaults : Settings ℝ).has key = true) ∧
    ∃ l, ofSettings (Settings.defaults : Settings ℝ) = .ok l ∧ l.edge = 6 ∧ l.Uniform (fun _ => 0) ∧
      l.Proper (fun _ => 0) ∧
      (Neighbours.find Kernel.lineKernel (l.ensemble fun _ => 0).positions).items = [] := by
  have complete : ∀ key ∈ names, (Settings.defaults : Settings ℝ).has key = true := by
    decide
  obtain ⟨l, laid, describes, each⟩ := valid_settings_lay_out Settings.validate_defaults complete
  have uniform : l.Uniform fun _ => 0 := fun k _ => spread_mem_iff.mpr ⟨le_rfl, zero_le_one⟩
  obtain ⟨proper, drops⟩ := each _ uniform
  cases laid
  refine ⟨Settings.validate_defaults, complete, _, rfl, rfl, uniform, proper, (drops _ ?_).1⟩
  change (2 : ℝ) * 0.01 + 1e-12 * 2 < 0.1
  norm_num

end CubicLattice

end ParticleMomentum
