import ParticleMomentum.Particles.Ensemble
import ParticleMomentum.Proofs.Exact.Equation
import ParticleMomentum.Proofs.Particles

/-!
# Frames of reference

The same particles can be described in another frame of reference, with orthogonal axes that are turned or
reflected, with another origin, and in uniform motion relative to the old one. The momentum equation holds
in either frame: its terms are multiples, by numbers that do not depend on the frame, of the direction of a
pair, of a relative velocity or, for the transport correction, of a velocity. Only this last term needs
frames at rest to each other.
-/

namespace ParticleMomentum

/-! ## Turned axes -/

namespace Vector3

noncomputable def components : Vector3 ℝ ≃ₗ[ℝ] (Fin 3 → ℝ) where
  toFun := get
  invFun := ofFn
  map_add' v w := by
    funext c
    fin_cases c <;> rfl
  map_smul' s v := by
    funext c
    fin_cases c <;> rfl
  left_inv v := rfl
  right_inv f := by
    funext c
    fin_cases c <;> rfl

/-- The vector with the components that a matrix assigns to those of a vector. -/
noncomputable def turn (axes : Matrix (Fin 3) (Fin 3) ℝ) : Vector3 ℝ →ₗ[ℝ] Vector3 ℝ :=
  components.symm.toLinearMap ∘ₗ axes.mulVecLin ∘ₗ components.toLinearMap

theorem dot_eq_dotProduct (v w : Vector3 ℝ) : v.dot w = components v ⬝ᵥ components w := by
  rw [dotProduct, Fin.sum_univ_three]
  rfl

/-- Orthogonal axes keep scalar products. -/
theorem dot_turn {axes : Matrix (Fin 3) (Fin 3) ℝ} (h : axes ∈ Matrix.orthogonalGroup (Fin 3) ℝ)
    (v w : Vector3 ℝ) : (turn axes v).dot (turn axes w) = v.dot w := by
  have inverse : axes.transpose * axes = 1 := (Matrix.mem_orthogonalGroup_iff' (Fin 3) ℝ).mp h
  have turned (v : Vector3 ℝ) : components (turn axes v) = axes.mulVec (components v) :=
    components.apply_symm_apply _
  rw [dot_eq_dotProduct, dot_eq_dotProduct, turned, turned, Matrix.dotProduct_mulVec,
    ← Matrix.mulVec_transpose, Matrix.mulVec_mulVec, inverse, Matrix.one_mulVec]

end Vector3

/-! ## Frames -/

/-- Another frame of reference: the old axes in components of the new ones, and the place and the velocity
of the old origin. -/
structure Frame where
  axes : Matrix (Fin 3) (Fin 3) ℝ
  orthogonal : axes ∈ Matrix.orthogonalGroup (Fin 3) ℝ
  shift : Vector3 ℝ
  boost : Vector3 ℝ

namespace Frame

variable (f : Frame)

/-- A difference of two places, or of two velocities, in the other frame. -/
noncomputable def turn : Vector3 ℝ →ₗ[ℝ] Vector3 ℝ := Vector3.turn f.axes

@[simp] theorem dot_turn (v w : Vector3 ℝ) : (f.turn v).dot (f.turn w) = v.dot w :=
  Vector3.dot_turn f.orthogonal v w

@[simp] theorem squaredNorm_turn (v : Vector3 ℝ) : (f.turn v).squaredNorm = v.squaredNorm :=
  f.dot_turn v v

@[simp] theorem norm_turn (v : Vector3 ℝ) : (f.turn v).norm = v.norm := by
  rw [Vector3.norm, squaredNorm_turn]
  rfl

noncomputable def particle (q : Particle ℝ) : Particle ℝ :=
  { q with
    position := f.turn q.position + f.shift
    velocity := f.turn q.velocity + f.boost
    modifiedVelocity := f.turn q.modifiedVelocity
    acceleration := f.turn q.acceleration
    modifiedAcceleration := f.turn q.modifiedAcceleration }

variable {n : Nat}

noncomputable def ensemble (e : Ensemble n ℝ) : Ensemble n ℝ := e.mapParticles fun _ => f.particle

/-- The row of a pair in the other frame: only its direction is another one. -/
noncomputable def row (row : PairRow n ℝ) : PairRow n ℝ :=
  { row with direction := f.turn row.direction }

noncomputable def input (input : PairInput n ℝ) : PairInput n ℝ :=
  { input with row := f.row input.row }

@[simp] theorem ensemble_particle (e : Ensemble n ℝ) (k : Fin n) :
    (f.ensemble e).particles[k] = f.particle e.particles[k] :=
  e.mapParticles_particle _ k

theorem sides_row (e : Ensemble n ℝ) (row : PairRow n ℝ) :
    (f.ensemble e).sides (f.row row) = (e.sides row).map f.particle :=
  congrArg₂ Sides.mk (f.ensemble_particle e _) (f.ensemble_particle e _)

/-- The way from one particle to another. -/
theorem position_sub_position (q q' : Particle ℝ) :
    (f.particle q).position - (f.particle q').position = f.turn (q.position - q'.position) := by
  rw [particle, particle, map_sub, add_sub_add_right_eq_sub]

end Frame

/-! ## The momentum equation in another frame -/

namespace Equation

variable {n : Nat} {scheme : Scheme} {plan : Plan ℝ} (f : Frame)
variable (p : Sides (Particle ℝ)) (row : PairRow n ℝ)

theorem relativeVelocity_frame :
    relativeVelocity (p.map f.particle) = f.turn (relativeVelocity p) := by
  rw [relativeVelocity, relativeVelocity, map_sub]
  exact add_sub_add_right_eq_sub _ _ _

theorem pressure_frame :
    pressure scheme (p.map f.particle) (f.row row) = (pressure scheme p row).map f.turn := by
  simp only [pressure, Sides.map, map_smul]
  rfl

theorem shearVector_frame :
    shearVector scheme plan (p.map f.particle) (f.row row) = f.turn (shearVector scheme plan p row) := by
  have along : (f.turn (relativeVelocity p)).dot (f.row row).direction =
      (relativeVelocity p).dot row.direction := f.dot_turn _ _
  cases scheme with
  | monaghan =>
      simp only [shearVector, relativeVelocity_frame, along, map_add, map_smul]
      rfl
  | adami =>
      simp only [shearVector, relativeVelocity_frame, map_smul]
      rfl

/-- Multiples of a vector that is turned, with a minus sign on the second side. -/
theorem opposed_frame (x y : ℝ) (v : Vector3 ℝ) :
    (⟨x • f.turn v, -(y • f.turn v)⟩ : Sides (Vector3 ℝ)) = Sides.map ⟨x • v, -(y • v)⟩ f.turn := by
  rw [Sides.map, map_neg, map_smul, map_smul]

theorem shear_frame :
    shear scheme plan (p.map f.particle) (f.row row) = (shear scheme plan p row).map f.turn := by
  rw [shear, shearVector_frame]
  exact opposed_frame f _ _ _

theorem standardBackground_frame :
    standardBackground scheme (p.map f.particle) (f.row row) =
      (standardBackground scheme p row).map f.turn := by
  cases scheme
  all_goals
    simp only [standardBackground, Sides.map, map_smul]
    rfl

theorem generalizedBackground_frame (slope : Sides ℝ) :
    generalizedBackground scheme (p.map f.particle) (f.row row) slope =
      (generalizedBackground scheme p row slope).map f.turn := by
  cases scheme
  all_goals
    simp only [generalizedBackground, Sides.map, map_smul]
    rfl

/-- A velocity enters the transport correction as it is, not relative to another one. -/
theorem transport_frame (still : f.boost = 0) :
    transport scheme (p.map f.particle) (f.row row) = (transport scheme p row).map f.turn := by
  have part (q : Particle ℝ) : transportPart scheme (f.row row) (f.particle q) =
      f.turn (transportPart scheme row q) := by
    have along : ((f.particle q).modifiedVelocity - (f.particle q).velocity).dot (f.row row).direction =
        (q.modifiedVelocity - q.velocity).dot row.direction := by
      rw [Frame.particle, still, add_zero, ← map_sub]
      exact f.dot_turn _ _
    rw [transportPart, along, transportPart, map_smul, Frame.particle, still, add_zero]
  have sum : transportPart scheme (f.row row) (p.map f.particle).i +
      transportPart scheme (f.row row) (p.map f.particle).j =
      f.turn (transportPart scheme row p.i + transportPart scheme row p.j) := by
    rw [map_add, ← part, ← part]
    rfl
  rw [transport, sum]
  exact opposed_frame f _ _ _

/-- What a pair has for its particles turns with the frame. -/
theorem amount_frame (still : plan.transport = true → f.boost = 0) (slope : Sides ℝ) (target : Target)
    (side : Side) :
    amount scheme plan (p.map f.particle) (f.row row) slope target side =
      f.turn (amount scheme plan p row slope target side) := by
  have get_map (s : Sides (Vector3 ℝ)) : (s.map f.turn).get side = f.turn (s.get side) := by
    cases side <;> rfl
  cases target with
  | acceleration =>
      simp only [amount, acceleration, pressure_frame, shear_frame, get_map, map_add]
      cases ht : plan.transport with
      | false => simp
      | true => rw [if_pos rfl, if_pos rfl, transport_frame f p row (still ht), get_map]
  | modifiedAcceleration =>
      simp only [amount, modifiedAcceleration]
      cases plan.background with
      | off => exact (map_zero f.turn).symm
      | standard => rw [standardBackground_frame, get_map]
      | generalized => rw [generalizedBackground_frame, get_map]

end Equation

end ParticleMomentum
