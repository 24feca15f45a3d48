import ParticleMomentum.Evaluation.Contribution
import ParticleMomentum.Evaluation.Plan
import ParticleMomentum.Proofs.Exact.Space

/-!
# The momentum equation

The discretised momentum equation as it is published: what each side of a pair receives from the
pressure gradient, the shear forces, the background pressure and the transport correction. Nothing here
refers to a loop, to accumulators or to faults; the formulas are meant where their divisors are not zero.

Throughout, `p` holds the states of both particles, and `row` the geometry of the pair: its direction
`e`, its distance `r` and the slopes of the kernel.
-/

namespace ParticleMomentum.Equation

variable {n : Nat} (scheme : Scheme) (plan : Plan ℝ) (p : Sides (Particle ℝ)) (row : PairRow n ℝ)

/-- The harmonic mean of two numbers, where both are positive; else zero. -/
noncomputable def harmonicMean (x : Sides ℝ) : ℝ :=
  if 0 < x.i ∧ 0 < x.j then 2 * x.i * x.j / (x.i + x.j) else 0

noncomputable def coefficient : Sides ℝ :=
  match scheme with
  | .monaghan => ⟨row.slope.i * p.j.mass, row.slope.j * p.i.mass⟩
  | .adami =>
    let volumes := (p.i.mass / p.i.density) ^ 2 + (p.j.mass / p.j.density) ^ 2
    ⟨volumes * row.slope.i / p.i.mass, volumes * row.slope.j / p.j.mass⟩

/-! ## Pressure gradient -/

noncomputable def pressureFactor : ℝ :=
  match scheme with
  | .monaghan => p.i.pressure / p.i.density ^ 2 + p.j.pressure / p.j.density ^ 2
  | .adami =>
    (p.i.density * p.j.pressure + p.j.density * p.i.pressure) / (p.i.density + p.j.density)

noncomputable def pressure : Sides (Vector3 ℝ) :=
  let c := coefficient scheme p row
  ⟨-(c.i * pressureFactor scheme p) • row.direction, (c.j * pressureFactor scheme p) • row.direction⟩

/-! ## Shear forces -/

noncomputable def relativeVelocity : Vector3 ℝ := p.i.velocity - p.j.velocity

/-- The shear that both sides share. The Monaghan scheme has a diffusion along the relative velocity and
a convection along the pair, the Adami scheme only the former. -/
noncomputable def shearVector : Vector3 ℝ :=
  match scheme with
  | .monaghan =>
    let scaled := harmonicMean (p.map (·.viscosity)) / 3
    let bulk := harmonicMean (p.map (·.bulkViscosity))
    let convection := plan.convectionFactor * (bulk + scaled)
    let diffusion := 5 * scaled - bulk
    let inverse := 1 / (p.i.density * p.j.density * row.distance)
    (diffusion * inverse) • relativeVelocity p +
      (convection * (relativeVelocity p).dot row.direction * inverse) • row.direction
  | .adami => (harmonicMean (p.map (·.viscosity)) / row.distance) • relativeVelocity p

noncomputable def shear : Sides (Vector3 ℝ) :=
  let c := coefficient scheme p row
  ⟨c.i • shearVector scheme plan p row, -(c.j • shearVector scheme plan p row)⟩

/-! ## Background pressure -/

noncomputable def standardBackground : Sides (Vector3 ℝ) :=
  let c := coefficient scheme p row
  match scheme with
  | .monaghan =>
    let factor := 1 / p.i.density ^ 2 + 1 / p.j.density ^ 2
    ⟨-(c.i * p.i.backgroundPressure * factor) • row.direction,
      (c.j * p.j.backgroundPressure * factor) • row.direction⟩
  | .adami =>
    ⟨-(c.i * p.i.backgroundPressure) • row.direction,
      (c.j * p.j.backgroundPressure) • row.direction⟩

/-- The terms of the generalized background pressure, along modified slopes of the kernel. -/
noncomputable def generalizedBackground (slope : Sides ℝ) : Sides (Vector3 ℝ) :=
  match scheme with
  | .monaghan =>
    ⟨-(p.i.backgroundPressure * (p.j.mass / p.i.density ^ 2) * slope.i) • row.direction,
      (p.j.backgroundPressure * (p.i.mass / p.j.density ^ 2) * slope.j) • row.direction⟩
  | .adami =>
    ⟨-(p.i.backgroundPressure * p.i.mass * slope.i / p.i.density ^ 2) • row.direction,
      (p.j.backgroundPressure * p.j.mass * slope.j / p.j.density ^ 2) • row.direction⟩

/-! ## Transport correction -/

noncomputable def transportWeight (density : ℝ) : ℝ :=
  match scheme with
  | .monaghan => 1 / density
  | .adami => 1 / 2 * density

/-- The part of the transport correction that one particle contributes. -/
noncomputable def transportPart (q : Particle ℝ) : Vector3 ℝ :=
  (transportWeight scheme q.density * (q.modifiedVelocity - q.velocity).dot row.direction) • q.velocity

noncomputable def transport : Sides (Vector3 ℝ) :=
  let c := coefficient scheme p row
  let sum := transportPart scheme row p.i + transportPart scheme row p.j
  ⟨c.i • sum, -(c.j • sum)⟩

/-! ## The whole equation -/

/-- What a side of a pair adds to the acceleration of its particle. -/
noncomputable def acceleration (side : Side) : Vector3 ℝ :=
  (pressure scheme p row).get side + (shear scheme plan p row).get side +
    if plan.transport then (transport scheme p row).get side else 0

/-- What a side of a pair adds to the modified acceleration of its particle. -/
noncomputable def modifiedAcceleration (modifiedSlope : Sides ℝ) (side : Side) : Vector3 ℝ :=
  match plan.background with
  | .off => 0
  | .standard => (standardBackground scheme p row).get side
  | .generalized => (generalizedBackground scheme p row modifiedSlope).get side

/-- What a side of a pair adds to the accumulators of its particle. -/
noncomputable def amount (modifiedSlope : Sides ℝ) : Target → Side → Vector3 ℝ
  | .acceleration => acceleration scheme plan p row
  | .modifiedAcceleration => modifiedAcceleration scheme plan p row modifiedSlope

end ParticleMomentum.Equation
