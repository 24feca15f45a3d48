import ParticleMomentum.Draws
import ParticleMomentum.Particles.Ensemble
import ParticleMomentum.Setting.Number

/-!
# Cubic lattices

A jittered cubic lattice of particles in a weakly compressible state. The random numbers come as a
sequence of draws, each used once: three for every position, then one for every density, then three for
every velocity, all in the order of the particles. The first two kinds are uniform in the unit interval,
the last is normal.
-/

namespace ParticleMomentum

/-- What a lattice is built from. -/
structure CubicLattice (α : Type) where
  /-- Particles along an edge. -/
  edge : Nat
  spacing : α
  density : α
  jitter : α
  densityPerturbation : α
  velocityScale : α
  mass : α
  squaredSoundSpeed : α
  viscosity : α
  bulkViscosity : α
  backgroundPressure : α

namespace CubicLattice

variable {α : Type} [Arithmetic α]

/-- The lattice that settings describe. A negative edge counts as none. -/
def ofSettings (s : Settings α) : Except (Fault α) (CubicLattice α) := do
  let edge ← (← s.require "lattice_n").toInt
  let spacing ← s.requireReal "lattice_spacing"
  let density ← s.requireReal "density"
  let jitter ← s.requireReal "lattice_jitter"
  let densityPerturbation ← s.requireReal "density_perturbation"
  let velocityScale ← s.requireReal "velocity_scale"
  let mass := density * (← Arithmetic.boundedPower spacing 3)
  let squaredSoundSpeed ← Arithmetic.boundedPower (← s.requireReal "speed_of_sound") 2
  let viscosity ← s.requireReal "dynamic_viscosity"
  let bulkViscosity ← s.requireReal "bulk_viscosity"
  let backgroundPressure ← s.requireReal "background_pressure"
  return { edge := edge.toNat, spacing, density, jitter, densityPerturbation, velocityScale, mass,
           squaredSoundSpeed, viscosity, bulkViscosity, backgroundPressure }

def size (l : CubicLattice α) : Nat := l.edge * l.edge * l.edge

/-- How many of the draws are uniform: three for every position and one for every density. -/
def uniformDraws (l : CubicLattice α) : Nat := 4 * l.size

/-- A draw spread evenly between minus one and one. -/
def spread (d : α) : α := -1.0 + (1.0 - -1.0) * d

/-- A draw scaled about zero. -/
def scaled (scale d : α) : α := 0.0 + scale * d

/-- The coordinates of a particle on the grid: the last one runs fastest. -/
def cell (l : CubicLattice α) (k : Nat) : Vector3 Nat :=
  ⟨k / (l.edge * l.edge), k / l.edge % l.edge, k % l.edge⟩

/-- Where a particle stands: its place on the grid, moved by up to the jitter along each axis. -/
def position (l : CubicLattice α) (draw : Draws α) (k : Nat) : Vector3 α :=
  let along (place : Nat) (axis : Nat) : α :=
    Arithmetic.ofInt place * l.spacing + spread (draw (3 * k + axis)) * l.jitter
  let c := l.cell k
  ⟨along c.x 0, along c.y 1, along c.z 2⟩

/-- The density of a particle: perturbed by up to a fraction. -/
def densityAt (l : CubicLattice α) (draw : Draws α) (k : Nat) : α :=
  l.density * (1.0 + l.densityPerturbation * spread (draw (3 * l.size + k)))

def velocity (l : CubicLattice α) (draw : Draws α) (k : Nat) : Vector3 α :=
  let along (axis : Nat) : α := scaled l.velocityScale (draw (l.uniformDraws + 3 * k + axis))
  ⟨along 0, along 1, along 2⟩

/-- A particle of the lattice. The pressure follows from the density, and the transport velocity is the
velocity. -/
def particle (l : CubicLattice α) (draw : Draws α) (k : Nat) : Particle α :=
  let density := l.densityAt draw k
  let velocity := l.velocity draw k
  { (Particle.fresh : Particle α) with
    position := l.position draw k
    velocity
    modifiedVelocity := velocity
    mass := l.mass
    density
    pressure := l.squaredSoundSpeed * (density - l.density)
    viscosity := l.viscosity
    bulkViscosity := l.bulkViscosity
    backgroundPressure := l.backgroundPressure }

def ensemble (l : CubicLattice α) (draw : Draws α) : Ensemble l.size α :=
  ⟨Vector.ofFn fun k => l.particle draw k⟩

end CubicLattice

end ParticleMomentum
