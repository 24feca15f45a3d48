import ParticleMomentum.Vector3

/-!
# Attributes of a particle

A particle carries its state (position, velocities, mass, density, pressures, viscosities), the
accelerations that the momentum equation adds up, and a mark whether it is owned. Particles that are not
owned give their state to their neighbours and receive nothing.
-/

namespace ParticleMomentum

structure Particle (α : Type) where
  position : Vector3 α
  velocity : Vector3 α
  modifiedVelocity : Vector3 α
  acceleration : Vector3 α
  modifiedAcceleration : Vector3 α
  mass : α
  density : α
  pressure : α
  viscosity : α
  bulkViscosity : α
  backgroundPressure : α
  owned : Bool
  deriving DecidableEq

inductive VectorAttribute where
  | positions
  | velocities
  | modifiedVelocities
  | accelerations
  | modifiedAccelerations
  deriving DecidableEq, Repr

inductive ScalarAttribute where
  | masses
  | densities
  | pressures
  | viscosities
  | bulkViscosities
  | backgroundPressures
  deriving DecidableEq, Repr

inductive Attribute where
  | vector (a : VectorAttribute)
  | scalar (a : ScalarAttribute)
  | owned
  deriving DecidableEq, Repr

namespace VectorAttribute

variable {α : Type}

def get (p : Particle α) : VectorAttribute → Vector3 α
  | positions => p.position
  | velocities => p.velocity
  | modifiedVelocities => p.modifiedVelocity
  | accelerations => p.acceleration
  | modifiedAccelerations => p.modifiedAcceleration

def put (p : Particle α) (v : Vector3 α) : VectorAttribute → Particle α
  | positions => { p with position := v }
  | velocities => { p with velocity := v }
  | modifiedVelocities => { p with modifiedVelocity := v }
  | accelerations => { p with acceleration := v }
  | modifiedAccelerations => { p with modifiedAcceleration := v }

end VectorAttribute

namespace ScalarAttribute

variable {α : Type}

def get (p : Particle α) : ScalarAttribute → α
  | masses => p.mass
  | densities => p.density
  | pressures => p.pressure
  | viscosities => p.viscosity
  | bulkViscosities => p.bulkViscosity
  | backgroundPressures => p.backgroundPressure

def put (p : Particle α) (x : α) : ScalarAttribute → Particle α
  | masses => { p with mass := x }
  | densities => { p with density := x }
  | pressures => { p with pressure := x }
  | viscosities => { p with viscosity := x }
  | bulkViscosities => { p with bulkViscosity := x }
  | backgroundPressures => { p with backgroundPressure := x }

end ScalarAttribute

namespace Attribute

def all : List Attribute :=
  [vector .positions, vector .velocities, vector .modifiedVelocities, vector .accelerations,
    vector .modifiedAccelerations, scalar .masses, scalar .densities, scalar .pressures,
    scalar .viscosities, scalar .bulkViscosities, scalar .backgroundPressures, owned]

def name : Attribute → String
  | vector .positions => "positions"
  | vector .velocities => "velocities"
  | vector .modifiedVelocities => "modified_velocities"
  | vector .accelerations => "accelerations"
  | vector .modifiedAccelerations => "modified_accelerations"
  | scalar .masses => "masses"
  | scalar .densities => "densities"
  | scalar .pressures => "pressures"
  | scalar .viscosities => "viscosities"
  | scalar .bulkViscosities => "bulk_viscosities"
  | scalar .backgroundPressures => "background_pressures"
  | owned => "owned"

def ofName? (s : String) : Option Attribute := all.find? (·.name == s)

end Attribute

/-- A particle at rest in the origin, of unit mass and density, that is owned. -/
def Particle.fresh {α : Type} [Arithmetic α] : Particle α where
  position := Vector3.zero
  velocity := Vector3.zero
  modifiedVelocity := Vector3.zero
  acceleration := Vector3.zero
  modifiedAcceleration := Vector3.zero
  mass := 1.0
  density := 1.0
  pressure := 0.0
  viscosity := 0.0
  bulkViscosity := 0.0
  backgroundPressure := 0.0
  owned := true

end ParticleMomentum
