import ParticleMomentum.Evaluation.Mode
import ParticleMomentum.Formulation
import ParticleMomentum.Smoothing.Kernel

/-!
# Evaluation plans

What the momentum settings ask for: which background pressure is applied, whether transport velocities
are corrected for, and which of the two pair loops runs. A plan is read off settings for a given
formulation and kernel, which must both be ready.

Whether a setting means yes or no is asked of a reading of settings as flags. `Setting.toFlag` answers
for every setting; a reading may also refuse one, as a value with several flags in it is refused.
-/

namespace ParticleMomentum

variable {α : Type} [Arithmetic α]

def Setting.toFlag (s : Setting α) : Except (Fault α) Bool := .ok s.truth

/-- How the momentum equation is evaluated. -/
structure Plan (α : Type) where
  background : Background
  transport : Bool
  backend : Backend
  convectionFactor : α

namespace Plan

/-- The background pressure and the backend that settings ask for, where both parts are ready and the
backend can run the formulation. -/
def choices (config : Setting α) (formulation : Formulation α) (kernel : Kernel α) :
    Except (Fault α) (Background × Backend) := do
  if !formulation.ready then throw (.formulationNotReady formulation.kind.className)
  if !kernel.ready then throw (.kernelNotReady kernel.spline.className)
  let background ← Background.ofSetting
    (← config.lookupD "background_pressure_type" (.text Background.off.name))
  let backend ← Backend.ofSetting (← config.lookupD "momentum_backend" (.text Backend.fused.name))
  if backend == .fused && !formulation.kind.hasFusedLoop then
    throw (.noFusedLoop formulation.kind.className)
  return (background, backend)

/-- Whether settings ask for the correction of transport velocities. -/
def corrects (config : Setting α) (read : Setting α → Except (Fault α) Bool) :
    Except (Fault α) Bool := do
  read (← config.lookupD "transport_velocity" (.flag false))

def ofSettings (config : Setting α) (formulation : Formulation α) (kernel : Kernel α)
    (read : Setting α → Except (Fault α) Bool := Setting.toFlag) : Except (Fault α) (Plan α) := do
  let (background, backend) ← choices config formulation kernel
  let transport ← corrects config read
  return { background, transport, backend, convectionFactor := kernel.convectionFactor }

end Plan

end ParticleMomentum
