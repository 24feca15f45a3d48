import ParticleMomentum.Proofs.Scenarios
import ParticleMomentum.Proofs.Settings

/-!
# Settings that differ in the transport velocity

Only the plan of an evaluation reads whether transport velocities are corrected for. Settings that agree
on all other names are therefore accepted alike and describe the same lattice, and what they make for an
evaluation differs in that one entry of the plan, apart from the settings that formulation and kernel
keep.
-/

namespace ParticleMomentum

variable {α : Type}

namespace Settings

/-- The settings agree on every name but that of the transport velocity. -/
def AgreeButTransport (s s' : Settings α) : Prop :=
  ∀ key, key ≠ "transport_velocity" → s'.find? key = s.find? key

theorem agreeButTransport_put (s : Settings α) (value : Setting α) :
    s.AgreeButTransport (s.put "transport_velocity" value) :=
  fun _ different => find?_put_of_ne different s value

end Settings

variable [Arithmetic α]

/-! ## Formulations, kernels and plans -/

def Kernel.configured (k : Kernel α) (config : Setting α) : Kernel α := { k with config }

def Formulation.configured (f : Formulation α) (config : Setting α) : Formulation α := { f with config }

/-- The equipment that settings make which differ in the transport velocity: another entry of the plan, and
other settings that are kept. -/
def Equipment.configured (made : Equipment α) (s : Settings α) : Equipment α where
  formulation := made.formulation.configured (.record s)
  kernel := made.kernel.configured (.record s)
  plan := { made.plan with transport := (s.findD "transport_velocity" (.flag false)).truth }

namespace Kernel

variable {config config' : Setting α}

/-- A setup reads the radius and the dimension, and nothing else of the settings. -/
theorem setup_configured (k : Kernel α)
    (radius : config.lookup "support_radius" = k.config.lookup "support_radius")
    (dimension : config.lookup "kernel_space_dim" = k.config.lookup "kernel_space_dim") :
    (k.configured config).setup = (k.setup.1.configured config, k.setup.2) := by
  have radii : (k.configured config).wantedRadius = k.wantedRadius := by
    rw [wantedRadius, wantedRadius, configured, radius]
  have dimensions : (k.configured config).wantedDimension = k.wantedDimension := by
    rw [wantedDimension, wantedDimension, Setting.lookupD, Setting.lookupD, configured, dimension]
  rw [setup, setup, radii, dimensions]
  dsimp only
  split
  · rfl
  · next radius dimension _ =>
    rcases made : k.spline.normalization dimension (radius / k.spline.supportRatio) with e | c <;>
      simp only [configured, made]

theorem create_configured (spline : Spline)
    (radius : config'.lookup "support_radius" = config.lookup "support_radius")
    (dimension : config'.lookup "kernel_space_dim" = config.lookup "kernel_space_dim") :
    create spline config' = (create spline config).map (·.configured config') := by
  have reset := (make spline config).setup_configured radius dimension
  change (make spline config').setup = _ at reset
  rw [create, create, reset]
  rcases (make spline config).setup with ⟨k, e | ⟨⟩⟩ <;> rfl

end Kernel

omit [Arithmetic α] in
theorem Setting.lookupD_record (s : Settings α) (key : String) (default : Setting α) :
    (Setting.record s).lookupD key default = .ok (s.findD key default) := rfl

/-- Of its settings a formulation reads nothing when it is made. -/
theorem Catalogue.createFormulation_configured (id : Setting α) (s s' : Settings α) :
    createFormulation id (.record s') =
      (createFormulation id (.record s)).map (·.configured (.record s')) := by
  rw [createFormulation, createFormulation]
  rcases find _ id _ with fault | d
  · rfl
  change resolveClass d _ >>= _ = (resolveClass d _ >>= _).map _
  rcases resolveClass d FormulationClass.ofClassName? with fault | kind <;> rfl

namespace Settings.AgreeButTransport

variable {s s' : Settings α} (agree : s.AgreeButTransport s')
include agree

omit [Arithmetic α] in
theorem findD_eq {key : String} (other : key ≠ "transport_velocity") (default : Setting α) :
    s'.findD key default = s.findD key default := by
  rw [findD, findD, agree key other]

omit [Arithmetic α] in
theorem require_eq {key : String} (other : key ≠ "transport_velocity") :
    s'.require key = s.require key := by
  rw [require, require, agree key other]

theorem requireReal_eq {key : String} (other : key ≠ "transport_velocity") :
    s'.requireReal key = s.requireReal key := by
  rw [requireReal, requireReal, agree.require_eq other]

omit [Arithmetic α] in
theorem lookup_eq {key : String} (other : key ≠ "transport_velocity") :
    (Setting.record s').lookup key = (Setting.record s).lookup key :=
  congrArg Except.ok (agree key other)

/-- The transport velocity has no bounds. -/
theorem validate_eq : s'.validate = s.validate := by
  have unbounded : ∀ b ∈ (Bound.all : List (Bound α)), b.key ≠ "transport_velocity" := by
    simp [Bound.all]
  have checks : ∀ b ∈ (Bound.all : List (Bound α)), b.check s' = b.check s := fun b hmem => by
    rw [Bound.check, Bound.check, agree _ (unbounded b hmem)]
  rw [validate, validate]
  generalize (Bound.all : List (Bound α)) = bounds at checks
  induction bounds with
  | nil => rfl
  | cons b rest ih =>
      obtain ⟨first, others⟩ := List.forall_mem_cons.mp checks
      change (b.check s' >>= fun _ => rest.forM _) = (b.check s >>= fun _ => rest.forM _)
      rw [first, ih others]

theorem lattice_eq : CubicLattice.ofSettings s' = CubicLattice.ofSettings s := by
  rw [CubicLattice.ofSettings, CubicLattice.ofSettings]
  simp only [agree.require_eq, agree.requireReal_eq, ne_eq, String.reduceEq, not_false_eq_true]

theorem kernel_eq (id : Setting α) :
    Catalogue.createKernel id (.record s') =
      (Catalogue.createKernel id (.record s)).map (·.configured (.record s')) := by
  rw [Catalogue.createKernel, Catalogue.createKernel]
  rcases Catalogue.find _ id _ with fault | d
  · rfl
  change Catalogue.resolveClass d _ >>= _ = (Catalogue.resolveClass d _ >>= _).map _
  rcases Catalogue.resolveClass d Spline.ofClassName? with fault | spline
  · rfl
  exact Kernel.create_configured spline (agree.lookup_eq (by decide)) (agree.lookup_eq (by decide))

omit [Arithmetic α] in
theorem choices_eq (f : Formulation α) (k : Kernel α) :
    Plan.choices (.record s') (f.configured (.record s')) (k.configured (.record s')) =
      Plan.choices (.record s) f k := by
  have formulation : (f.configured (.record s')).ready = f.ready := rfl
  have kind : (f.configured (.record s')).kind = f.kind := rfl
  have kernel : (k.configured (.record s')).ready = k.ready := rfl
  rw [Plan.choices, Plan.choices, formulation, kind, kernel]
  simp only [Setting.lookupD_record, agree.findD_eq, ne_eq, String.reduceEq, not_false_eq_true]
  rfl

/-- The plan has another entry for the transport correction. -/
theorem plan_eq (f : Formulation α) (k : Kernel α) :
    Plan.ofSettings (.record s') (f.configured (.record s')) (k.configured (.record s')) =
      (Plan.ofSettings (.record s) f k).map fun plan =>
        { plan with transport := (s'.findD "transport_velocity" (.flag false)).truth } := by
  rw [Plan.ofSettings, Plan.ofSettings, agree.choices_eq]
  rcases Plan.choices (.record s) f k with fault | ⟨background, backend⟩ <;> rfl

theorem equipment_eq : s'.equipment = s.equipment.map (·.configured s') := by
  rw [equipment, equipment, formulationId, formulationId, kernelId, kernelId,
    agree.findD_eq (by decide), agree.findD_eq (by decide),
    Catalogue.createFormulation_configured _ s s', agree.kernel_eq]
  rcases Catalogue.createFormulation _ _ with fault | f
  · rfl
  rcases Catalogue.createKernel _ _ with fault | k
  · rfl
  change Plan.ofSettings _ _ _ >>= _ = (Plan.ofSettings _ _ _ >>= _).map _
  rw [agree.plan_eq]
  rcases Plan.ofSettings _ f k with fault | plan <;> rfl

end Settings.AgreeButTransport

end ParticleMomentum
