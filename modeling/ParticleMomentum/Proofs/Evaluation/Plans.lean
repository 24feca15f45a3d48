import ParticleMomentum.Evaluation.Evaluator
import ParticleMomentum.Proofs.Trail

/-!
# Plans read from settings

A setup first checks that it can choose a background pressure and a backend; then it takes over what it
has chosen and what else it reads. It succeeds just if it can read a whole plan. If it fails, it has
either not passed the checks and changed nothing, or it has taken over the background pressure alone.
-/

namespace ParticleMomentum

variable {α : Type}

theorem eq_name_of_find? {β : Type} {kinds : List β} {name : β → String} {t : String} {kind : β}
    (found : kinds.find? (fun k => name k == t) = some kind) : t = name kind :=
  (beq_iff_eq.mp (List.find?_some (p := fun k => name k == t) found)).symm

theorem Background.ofSetting_eq_ok_iff {s : Setting α} {kind : Background} :
    ofSetting s = .ok kind ↔ s = .text kind.name := by
  constructor
  · intro h
    cases s with
    | text t =>
        simp only [ofSetting] at h
        split at h
        · next found =>
          cases h
          rw [eq_name_of_find? found]
        · cases h
    | _ => cases h
  · rintro rfl
    cases kind <;> rfl

/-- Different background pressures have different names. -/
theorem Background.name_injective : Function.Injective name := by
  intro kind kind' same
  cases kind <;> cases kind' <;> first | rfl | exact absurd same (by decide)

theorem Backend.ofSetting_eq_ok_iff {s : Setting α} {backend : Backend} :
    ofSetting s = .ok backend ↔ s = .text backend.name := by
  constructor
  · intro h
    cases s with
    | text t =>
        simp only [ofSetting] at h
        split at h
        · next found =>
          cases h
          rw [eq_name_of_find? found]
        · cases h
    | _ => cases h
  · rintro rfl
    cases backend <;> rfl

/-- The formulation has the number of Monaghan's or of Adami's. -/
def FormulationClass.IsNumbered (kind : FormulationClass) : Prop :=
  kind.number = monaghan.number ∨ kind.number = adami.number

theorem FormulationClass.hasFusedLoop_iff {kind : FormulationClass} :
    kind.hasFusedLoop = true ↔ kind.IsNumbered := by
  rw [hasFusedLoop, Bool.or_eq_true, beq_iff_eq, beq_iff_eq]
  exact Iff.rfl

variable [Arithmetic α] {config : Setting α} {formulation : Formulation α} {kernel : Kernel α}

namespace Plan

/-- What passes the checks of a setup: both parts are ready, the settings name the background pressure and
the backend, and the fused loop has a branch for the formulation where it is to run. -/
structure Chosen (config : Setting α) (formulation : Formulation α) (kernel : Kernel α)
    (background : Background) (backend : Backend) : Prop where
  formulation_ready : formulation.ready = true
  kernel_ready : kernel.ready = true
  background_named : config.lookupD "background_pressure_type" (.text Background.off.name) =
    .ok (.text background.name)
  backend_named : config.lookupD "momentum_backend" (.text Backend.fused.name) =
    .ok (.text backend.name)
  numbered : backend = .fused → formulation.kind.IsNumbered

/-- The plan says what the settings ask for, and the formulation and the kernel are ready for it. -/
structure ReadFrom (plan : Plan α) (config : Setting α) (formulation : Formulation α)
    (kernel : Kernel α) (read : Setting α → Except (Fault α) Bool) : Prop
    extends Chosen config formulation kernel plan.background plan.backend where
  transport : corrects config read = .ok plan.transport
  convectionFactor : plan.convectionFactor = kernel.convectionFactor

variable {read : Setting α → Except (Fault α) Bool} {plan : Plan α}
variable {background : Background} {backend : Backend}

omit [Arithmetic α] in
theorem choices_eq_ok_iff :
    choices config formulation kernel = .ok (background, backend) ↔
      Chosen config formulation kernel background backend := by
  simp only [choices, guard_bind_eq_ok_iff, bind_eq_ok_iff, pure_eq_ok_iff,
    Background.ofSetting_eq_ok_iff, Backend.ofSetting_eq_ok_iff, Bool.not_eq_true', Bool.not_eq_false]
  constructor
  · rintro ⟨formulationReady, kernelReady, _, named, _, rfl, _, chosen, _, rfl, numbered, same⟩
    cases same
    refine ⟨formulationReady, kernelReady, named, chosen, fun fused => ?_⟩
    exact FormulationClass.hasFusedLoop_iff.mp (by simpa [fused] using numbered)
  · rintro ⟨formulationReady, kernelReady, named, chosen, numbered⟩
    refine ⟨formulationReady, kernelReady, _, named, _, rfl, _, chosen, _, rfl, ?_, rfl⟩
    cases backend with
    | stepwise => exact Bool.false_ne_true
    | fused => simpa using FormulationClass.hasFusedLoop_iff.mpr (numbered rfl)

theorem ofSettings_eq_ok_iff :
    ofSettings config formulation kernel read = .ok plan ↔
      plan.ReadFrom config formulation kernel read := by
  rw [ofSettings, bind_eq_ok_iff]
  constructor
  · rintro ⟨⟨background, backend⟩, chosen, h⟩
    obtain ⟨transport, corrected, h⟩ := bind_eq_ok_iff.mp h
    cases pure_eq_ok_iff.mp h
    exact ⟨choices_eq_ok_iff.mp chosen, corrected, rfl⟩
  · rintro ⟨chosen, corrected, factor⟩
    refine ⟨_, choices_eq_ok_iff.mpr chosen, bind_eq_ok_iff.mpr ⟨_, corrected, ?_⟩⟩
    obtain ⟨_, _, _, _⟩ := plan
    cases factor
    rfl

theorem ReadFrom.of_ofSettings (h : ofSettings config formulation kernel read = .ok plan) :
    plan.ReadFrom config formulation kernel read :=
  ofSettings_eq_ok_iff.mp h

/-- Where all settings are read as flags, what passes the checks makes a plan. -/
theorem exists_readFrom_of_chosen (reads : ∀ s, ∃ b, read s = .ok b)
    (h : Chosen config formulation kernel background backend) :
    ∃ plan : Plan α, plan.background = background ∧ plan.ReadFrom config formulation kernel read := by
  obtain ⟨wanted, found⟩ : ∃ wanted, config.lookupD "transport_velocity" (.flag false) = .ok wanted := by
    cases config with
    | record fields => exact ⟨_, rfl⟩
    | null | flag | whole | real | text | sequence => cases h.background_named
  obtain ⟨transport, flag⟩ := reads wanted
  exact ⟨⟨background, transport, backend, kernel.convectionFactor⟩, rfl, h,
    bind_eq_ok_iff.mpr ⟨wanted, found, flag⟩, rfl⟩

end Plan

namespace Evaluator

open Plan (Chosen)

variable {e : Evaluator α} {read : Setting α → Except (Fault α) Bool} {plan : Plan α}

/-! ## Setups -/

theorem setup_of_readFrom (h : plan.ReadFrom e.config formulation kernel read) :
    e.setup formulation kernel read = ({ e with plan := some plan }, .ok ()) := by
  obtain ⟨background, transport, backend, factor⟩ := plan
  obtain ⟨chosen, corrected, rfl⟩ := h
  rw [setup, Plan.choices_eq_ok_iff.mpr chosen]
  simp only [withBackground, corrected]

theorem setup_of_ofSettings (h : Plan.ofSettings e.config formulation kernel read = .ok plan) :
    e.setup formulation kernel read = ({ e with plan := some plan }, .ok ()) :=
  setup_of_readFrom (.of_ofSettings h)

/-- An evaluator that has no plan yet is left as it is by a setup that fails. -/
theorem setup_of_error {f : Fault α} (unset : e.plan = none)
    (h : Plan.ofSettings e.config formulation kernel read = .error f) :
    e.setup formulation kernel read = (e, .error f) := by
  have kept (background : Background) : e.withBackground background = e := by
    obtain ⟨config, _, rule⟩ := e
    cases unset
    rfl
  rcases chosen : Plan.choices e.config formulation kernel with stopped | ⟨background, backend⟩
  · rw [Plan.ofSettings, chosen] at h
    cases h
    rw [setup, chosen]
  · rw [Plan.ofSettings, chosen] at h
    change Plan.corrects e.config read >>= _ = _ at h
    rcases corrected : Plan.corrects e.config read with refused | transport
    · rw [corrected] at h
      cases h
      rw [setup, chosen]
      simp only [kept, corrected]
    · rw [corrected] at h
      cases h

/-- A setup that fails is either stopped by the checks, or by a flag that is refused, after the background
pressure has been taken over. -/
theorem setup_of_not_readFrom
    (h : ¬ ∃ plan : Plan α, plan.ReadFrom e.config formulation kernel read) :
    ∃ f, ((¬ ∃ background backend, Chosen e.config formulation kernel background backend) ∧
        e.setup formulation kernel read = (e, .error f)) ∨
      ∃ background backend, Chosen e.config formulation kernel background backend ∧
        Plan.corrects e.config read = .error f ∧
        e.setup formulation kernel read = (e.withBackground background, .error f) := by
  rcases chosen : Plan.choices e.config formulation kernel with f | ⟨background, backend⟩
  · refine ⟨f, .inl ⟨?_, ?_⟩⟩
    · rintro ⟨background, backend, passes⟩
      cases chosen.symm.trans (Plan.choices_eq_ok_iff.mpr passes)
    · rw [setup, chosen]
  · have passes := Plan.choices_eq_ok_iff.mp chosen
    rcases corrected : Plan.corrects e.config read with f | transport
    · refine ⟨f, .inr ⟨background, backend, passes, rfl, ?_⟩⟩
      rw [setup, chosen]
      simp only [withBackground, corrected]
    · exact absurd ⟨⟨background, transport, backend, kernel.convectionFactor⟩, passes, corrected, rfl⟩ h

end Evaluator

end ParticleMomentum
