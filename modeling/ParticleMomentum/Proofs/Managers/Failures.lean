import ParticleMomentum.Arithmetic.Double
import ParticleMomentum.Proofs.Managers

/-!
# Requests that fail

A selection that fails leaves its manager as it was. So does an update that the checks of the settings
refuse. But settings that pass those checks may still be refused by the kernel, which wants a dimension
of one, two or three where the bounds only want a number in between. By then the new settings are stored
and have been passed on to the formulation, while the kernel and the evaluator are still the old ones.
-/

namespace ParticleMomentum

variable {α : Type} [Arithmetic α]

open Procedure (Keeps Reaches)

theorem Formulation.updateConfig_record {f : Formulation α} {fields : Settings α}
    (h : f.config = .record fields) (config : Settings α) :
    (f.updateConfig (.record config)).2 = .ok () ∧
      ∃ fields', (f.updateConfig (.record config)).1.config = .record fields' := by
  rw [updateConfig]
  split
  · rw [h]
    exact ⟨rfl, _, rfl⟩
  · exact ⟨rfl, fields, h⟩

theorem Catalogue.createFormulation_record {id : Setting α} {config : Settings α} {f : Formulation α}
    (h : createFormulation id (.record config) = .ok f) : f.config = .record config := by
  simp only [createFormulation, bind_eq_ok_iff, pure_eq_ok_iff] at h
  obtain ⟨d, -, kind, -, settings, held, rfl⟩ := h
  cases held
  rfl

namespace Manager

/-! ## The managers that come about -/

/-- A manager that was made, and has served requests since, some of which may have failed. -/
inductive Reachable : Manager α → Prop where
  | made {config : Settings α} {m : Manager α} (h : make config = .ok m) : Reachable m
  | served {m : Manager α} (h : Reachable m) (request : Request α) : Reachable (serve request m).2

/-- The formulation in use, if there is one, holds its settings in a record. -/
def HoldsRecord (m : Manager α) : Prop :=
  ∀ issued, m.formulation = some issued → ∃ fields, issued.value.config = .record fields

theorem holdsRecord_of_make {config : Settings α} {m : Manager α} (h : make config = .ok m) :
    m.HoldsRecord := by
  obtain ⟨-, rfl⟩ := make_eq_ok_iff.mp h
  intro issued hissued
  cases hissued

def passed (m : Manager α) (config : Settings α) : Manager α :=
  { m with
    formulation := m.formulation.map fun issued =>
      { issued with value := (issued.value.updateConfig (.record config)).1 } }

/-- A formulation that holds a record takes any settings. -/
theorem passToFormulation_eq {m : Manager α} (h : m.HoldsRecord) (config : Settings α) :
    passToFormulation config m = (⟨[], .ok ()⟩, m.passed config) := by
  obtain ⟨settings, formulation, formulationId, kernel, kernelId, evaluator, nextIssue⟩ := m
  cases formulation with
  | none => rfl
  | some issued =>
      obtain ⟨fields, hfields⟩ := h issued rfl
      have taken := (Formulation.updateConfig_record hfields config).1
      rw [passToFormulation, Procedure.ofChange_apply]
      simp only [taken, passed, Option.map_some]

theorem holdsRecord_passed {m : Manager α} (h : m.HoldsRecord) (config : Settings α) :
    (m.passed config).HoldsRecord := by
  intro issued hissued
  obtain ⟨issued', hf, rfl⟩ := Option.map_eq_some_iff.mp hissued
  obtain ⟨fields, hfields⟩ := h issued' hf
  exact (Formulation.updateConfig_record hfields config).2

/-! ### What requests keep -/

/-- A property that every change which a request makes to a manager keeps. -/
structure KeptByChanges (P : Manager α → Prop) : Prop where
  issued : ∀ m, P m → P { m with nextIssue := m.nextIssue + 1 }
  config : ∀ m config, config.validate = .ok () → P m → P { m with config }
  passed : ∀ config, Keeps P (passToFormulation config)
  formulation : ∀ m id f, P m → Catalogue.createFormulation id (.record m.config) = .ok f →
    ∀ s number, P s →
      P { s with formulation := some ⟨number, f⟩, formulationId := some id, evaluator := none }
  kernel : ∀ m id k, P m → Catalogue.createKernel id (.record m.config) = .ok k →
    ∀ s number, P s →
      P { s with kernel := some ⟨number, k⟩, kernelId := some id, evaluator := none }
  evaluator : ∀ m evaluator, P m → P { m with evaluator }

namespace KeptByChanges

variable {P : Manager α → Prop}

theorem issue_bind {β γ : Type} {value : β} {f : Issued β → Call α γ} (kept : KeptByChanges P)
    (h : ∀ number, Keeps P (f ⟨number, value⟩)) : Keeps P (issue value >>= f) :=
  fun m hm => h m.nextIssue _ (kept.issued m hm)

theorem selectFormulation (kept : KeptByChanges P) (id : Setting α) :
    Keeps P (selectFormulation id) := by
  refine Keeps.state_bind fun m hm => ?_
  split
  · exact kept.passed m.config
  · refine (Keeps.ofTrail _).bind fun _ => Keeps.lift_bind fun f hf => ?_
    refine kept.issue_bind fun number => Keeps.update fun s hs => ?_
    exact kept.formulation m id f hm hf s number hs

theorem selectKernel (kept : KeptByChanges P) (id : Setting α) : Keeps P (selectKernel id) := by
  refine (Keeps.ofTrail _).bind fun _ => Keeps.state_bind fun m hm => Keeps.lift_bind fun k hk => ?_
  refine kept.issue_bind fun number => Keeps.update fun s hs => ?_
  exact kept.kernel m id k hm hk s number hs

theorem updateConfig (kept : KeptByChanges P) (config : Setting α) : Keeps P (updateConfig config) := by
  have released : Keeps P (Procedure.update fun m => { m with evaluator := none } : Call α Unit) :=
    Keeps.update fun s hs => kept.evaluator s none hs
  refine Keeps.state_bind fun m _ => Keeps.lift_bind fun _ _ => Keeps.lift_bind fun _ valid => ?_
  refine Keeps.bind ?_ fun _ => (kept.passed _).bind fun _ => ?_
  · exact Keeps.update fun s hs => kept.config s _ valid hs
  cases m.kernelId with
  | none => exact released
  | some id => exact (kept.selectKernel id).bind fun _ => released

theorem getEvaluator (kept : KeptByChanges P) : Keeps P (getEvaluator : Call α _) := by
  refine Keeps.state_bind fun m _ => ?_
  split
  · exact Keeps.pure _
  · refine (getFormulation_keeps kept.selectFormulation).bind fun _ => ?_
    refine (getKernel_keeps kept.selectKernel).bind fun _ => ?_
    refine Keeps.state_bind fun _ _ => Keeps.lift_bind fun _ _ => kept.issue_bind fun _ => ?_
    refine Keeps.bind ?_ fun _ => Keeps.pure _
    exact Keeps.update fun s hs => kept.evaluator s _ hs

/-- What the single changes keep, every request keeps, whether it fails or not. -/
theorem serve (kept : KeptByChanges P) (request : Request α) : Keeps P (serve request) := by
  cases request with
  | selectFormulation id => exact kept.selectFormulation id
  | selectKernel id => exact kept.selectKernel id
  | updateConfig config => exact kept.updateConfig config
  | getFormulation =>
      exact (getFormulation_keeps kept.selectFormulation).bind fun _ => Keeps.pure ()
  | getKernel => exact (getKernel_keeps kept.selectKernel).bind fun _ => Keeps.pure ()
  | getEvaluator => exact kept.getEvaluator.bind fun _ => Keeps.pure ()

end KeptByChanges

/-- What holds of new managers and is kept holds of every manager. -/
theorem Reachable.of_kept {P : Manager α → Prop} (kept : KeptByChanges P)
    (made : ∀ config m, make config = .ok m → P m) {m : Manager α} (h : m.Reachable) : P m := by
  induction h with
  | made h => exact made _ _ h
  | served _ request ih => exact kept.serve request _ ih

/-- The settings of the formulation stay in a record. -/
theorem holdsRecord_kept : KeptByChanges (HoldsRecord : Manager α → Prop) where
  issued _ hm := hm
  config _ _ _ hm := hm
  passed config m hm := by
    rw [passToFormulation_eq hm]
    exact holdsRecord_passed hm config
  formulation m id f _ hf s number _ := by
    rintro issued ⟨⟩
    exact ⟨m.config, Catalogue.createFormulation_record hf⟩
  kernel _ _ _ _ _ _ _ hs := hs
  evaluator _ _ hm := hm

theorem Reachable.holdsRecord {m : Manager α} (h : m.Reachable) : m.HoldsRecord :=
  h.of_kept holdsRecord_kept fun _ _ => holdsRecord_of_make

/-! ## How requests fail -/

variable {m : Manager α} {id : Setting α} {fault : Fault α}

theorem bindEvaluator_of_error {formulation : Issued (Formulation α)} {kernel : Issued (Kernel α)}
    (h : Plan.ofSettings (.record m.config) formulation.value kernel.value = .error fault) :
    bindEvaluator formulation kernel m = (⟨[], .error fault⟩, m) := by
  have refused : (Evaluator.make (.record m.config) .strict).setup formulation.value kernel.value =
      (Evaluator.make (.record m.config) .strict, .error fault) := Evaluator.setup_of_error rfl h
  rw [bindEvaluator, Procedure.state_bind]
  simp only [refused]
  exact Procedure.bind_of_error (Procedure.liftM_except_apply _ _) _

theorem selectKernel_of_error (h : Catalogue.createKernel id (.record m.config) = .error fault) :
    selectKernel id m = (⟨[.selectingKernel id], .error fault⟩, m) := by
  rw [selectKernel, Procedure.bind_of_ok (Procedure.emit_apply _ _), Procedure.state_bind, h,
    Procedure.bind_of_error (Procedure.liftM_except_apply _ _)]
  rfl

/-- A selection of a kernel fails just where none can be made, and then changes nothing. -/
theorem selectKernel_fails (h : (selectKernel id m).1.result = .error fault) :
    Catalogue.createKernel id (.record m.config) = .error fault ∧ (selectKernel id m).2 = m := by
  rcases create : Catalogue.createKernel id (.record m.config) with f | kernel
  · rw [selectKernel_of_error create] at h ⊢
    cases h
    exact ⟨rfl, rfl⟩
  · rw [(selectKernel_reaches create).1] at h
    cases h

theorem selectFormulation_of_error (anew : ¬ m.Uses id)
    (h : Catalogue.createFormulation id (.record m.config) = .error fault) :
    selectFormulation id m = (⟨[.selectingFormulation id], .error fault⟩, m) := by
  rw [selectFormulation, Procedure.state_bind, if_neg anew,
    Procedure.bind_of_ok (Procedure.emit_apply _ _), h,
    Procedure.bind_of_error (Procedure.liftM_except_apply _ _)]
  rfl

/-- A formulation in use already only receives the settings. -/
theorem selectFormulation_of_uses (held : m.HoldsRecord) (uses : m.Uses id) :
    selectFormulation id m = (⟨[], .ok ()⟩, m.passed m.config) := by
  rw [selectFormulation, Procedure.state_bind, if_pos uses, passToFormulation_eq held]

/-- A selection of a formulation that fails changes nothing. -/
theorem selectFormulation_fails (held : m.HoldsRecord)
    (h : (selectFormulation id m).1.result = .error fault) : (selectFormulation id m).2 = m := by
  by_cases uses : m.Uses id
  · rw [selectFormulation_of_uses held uses] at h
    cases h
  · rcases create : Catalogue.createFormulation id (.record m.config) with f | formulation
    · rw [selectFormulation_of_error uses create]
    · rw [(selectFormulation_reaches uses create).1] at h
      cases h

/-- The end of an update: a kernel that was selected is made anew, and the evaluator is let go. -/
def rebuild (kernelId : Option (Setting α)) : Call α Unit := do
  match kernelId with
  | some id => selectKernel id
  | none => pure ()
  Procedure.update fun m => { m with evaluator := none }

/-- Only the kernel can refuse to be made anew; then nothing more happens. -/
theorem rebuild_fails {kernelId : Option (Setting α)}
    (h : (rebuild kernelId m).1.result = .error fault) :
    ∃ id, kernelId = some id ∧ Catalogue.createKernel id (.record m.config) = .error fault := by
  cases kernelId with
  | none => cases h
  | some id =>
      obtain ⟨failed, -⟩ | ⟨_, _, failed, _⟩ := Procedure.bind_result_eq_error h
      · exact ⟨id, rfl, (selectKernel_fails failed).1⟩
      · cases failed

theorem rebuild_of_error (h : Catalogue.createKernel id (.record m.config) = .error fault) :
    (rebuild (some id) m).1.result = .error fault ∧ (rebuild (some id) m).2 = m := by
  have stops : rebuild (some id) m = (⟨[.selectingKernel id], .error fault⟩, m) :=
    Procedure.bind_of_error (selectKernel_of_error h) _
  rw [stops]
  exact ⟨rfl, rfl⟩

theorem rebuild_of_ok {k : Kernel α} (h : Catalogue.createKernel id (.record m.config) = .ok k) :
    (rebuild (some id)).Reaches m () (m.withKernel id k) :=
  (selectKernel_reaches h).bind (Reaches.update _ _)

/-! ## How updates fail -/

variable {config : Setting α}

/-- The settings after an update. -/
def merged (m : Manager α) (config : Setting α) : Settings α := (m.config.mergeSetting config).1

/-- New settings that cannot be merged, or that leave the bounds. -/
def ChecksRefuse (m : Manager α) (config : Setting α) (fault : Fault α) : Prop :=
  (m.config.mergeSetting config).2 = .error fault ∨
    (m.config.mergeSetting config).2 = .ok () ∧ (m.merged config).validate = .error fault

/-- New settings that pass all checks, but of which the selected kernel cannot be made anew. -/
def KernelRefuses (m : Manager α) (config : Setting α) (fault : Fault α) : Prop :=
  (m.config.mergeSetting config).2 = .ok () ∧ (m.merged config).validate = .ok () ∧
    ∃ id, m.kernelId = some id ∧ Catalogue.createKernel id (.record (m.merged config)) = .error fault

/-- The manager when an update has stored the new settings and passed them on, and nothing else is
done. -/
def received (m : Manager α) (config : Setting α) : Manager α :=
  { m with config := m.merged config }.passed (m.merged config)

theorem updateConfig_apply :
    updateConfig config m = (do
      (m.config.mergeSetting config).2
      (m.merged config).validate
      Procedure.update fun m' => { m' with config := m.merged config }
      passToFormulation (m.merged config)
      rebuild m.kernelId : Call α Unit) m :=
  rfl

/-- An update that the checks refuse changes nothing. -/
theorem updateConfig_of_checksRefuse (refused : m.ChecksRefuse config fault) :
    updateConfig config m = (⟨[], .error fault⟩, m) := by
  rw [updateConfig_apply]
  rcases refused with unmerged | ⟨merges, invalid⟩
  · rw [unmerged]
    rfl
  · rw [merges, invalid]
    rfl

/-- An update that passes the checks rebuilds once the manager has received the settings. -/
theorem updateConfig_of_valid (held : m.HoldsRecord)
    (merges : (m.config.mergeSetting config).2 = .ok ())
    (valid : (m.merged config).validate = .ok ()) :
    (updateConfig config m).1.result = (rebuild m.kernelId (m.received config)).1.result ∧
      (updateConfig config m).2 = (rebuild m.kernelId (m.received config)).2 := by
  have held' : ({ m with config := m.merged config } : Manager α).HoldsRecord := held
  have passes := passToFormulation_eq held' (m.merged config)
  rw [updateConfig_apply, merges, valid,
    Procedure.bind_of_ok (Procedure.liftM_except_apply _ _),
    Procedure.bind_of_ok (Procedure.liftM_except_apply _ _),
    Procedure.bind_of_ok (Procedure.update_apply _ _), Procedure.bind_of_ok passes]
  exact ⟨rfl, rfl⟩

/-- An update that only the kernel refuses stops where the manager has received the settings. -/
theorem updateConfig_of_kernelRefuses (held : m.HoldsRecord)
    (refused : m.KernelRefuses config fault) :
    (updateConfig config m).1.result = .error fault ∧
      (updateConfig config m).2 = m.received config := by
  obtain ⟨merges, valid, id, hid, unmade⟩ := refused
  obtain ⟨result, state⟩ := updateConfig_of_valid held merges valid
  obtain ⟨fails, stays⟩ := rebuild_of_error (m := m.received config) unmade
  rw [result, state, hid]
  exact ⟨fails, stays⟩

/-- An update fails just if the checks or the kernel refuse it. -/
theorem updateConfig_fails_iff (held : m.HoldsRecord) :
    (updateConfig config m).1.result = .error fault ↔
      m.ChecksRefuse config fault ∨ m.KernelRefuses config fault := by
  constructor
  · intro h
    rcases merges : (m.config.mergeSetting config).2 with f | ⟨⟩
    · rw [updateConfig_of_checksRefuse (.inl merges)] at h
      cases h
      exact .inl (.inl merges)
    rcases valid : (m.merged config).validate with f | ⟨⟩
    · rw [updateConfig_of_checksRefuse (.inr ⟨merges, valid⟩)] at h
      cases h
      exact .inl (.inr ⟨merges, valid⟩)
    · rw [(updateConfig_of_valid held merges valid).1] at h
      exact .inr ⟨merges, valid, rebuild_fails h⟩
  · rintro (refused | refused)
    · rw [updateConfig_of_checksRefuse refused]
    · exact (updateConfig_of_kernelRefuses held refused).1

/-- What a failed request leaves behind. A selection leaves the manager as it was, and so does an update
that the checks refuse. An update that only the kernel refuses leaves the new settings in the manager
and in its formulation, beside the old kernel and the old evaluator. -/
theorem failed_request {m : Manager α} (reachable : m.Reachable) :
    (∀ id fault, (selectFormulation id m).1.result = .error fault → (selectFormulation id m).2 = m) ∧
    (∀ id fault, (selectKernel id m).1.result = .error fault → (selectKernel id m).2 = m) ∧
    ∀ config fault,
      ((updateConfig config m).1.result = .error fault ↔
        m.ChecksRefuse config fault ∨ m.KernelRefuses config fault) ∧
      (m.ChecksRefuse config fault → (updateConfig config m).2 = m) ∧
      (m.KernelRefuses config fault → (updateConfig config m).2 = m.received config) := by
  have held := reachable.holdsRecord
  refine ⟨fun _ _ => selectFormulation_fails held, fun _ _ h => (selectKernel_fails h).2,
    fun config fault => ⟨updateConfig_fails_iff held, fun refused => ?_, fun refused => ?_⟩⟩
  · rw [updateConfig_of_checksRefuse refused]
  · exact (updateConfig_of_kernelRefuses held refused).2

/-! ## An update that only the kernel refuses -/

/-- A manager for particles on a line, before its first request. -/
def lineManager : Manager Float :=
  { config := [("support_radius", .whole 2), ("kernel_space_dim", .whole 1)]
    formulation := none
    formulationId := none
    kernel := none
    kernelId := none
    evaluator := none
    nextIssue := 0 }

/-- The manager when it has made a formulation, a kernel and an evaluator. -/
def busyManager : Manager Float := (serve .getEvaluator lineManager).2

/-- Settings that ask for a dimension of one and a half. -/
def halfDimension : Setting Float := .record [("kernel_space_dim", .real 1.5)]

theorem busyManager_reachable : busyManager.Reachable := by
  have made : make lineManager.config = .ok lineManager := rfl
  exact (Reachable.made made).served .getEvaluator

theorem busyManager_kernelRefuses : busyManager.KernelRefuses halfDimension
    (.dimensionNotAllowed Spline.cubic.className (.real 1.5)) :=
  ⟨rfl, rfl, _, rfl, rfl⟩

theorem failed_request_busyManager :
    busyManager.Reachable ∧
    (∃ fault, (updateConfig halfDimension busyManager).1.result = .error fault) ∧
    (updateConfig halfDimension busyManager).2 = busyManager.received halfDimension := by
  obtain ⟨-, -, updates⟩ := failed_request busyManager_reachable
  obtain ⟨fails, -, keeps⟩ := updates halfDimension _
  exact ⟨busyManager_reachable, ⟨_, fails.mpr (.inr busyManager_kernelRefuses)⟩,
    keeps busyManager_kernelRefuses⟩

/-- A failed update may change the settings of its manager. -/
theorem failed_update_changes :
    ¬ ∀ m : Manager Float, m.Reachable → ∀ config fault,
      (updateConfig config m).1.result = .error fault → (updateConfig config m).2.config = m.config := by
  intro atomic
  obtain ⟨fails, state⟩ :=
    updateConfig_of_kernelRefuses busyManager_reachable.holdsRecord busyManager_kernelRefuses
  have same := atomic busyManager busyManager_reachable _ _ fails
  rw [state] at same
  -- one side holds the new dimension, the other one the old
  have dimension := congrArg (Settings.find? · "kernel_space_dim") same
  cases dimension

end Manager

end ParticleMomentum
