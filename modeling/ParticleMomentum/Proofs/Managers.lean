import ParticleMomentum.Manager
import ParticleMomentum.Proofs.Evaluation.Plans
import ParticleMomentum.Proofs.Trail

/-!
# Managers at work

A manager only ever issues formulations from the catalogue. Each of these follows one of the two
schemes, under the number and the class name that belong to it. A manager that holds nothing yet makes
what it is asked for, from its settings.
-/

namespace ParticleMomentum

variable {α : Type} [Arithmetic α]

open Procedure (Ensures Keeps Reaches)

/-- The kind of a formulation from the catalogue. -/
def FormulationClass.IsRegistered (kind : FormulationClass) : Prop :=
  ∃ scheme, kind = FormulationClass.ofScheme scheme

theorem FormulationClass.isRegistered_of_ofClassName? {name : String} {kind : FormulationClass}
    (h : ofClassName? name = some kind) : kind.IsRegistered := by
  have hmem := List.mem_of_find?_eq_some h
  rw [List.mem_cons, List.mem_singleton] at hmem
  rcases hmem with rfl | rfl
  · exact ⟨.monaghan, rfl⟩
  · exact ⟨.adami, rfl⟩

theorem Catalogue.createFormulation_isRegistered {id config : Setting α} {f : Formulation α}
    (h : createFormulation id config = .ok f) : f.kind.IsRegistered := by
  simp only [createFormulation, bind_eq_ok_iff, pure_eq_ok_iff] at h
  obtain ⟨d, -, kind, hkind, settings, -, rfl⟩ := h
  rw [resolveClass] at hkind
  split at hkind
  · next found =>
    cases hkind
    exact FormulationClass.isRegistered_of_ofClassName? found
  · cases hkind

theorem Formulation.updateConfig_kind (f : Formulation α) (config : Setting α) :
    (f.updateConfig config).1.kind = f.kind := by
  rw [updateConfig]
  split <;> rfl

namespace Manager

/-- A manager is made just of valid settings, and holds nothing else at first. -/
theorem make_eq_ok_iff {config : Settings α} {m : Manager α} :
    make config = .ok m ↔
      config.validate = .ok () ∧ m = ⟨config, none, none, none, none, none, 0⟩ := by
  rw [make, bind_eq_ok_iff]
  constructor
  · rintro ⟨⟨⟩, valid, ⟨⟩⟩
    exact ⟨valid, rfl⟩
  · rintro ⟨valid, rfl⟩
    exact ⟨(), valid, rfl⟩

/-- The formulation in use, if there is one, is from the catalogue. -/
def HasRegistered (m : Manager α) : Prop :=
  ∀ issued, m.formulation = some issued → issued.value.kind.IsRegistered

theorem hasRegistered_of_make {config : Settings α} {m : Manager α} (h : make config = .ok m) :
    m.HasRegistered := by
  obtain ⟨-, rfl⟩ := make_eq_ok_iff.mp h
  intro issued hissued
  cases hissued

theorem passToFormulation_ensures (config : Settings α) :
    Ensures HasRegistered (passToFormulation config) fun _ => HasRegistered := by
  apply Ensures.ofChange
  intro m _ hm _
  rcases hf : m.formulation with _ | issued
  · simpa only [hf] using hm
  · intro issued' h
    simp only [Option.some.injEq] at h
    subst h
    change (issued.value.updateConfig (.record config)).1.kind.IsRegistered
    rw [Formulation.updateConfig_kind]
    exact hm issued hf

omit [Arithmetic α] in
theorem issue_ensures {β : Type} (value : β) (m : Manager α) :
    Ensures (· = m) (issue value) fun issued s =>
      issued.value = value ∧ s.formulation = m.formulation := by
  intro s hs issued hi
  cases hi
  have same : s.formulation = m.formulation := congrArg Manager.formulation hs
  exact ⟨rfl, same⟩

theorem selectFormulation_ensures (id : Setting α) :
    Ensures HasRegistered (selectFormulation id) fun _ => HasRegistered := by
  apply Ensures.state_bind
  intro m hm
  split
  · exact (passToFormulation_ensures _).consequence (fun _ h => h ▸ hm) fun _ _ h => h
  · refine (Ensures.emit _).bind fun _ => ?_
    refine Ensures.liftExcept_bind fun f hf => ?_
    refine (issue_ensures f m).bind fun issued => Ensures.update fun s hs => ?_
    intro issued' h
    cases h
    rw [hs.1]
    exact Catalogue.createFormulation_isRegistered hf

theorem getFormulation_ensures :
    Ensures HasRegistered (getFormulation : Call α _) fun issued m =>
      issued.value.kind.IsRegistered ∧ HasRegistered m := by
  have current : Ensures HasRegistered (getFormulation.current : Call α _) fun issued m =>
      issued.value.kind.IsRegistered ∧ HasRegistered m := by
    apply Ensures.state_bind
    intro m hm
    split
    · next issued h => exact Ensures.pure fun s hs => ⟨hm issued h, hs ▸ hm⟩
    · exact Ensures.fail _
  apply Ensures.state_bind
  intro m hm
  split
  · next issued h => exact Ensures.pure fun s hs => ⟨hm issued h, hs ▸ hm⟩
  · refine Ensures.bind ?_ fun _ => current
    exact (selectFormulation_ensures _).consequence (fun _ hs => hs ▸ hm) fun _ _ h => h

/-- A procedure that leaves the formulation alone leaves it registered. -/
theorem selectKernel_ensures (id : Setting α) :
    Ensures HasRegistered (selectKernel id) fun _ => HasRegistered := by
  refine (Ensures.emit _).bind fun _ => Ensures.state_bind fun m hm => ?_
  refine Ensures.liftExcept_bind fun kernel _ => ?_
  refine (issue_ensures kernel m).bind fun issued => Ensures.update fun s hs issued' h => ?_
  exact hm issued' (hs.2 ▸ h)

theorem getKernel_ensures :
    Ensures HasRegistered (getKernel : Call α _) fun _ => HasRegistered := by
  apply Ensures.state_bind
  intro m hm
  split
  · exact Ensures.pure fun s hs => hs ▸ hm
  · refine Ensures.bind (Q := fun _ => HasRegistered) ?_ fun _ => ?_
    · exact (selectKernel_ensures _).consequence (fun _ hs => hs ▸ hm) fun _ _ h => h
    · apply Ensures.state_bind
      intro m hm
      split
      · exact Ensures.pure fun s hs => hs ▸ hm
      · exact Ensures.fail _

theorem getEvaluator_ensures :
    Ensures HasRegistered (getEvaluator : Call α _) fun _ => HasRegistered := by
  apply Ensures.state_bind
  intro m hm
  split
  · exact Ensures.pure fun s hs => hs ▸ hm
  · refine Ensures.bind (getFormulation_ensures.consequence (fun _ hs => hs ▸ hm) fun _ _ h => h.2)
      fun formulation => getKernel_ensures.bind fun kernel => Ensures.state_bind fun m hm => ?_
    refine Ensures.liftExcept_bind fun _ _ => (issue_ensures _ m).bind fun issued => ?_
    refine Ensures.bind (Q := fun _ => HasRegistered) ?_ fun _ => Ensures.pure fun _ hs => hs
    exact Ensures.update fun s hs issued' h => hm issued' (hs.2 ▸ h)

/-! ## Handing out -/

/-- What selecting a formulation keeps, handing out the one in use keeps. -/
theorem getFormulation_keeps {P : Manager α → Prop} (select : ∀ id, Keeps P (selectFormulation id)) :
    Keeps P getFormulation := by
  refine Keeps.state_bind fun m _ => ?_
  split
  · exact Keeps.pure _
  · refine (select _).bind fun _ => Keeps.state_bind fun s _ => ?_
    split
    · exact Keeps.pure _
    · exact Keeps.ofTrail _

/-- What selecting a kernel keeps, handing out the one in use keeps. -/
theorem getKernel_keeps {P : Manager α → Prop} (select : ∀ id, Keeps P (selectKernel id)) :
    Keeps P getKernel := by
  refine Keeps.state_bind fun m _ => ?_
  split
  · exact Keeps.pure _
  · refine (select _).bind fun _ => Keeps.state_bind fun s _ => ?_
    split
    · exact Keeps.pure _
    · exact Keeps.ofTrail _

/-- The end of a call for an evaluator: a new one is set up for a formulation and a kernel. -/
def bindEvaluator (formulation : Issued (Formulation α)) (kernel : Issued (Kernel α)) :
    Call α (Issued (BoundEvaluator α)) := do
  let m ← Procedure.state
  let (evaluator, result) :=
    (Evaluator.make (.record m.config) .strict).setup formulation.value kernel.value
  result
  let issued ← issue ⟨evaluator, formulation.number, kernel.number⟩
  Procedure.update fun m => { m with evaluator := some issued }
  return issued

/-! ## The first use of a manager -/

variable {m : Manager α} {f : Formulation α} {k : Kernel α} {plan : Plan α} {id : Setting α}

omit [Arithmetic α] in
theorem issue_reaches {β : Type} (value : β) (m : Manager α) :
    (issue value).Reaches m ⟨m.nextIssue, value⟩ { m with nextIssue := m.nextIssue + 1 } := ⟨rfl, rfl⟩

theorem getFormulation_of_some {issued : Issued (Formulation α)} (h : m.formulation = some issued) :
    getFormulation.Reaches m issued m := by
  refine Reaches.state_bind ?_
  rw [h]
  exact Reaches.pure issued m

theorem getKernel_of_some {issued : Issued (Kernel α)} (h : m.kernel = some issued) :
    getKernel.Reaches m issued m := by
  refine Reaches.state_bind ?_
  rw [h]
  exact Reaches.pure issued m

/-- An evaluator that is there is handed out. -/
theorem getEvaluator_of_some {issued : Issued (BoundEvaluator α)} (h : m.evaluator = some issued) :
    getEvaluator m = (⟨[], .ok issued⟩, m) := by
  rw [getEvaluator, Procedure.state_bind, h]
  rfl

theorem getEvaluator_of_none (h : m.evaluator = none) :
    getEvaluator m = (do
      let formulation ← getFormulation
      let kernel ← getKernel
      bindEvaluator formulation kernel) m := by
  rw [getEvaluator, Procedure.state_bind, h]
  rfl

/-- The manager when it has selected a formulation that it did not use before. -/
def withFormulation (m : Manager α) (id : Setting α) (f : Formulation α) : Manager α :=
  { m with
    formulation := some ⟨m.nextIssue, f⟩
    formulationId := some id
    evaluator := none
    nextIssue := m.nextIssue + 1 }

/-- The manager when it has selected a kernel. -/
def withKernel (m : Manager α) (id : Setting α) (k : Kernel α) : Manager α :=
  { m with
    kernel := some ⟨m.nextIssue, k⟩
    kernelId := some id
    evaluator := none
    nextIssue := m.nextIssue + 1 }

/-- The formulation in use, if there is one, goes by an identifier. -/
abbrev Uses (m : Manager α) (id : Setting α) : Prop :=
  (m.formulation.isSome && (m.formulationId.getD .null).same id) = true

theorem selectFormulation_reaches (anew : ¬ m.Uses id)
    (hf : Catalogue.createFormulation id (.record m.config) = .ok f) :
    (selectFormulation id).Reaches m () (m.withFormulation id f) := by
  refine Reaches.state_bind ?_
  rw [if_neg anew]
  refine (Reaches.emit _ m).bind ?_
  refine Reaches.lift_bind hf ?_
  exact (issue_reaches f m).bind (Reaches.update _ _)

theorem not_uses_of_unset (unset : m.formulation = none) : ¬ m.Uses id := by
  rw [Uses, unset]
  exact Bool.false_ne_true

theorem getFormulation_reaches (unset : m.formulation = none)
    (hf : Catalogue.createFormulation (m.config.findD "default_formulation" (.text "adami"))
      (.record m.config) = .ok f) :
    getFormulation.Reaches m ⟨m.nextIssue, f⟩
      (m.withFormulation (m.config.findD "default_formulation" (.text "adami")) f) := by
  refine Reaches.state_bind ?_
  rw [unset]
  refine (selectFormulation_reaches (not_uses_of_unset unset) hf).bind ?_
  exact Reaches.state_bind (Reaches.pure _ _)

theorem selectKernel_reaches (hk : Catalogue.createKernel id (.record m.config) = .ok k) :
    (selectKernel id).Reaches m () (m.withKernel id k) := by
  refine (Reaches.emit _ m).bind (Reaches.state_bind ?_)
  refine Reaches.lift_bind hk ?_
  exact (issue_reaches k m).bind (Reaches.update _ _)

theorem getKernel_reaches (unset : m.kernel = none)
    (hk : Catalogue.createKernel (m.config.findD "default_kernel" (.text "cubic_spline"))
      (.record m.config) = .ok k) :
    getKernel.Reaches m ⟨m.nextIssue, k⟩
      (m.withKernel (m.config.findD "default_kernel" (.text "cubic_spline")) k) := by
  refine Reaches.state_bind ?_
  rw [unset]
  refine (selectKernel_reaches hk).bind ?_
  exact Reaches.state_bind (Reaches.pure _ _)

/-- The evaluator that is set up for a formulation and a kernel. -/
theorem bindEvaluator_reaches {formulation : Issued (Formulation α)} {kernel : Issued (Kernel α)}
    (hp : Plan.ofSettings (.record m.config) formulation.value kernel.value = .ok plan) :
    let bound : Issued (BoundEvaluator α) :=
      ⟨m.nextIssue, ⟨⟨.record m.config, some plan, .strict⟩, formulation.number, kernel.number⟩⟩
    (bindEvaluator formulation kernel).Reaches m bound
      { m with evaluator := some bound, nextIssue := m.nextIssue + 1 } := by
  intro bound
  have made : (Evaluator.make (.record m.config) .strict).setup formulation.value kernel.value =
      (⟨.record m.config, some plan, .strict⟩, .ok ()) := Evaluator.setup_of_ofSettings hp
  refine Reaches.state_bind ?_
  simp only [made]
  refine Reaches.lift_bind rfl ?_
  refine (issue_reaches _ _).bind ?_
  exact (Reaches.update _ _).bind (Reaches.pure _ _)

/-- A manager that only lacks an evaluator makes one for the formulation and the kernel in use. -/
theorem getEvaluator_binds {formulation : Issued (Formulation α)} {kernel : Issued (Kernel α)}
    (noEvaluator : m.evaluator = none) (hf : m.formulation = some formulation)
    (hk : m.kernel = some kernel)
    (hp : Plan.ofSettings (.record m.config) formulation.value kernel.value = .ok plan) :
    let bound : Issued (BoundEvaluator α) :=
      ⟨m.nextIssue, ⟨⟨.record m.config, some plan, .strict⟩, formulation.number, kernel.number⟩⟩
    getEvaluator.Reaches m bound { m with evaluator := some bound, nextIssue := m.nextIssue + 1 } := by
  intro bound
  rw [Reaches, getEvaluator_of_none noEvaluator]
  refine (getFormulation_of_some hf).bind ?_
  exact (getKernel_of_some hk).bind (bindEvaluator_reaches hp)

/-- A manager that holds nothing yet makes a formulation, a kernel and an evaluator of both. -/
theorem getEvaluator_reaches (noFormulation : m.formulation = none) (noKernel : m.kernel = none)
    (noEvaluator : m.evaluator = none)
    (hf : Catalogue.createFormulation (m.config.findD "default_formulation" (.text "adami"))
      (.record m.config) = .ok f)
    (hk : Catalogue.createKernel (m.config.findD "default_kernel" (.text "cubic_spline"))
      (.record m.config) = .ok k)
    (hp : Plan.ofSettings (.record m.config) f k = .ok plan) :
    let bound : Issued (BoundEvaluator α) :=
      ⟨m.nextIssue + 2, ⟨⟨.record m.config, some plan, .strict⟩, m.nextIssue, m.nextIssue + 1⟩⟩
    getEvaluator.Reaches m bound
      { m with
        formulation := some ⟨m.nextIssue, f⟩
        formulationId := some (m.config.findD "default_formulation" (.text "adami"))
        kernel := some ⟨m.nextIssue + 1, k⟩
        kernelId := some (m.config.findD "default_kernel" (.text "cubic_spline"))
        evaluator := some bound
        nextIssue := m.nextIssue + 3 } := by
  intro bound
  rw [Reaches, getEvaluator_of_none noEvaluator]
  refine (getFormulation_reaches noFormulation hf).bind ?_
  refine Reaches.bind (getKernel_reaches (k := k) ?_ ?_) (bindEvaluator_reaches hp)
  · exact noKernel
  · exact hk

end Manager

end ParticleMomentum
