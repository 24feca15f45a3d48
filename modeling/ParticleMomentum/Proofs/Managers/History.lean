import ParticleMomentum.Proofs.Managers.Failures
import ParticleMomentum.Proofs.Settings

/-!
# The history of a manager

What a manager holds has been made, or could have been made, from the settings that it has now:
selections make things anew, a formulation that receives merged settings is as if made from these, and
an evaluator is let go when something that it depends on changes. So an evaluator does not depend on how
its manager came by its settings and selections. Only an update that fails on the way can disturb this.
-/

namespace ParticleMomentum

variable {α : Type} [Arithmetic α]

open Procedure (Ensures Keeps Reaches)

/-- A formulation that receives settings that its own have grown into is as if made from these. -/
theorem Formulation.updateConfig_create {kind : FormulationClass} {config config' : Settings α}
    (grown : config.GrownFrom config') (distinct : config.Distinct) :
    ((create kind (.record config)).updateConfig (.record config')).1 =
      create kind (.record config') := by
  rw [updateConfig]
  split
  · change create kind (.record (config.merge config')) = _
    rw [grown.merge_eq distinct]
  · next empty =>
    -- nothing is merged, for nothing was there before either
    have none : config' = [] := by simpa [Setting.truth] using empty
    subst none
    have before : config = [] := List.map_eq_nil_iff.mp (List.prefix_nil.mp grown.names_grow)
    rw [before]

theorem Catalogue.createFormulation_updateConfig {id : Setting α} {config config' : Settings α}
    {f : Formulation α} (h : createFormulation id (.record config) = .ok f)
    (grown : config.GrownFrom config') (distinct : config.Distinct) :
    createFormulation id (.record config') = .ok (f.updateConfig (.record config')).1 := by
  simp only [createFormulation, bind_eq_ok_iff, pure_eq_ok_iff] at h ⊢
  obtain ⟨d, found, kind, resolved, settings, held, rfl⟩ := h
  cases held
  refine ⟨d, found, kind, resolved, .record config', rfl, ?_⟩
  exact Formulation.updateConfig_create grown distinct

namespace Manager

variable {m : Manager α} {id : Setting α}

/-! ## Managers that agree with their settings -/

/-- A manager that was made, and has served requests since. Some may have failed, but no update has. -/
inductive Orderly : Manager α → Prop where
  | made {config : Settings α} {m : Manager α} (distinct : config.Distinct)
      (h : make config = .ok m) : Orderly m
  | served {m : Manager α} (h : Orderly m) (request : Request α)
      (succeeds : ∀ config, request = .updateConfig config → (serve request m).1.result = .ok ()) :
      Orderly (serve request m).2

/-- An evaluator works with the formulation and the kernel in use, by the plan that the settings ask
for. -/
def Binds (m : Manager α) (bound : BoundEvaluator α) : Prop :=
  ∃ formulation kernel plan, m.formulation = some formulation ∧ m.kernel = some kernel ∧
    Plan.ofSettings (.record m.config) formulation.value kernel.value = .ok plan ∧
    bound = ⟨⟨.record m.config, some plan, .strict⟩, formulation.number, kernel.number⟩

/-- The settings are valid, and the formulation in use is what they make of its identifier. -/
structure Founded (m : Manager α) : Prop where
  valid : m.config.validate = .ok ()
  distinct : m.config.Distinct
  formulation : ∀ issued, m.formulation = some issued → ∃ id, m.formulationId = some id ∧
    Catalogue.createFormulation id (.record m.config) = .ok issued.value

/-- So are the kernel and the evaluator. -/
structure Coherent (m : Manager α) : Prop extends Founded m where
  kernel : ∀ issued, m.kernel = some issued → ∃ id, m.kernelId = some id ∧
    Catalogue.createKernel id (.record m.config) = .ok issued.value
  evaluator : ∀ issued, m.evaluator = some issued → m.Binds issued.value

theorem Founded.holdsRecord (h : m.Founded) : m.HoldsRecord := by
  intro issued hissued
  obtain ⟨id, -, create⟩ := h.formulation issued hissued
  exact ⟨m.config, Catalogue.createFormulation_record create⟩

theorem coherent_of_make {config : Settings α} (distinct : config.Distinct)
    (h : make config = .ok m) : m.Coherent := by
  obtain ⟨valid, rfl⟩ := make_eq_ok_iff.mp h
  exact { valid, distinct, formulation := nofun, kernel := nofun, evaluator := nofun }

/-! ## What requests do to them -/

/-- Passing on the current settings changes nothing. -/
theorem Coherent.passed_eq (h : m.Coherent) : m.passed m.config = m := by
  obtain ⟨config, formulation, formulationId, kernel, kernelId, evaluator, nextIssue⟩ := m
  cases formulation with
  | none => rfl
  | some issued =>
      obtain ⟨id, -, create⟩ := h.formulation issued rfl
      have again :=
        Catalogue.createFormulation_updateConfig create (Settings.GrownFrom.refl _) h.distinct
      have same : (issued.value.updateConfig (.record config)).1 = issued.value :=
        Except.ok.inj (again.symm.trans create)
      simp only [passed, Option.map_some, same]

theorem Coherent.withFormulation {f : Formulation α} (h : m.Coherent)
    (hf : Catalogue.createFormulation id (.record m.config) = .ok f) :
    (m.withFormulation id f).Coherent where
  valid := h.valid
  distinct := h.distinct
  formulation := by
    rintro issued ⟨⟩
    exact ⟨id, rfl, hf⟩
  kernel := h.kernel
  evaluator := nofun

/-- A new kernel agrees with the settings, whatever became of the old one. -/
theorem Founded.withKernel {k : Kernel α} (h : m.Founded)
    (hk : Catalogue.createKernel id (.record m.config) = .ok k) : (m.withKernel id k).Coherent where
  valid := h.valid
  distinct := h.distinct
  formulation := h.formulation
  kernel := by
    rintro issued ⟨⟩
    exact ⟨id, rfl, hk⟩
  evaluator := nofun

theorem selectFormulation_coherent (id : Setting α) : Keeps Coherent (selectFormulation id) := by
  intro m hm
  by_cases uses : m.Uses id
  · rw [selectFormulation_of_uses hm.holdsRecord uses, hm.passed_eq]
    exact hm
  · rcases create : Catalogue.createFormulation id (.record m.config) with fault | f
    · rw [selectFormulation_of_error uses create]
      exact hm
    · rw [(selectFormulation_reaches uses create).2]
      exact hm.withFormulation create

theorem selectKernel_coherent (id : Setting α) : Keeps Coherent (selectKernel id) := by
  intro m hm
  rcases create : Catalogue.createKernel id (.record m.config) with fault | k
  · rw [selectKernel_of_error create]
    exact hm
  · rw [(selectKernel_reaches create).2]
    exact hm.withKernel create

theorem selectKernel_formulation (id : Setting α) (m : Manager α) :
    (selectKernel id m).2.formulation = m.formulation := by
  rcases create : Catalogue.createKernel id (.record m.config) with fault | k
  · rw [selectKernel_of_error create]
  · rw [(selectKernel_reaches create).2]
    rfl

/-- The formulation that is handed out is the one in use. -/
theorem getFormulation_current {P : Manager α → Prop} :
    Ensures P getFormulation fun issued m => m.formulation = some issued := by
  have current : Ensures (fun _ => True) (getFormulation.current : Call α _) fun issued m =>
      m.formulation = some issued := by
    refine Ensures.state_bind fun m _ => ?_
    split
    · next issued h => exact Ensures.pure fun s hs => hs ▸ h
    · exact Ensures.fail _
  refine Ensures.state_bind fun m _ => ?_
  split
  · next issued h => exact Ensures.pure fun s hs => hs ▸ h
  · exact Ensures.bind (Q := fun _ _ => True) (fun _ _ _ _ => trivial) fun _ => current

/-- The kernel that is handed out is the one in use, beside the formulation that was in use before. -/
theorem getKernel_current (formulation : Option (Issued (Formulation α))) :
    Ensures (·.formulation = formulation) getKernel fun issued m =>
      m.formulation = formulation ∧ m.kernel = some issued := by
  have current : Ensures (·.formulation = formulation) (getKernel.current : Call α _) fun issued m =>
      m.formulation = formulation ∧ m.kernel = some issued := by
    refine Ensures.state_bind fun m hm => ?_
    split
    · next issued h => exact Ensures.pure fun s hs => hs ▸ ⟨hm, h⟩
    · exact Ensures.fail _
  refine Ensures.state_bind fun m hm => ?_
  split
  · next issued h => exact Ensures.pure fun s hs => hs ▸ ⟨hm, h⟩
  · refine Ensures.bind (Q := fun _ s => s.formulation = formulation) ?_ fun _ => current
    rintro s rfl ⟨⟩ -
    exact (selectKernel_formulation _ s).trans hm

/-- An evaluator that is set up for the formulation and the kernel in use binds these. -/
theorem bindEvaluator_coherent {formulation : Issued (Formulation α)} {kernel : Issued (Kernel α)}
    (h : m.Coherent) (hf : m.formulation = some formulation) (hk : m.kernel = some kernel) :
    (bindEvaluator formulation kernel m).2.Coherent := by
  rcases plan : Plan.ofSettings (.record m.config) formulation.value kernel.value with fault | plan
  · rw [bindEvaluator_of_error plan]
    exact h
  · rw [(bindEvaluator_reaches plan).2]
    refine { h with evaluator := ?_ }
    rintro issued ⟨⟩
    exact ⟨formulation, kernel, _, hf, hk, plan, rfl⟩

theorem getEvaluator_coherent : Keeps Coherent (getEvaluator : Call α _) := by
  intro m hm
  rcases kept : m.evaluator with _ | issued
  case some =>
    rw [getEvaluator_of_some kept]
    exact hm
  rw [getEvaluator_of_none kept]
  have formulated : (getFormulation m).2.Coherent :=
    getFormulation_keeps selectFormulation_coherent m hm
  refine Keeps.bind_at formulated fun formulation hf => ?_
  have inUse := getFormulation_current (P := fun _ => True) m trivial formulation hf
  have equipped : (getKernel (getFormulation m).2).2.Coherent :=
    getKernel_keeps selectKernel_coherent _ formulated
  refine Keeps.bind_at equipped fun kernel hk => ?_
  obtain ⟨still, inUse'⟩ := getKernel_current (some formulation) _ inUse kernel hk
  exact bindEvaluator_coherent equipped still inUse'

/-- An update that succeeds leaves settings, formulation and kernel in agreement, and no evaluator. -/
theorem updateConfig_coherent {config : Setting α} (h : m.Coherent)
    (succeeds : (updateConfig config m).1.result = .ok ()) : (updateConfig config m).2.Coherent := by
  rcases merges : (m.config.mergeSetting config).2 with fault | ⟨⟩
  · rw [updateConfig_of_checksRefuse (.inl merges)] at succeeds
    cases succeeds
  rcases valid : (m.merged config).validate with fault | ⟨⟩
  · rw [updateConfig_of_checksRefuse (.inr ⟨merges, valid⟩)] at succeeds
    cases succeeds
  obtain ⟨result, state⟩ := updateConfig_of_valid h.holdsRecord merges valid
  rw [result] at succeeds
  rw [state]
  have grown : m.config.GrownFrom (m.merged config) := Settings.GrownFrom.mergeSetting _ _
  have founded : (m.received config).Founded := by
    refine ⟨valid, grown.distinct h.distinct, fun issued hissued => ?_⟩
    obtain ⟨before, hbefore, rfl⟩ := Option.map_eq_some_iff.mp hissued
    obtain ⟨id, hid, create⟩ := h.formulation before hbefore
    exact ⟨id, hid, Catalogue.createFormulation_updateConfig create grown h.distinct⟩
  cases hid : m.kernelId with
  | none =>
      have noKernel : ∀ issued, m.kernel ≠ some issued := by
        intro issued hissued
        obtain ⟨id, hid', -⟩ := h.kernel issued hissued
        rw [hid] at hid'
        cases hid'
      exact { founded with
        kernel := fun issued hissued => absurd hissued (noKernel issued)
        evaluator := nofun }
  | some id =>
      rw [hid] at succeeds
      rcases create : Catalogue.createKernel id (.record (m.received config).config) with fault | k
      · rw [(rebuild_of_error create).1] at succeeds
        cases succeeds
      · rw [(rebuild_of_ok create).2]
        exact founded.withKernel create

/-- Every request but a failed update leaves a manager that agrees with its settings. -/
theorem serve_coherent (h : m.Coherent) (request : Request α)
    (succeeds : ∀ config, request = .updateConfig config → (serve request m).1.result = .ok ()) :
    (serve request m).2.Coherent := by
  cases request with
  | selectFormulation id => exact selectFormulation_coherent id m h
  | selectKernel id => exact selectKernel_coherent id m h
  | updateConfig config => exact updateConfig_coherent h (succeeds config rfl)
  | getFormulation =>
      exact (getFormulation_keeps selectFormulation_coherent).bind (fun _ => Keeps.pure ()) m h
  | getKernel => exact (getKernel_keeps selectKernel_coherent).bind (fun _ => Keeps.pure ()) m h
  | getEvaluator => exact getEvaluator_coherent.bind (fun _ => Keeps.pure ()) m h

theorem Orderly.coherent (h : m.Orderly) : m.Coherent := by
  induction h with
  | made distinct h => exact coherent_of_make distinct h
  | served _ request succeeds ih => exact serve_coherent ih request succeeds

/-! ## A manager without a history -/

structure Holdings (α : Type) where
  config : Settings α
  formulation : Option (Formulation α)
  formulationId : Option (Setting α)
  kernel : Option (Kernel α)
  kernelId : Option (Setting α)
  evaluator : Option (Evaluator α)

def holdings (m : Manager α) : Holdings α where
  config := m.config
  formulation := m.formulation.map (·.value)
  formulationId := m.formulationId
  kernel := m.kernel.map (·.value)
  kernelId := m.kernelId
  evaluator := m.evaluator.map (·.value.evaluator)

/-- Selects a formulation and a kernel, and asks for an evaluator. -/
def equip (formulationId kernelId : Setting α) : Call α (Issued (BoundEvaluator α)) := do
  selectFormulation formulationId
  selectKernel kernelId
  getEvaluator

/-- What a new manager holds when it has been equipped. -/
theorem equip_reaches {config : Settings α} {formulationId kernelId : Setting α} {f : Formulation α}
    {k : Kernel α} {plan : Plan α}
    (hf : Catalogue.createFormulation formulationId (.record config) = .ok f)
    (hk : Catalogue.createKernel kernelId (.record config) = .ok k)
    (hp : Plan.ofSettings (.record config) f k = .ok plan) :
    let fresh : Manager α := ⟨config, none, none, none, none, none, 0⟩
    ∃ bound s, (equip formulationId kernelId).Reaches fresh bound s ∧
      bound.value.evaluator = ⟨.record config, some plan, .strict⟩ ∧
      s.holdings = ⟨config, some f, some formulationId, some k, some kernelId,
        some ⟨.record config, some plan, .strict⟩⟩ := by
  intro fresh
  have formulated := selectFormulation_reaches (m := fresh) (not_uses_of_unset rfl) hf
  have equipped : (selectKernel kernelId).Reaches (fresh.withFormulation formulationId f) () _ :=
    selectKernel_reaches hk
  exact ⟨_, _, formulated.bind (equipped.bind (getEvaluator_binds rfl rfl rfl hp)), rfl, rfl⟩

theorem bindEvaluator_current {P : Manager α → Prop} (formulation : Issued (Formulation α))
    (kernel : Issued (Kernel α)) :
    Ensures P (bindEvaluator formulation kernel) fun bound m => m.evaluator = some bound := by
  refine Ensures.state_bind fun m _ => Ensures.liftExcept_bind fun _ _ => ?_
  refine (issue_ensures _ m).bind fun issued => ?_
  refine Ensures.bind (Q := fun _ m => m.evaluator = some issued) ?_ fun _ => Ensures.pure fun _ h => h
  exact Ensures.update fun _ _ => rfl

/-- The evaluator that is handed out is the one that is kept. -/
theorem getEvaluator_current {bound : Issued (BoundEvaluator α)}
    (returned : (getEvaluator m).1.result = .ok bound) : (getEvaluator m).2.evaluator = some bound := by
  rcases kept : m.evaluator with _ | issued
  · rw [getEvaluator_of_none kept] at returned ⊢
    have ends : Ensures (fun _ => True) (getFormulation >>= fun formulation =>
        getKernel >>= fun kernel => bindEvaluator formulation kernel : Call α _) fun bound m =>
        m.evaluator = some bound :=
      Ensures.bind (Q := fun _ _ => True) (fun _ _ _ _ => trivial) fun formulation =>
        Ensures.bind (Q := fun _ _ => True) (fun _ _ _ _ => trivial) fun kernel =>
          bindEvaluator_current formulation kernel
    exact ends m trivial bound returned
  · rw [getEvaluator_of_some kept] at returned ⊢
    cases returned
    exact kept

/-- The evaluator that a manager hands out works with the formulation and the kernel in use, and does not
depend on the history of the manager: a new manager of the same settings, in which the same formulation
and the same kernel are selected, hands out an evaluator too, and then holds the same as this one. -/
theorem getEvaluator_as_fresh {m : Manager α} (orderly : m.Orderly)
    {bound : Issued (BoundEvaluator α)} (returned : (getEvaluator m).1.result = .ok bound) :
    let m' := (getEvaluator m).2
    ∃ formulation formulationId kernel kernelId,
      m'.formulation = some formulation ∧ m'.formulationId = some formulationId ∧
      m'.kernel = some kernel ∧ m'.kernelId = some kernelId ∧ m'.evaluator = some bound ∧
      bound.value.formulation = formulation.number ∧ bound.value.kernel = kernel.number ∧
      ∃ fresh bound' s, make m'.config = .ok fresh ∧
        (equip formulationId kernelId).Reaches fresh bound' s ∧
        bound'.value.evaluator = bound.value.evaluator ∧ s.holdings = m'.holdings := by
  intro m'
  have coherent : m'.Coherent := getEvaluator_coherent m orderly.coherent
  have kept : m'.evaluator = some bound := getEvaluator_current returned
  obtain ⟨formulation, kernel, plan, hf, hk, hp, hbound⟩ := coherent.evaluator bound kept
  obtain ⟨formulationId, hfid, createF⟩ := coherent.formulation formulation hf
  obtain ⟨kernelId, hkid, createK⟩ := coherent.kernel kernel hk
  obtain ⟨bound', s, reached, same, holds⟩ := equip_reaches createF createK hp
  refine ⟨formulation, formulationId, kernel, kernelId, hf, hfid, hk, hkid, kept, ?_, ?_,
    _, bound', s, make_eq_ok_iff.mpr ⟨coherent.valid, rfl⟩, reached, ?_, ?_⟩
  · rw [hbound]
  · rw [hbound]
  · rw [same, hbound]
  · rw [holds, holdings, hf, hfid, hk, hkid, kept]
    simp only [Option.map_some, hbound]

/-- Requests after which a busy manager has another radius and another formulation; one selection in
between fails. -/
def reequipping : List (Request Float) :=
  [.updateConfig (.record [("support_radius", .whole 3)]), .selectKernel (.text "gaussian"),
    .selectFormulation (.text "monaghan")]

def reequippedManager : Manager Float := reequipping.foldl (fun m request => (serve request m).2) busyManager

theorem reequippedManager_orderly : reequippedManager.Orderly := by
  have distinct : lineManager.config.Distinct := by decide
  have made : Orderly lineManager := .made distinct rfl
  have busy : Orderly busyManager := made.served .getEvaluator nofun
  have updated := busy.served (.updateConfig (.record [("support_radius", .whole 3)])) fun _ _ => rfl
  exact (updated.served (.selectKernel (.text "gaussian")) nofun).served
    (.selectFormulation (.text "monaghan")) nofun

theorem getEvaluator_as_fresh_reequippedManager :
    reequippedManager.Orderly ∧
    ∃ bound, (getEvaluator reequippedManager).1.result = .ok bound ∧
      ∃ formulation, (getEvaluator reequippedManager).2.formulation = some formulation ∧
        bound.value.formulation = formulation.number := by
  have ends : (getEvaluator reequippedManager).1.result.toBool = true := by decide +kernel
  obtain ⟨bound, returned⟩ : ∃ bound, (getEvaluator reequippedManager).1.result = .ok bound := by
    cases h : (getEvaluator reequippedManager).1.result with
    | error fault => rw [h] at ends; cases ends
    | ok bound => exact ⟨bound, rfl⟩
  obtain ⟨formulation, -, -, -, hf, -, -, -, -, number, -⟩ :=
    getEvaluator_as_fresh reequippedManager_orderly returned
  exact ⟨reequippedManager_orderly, bound, returned, formulation, hf, number⟩

end Manager

end ParticleMomentum
