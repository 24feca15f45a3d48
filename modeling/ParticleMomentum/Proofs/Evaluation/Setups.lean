import ParticleMomentum.Arithmetic.Double
import ParticleMomentum.Evaluation.Bench
import ParticleMomentum.Proofs.Evaluation.Faults
import ParticleMomentum.Proofs.Evaluation.Plans
import ParticleMomentum.Proofs.Managers

/-!
# The last setup

An evaluator may be set up again and again, while its settings, its kernel and its formulation change in
between. It goes by what the last setup that succeeded has read, and by nothing that was changed since,
with one exception. A setup takes over the background pressure before it looks at the flag for the
transport correction. Where that flag is refused, the setup fails, and the background pressure stays.

This module follows a bench through any sequence of events: `Bench.act` is one event, `Bench.after` a
history of them, and a history goes on after a failure.
-/

namespace ParticleMomentum

variable {n : Nat} {α : Type} [Arithmetic α]

open Procedure (Keeps StopsIn)

/-! ## Evaluations by a plan -/

/-- A fault of a pair, modified slopes that do not fit, or pairs that are missing or cannot be read. -/
def Fault.IsEvaluationFault (f : Fault α) : Prop :=
  f.IsPairFault ∨ (∃ count, f = .derivativesShape count) ∨ f = .indexOutOfRange ∨ f = .noPairs ∨
    f = .noCount

open Fault (IsPairFault IsEvaluationFault)

omit [Arithmetic α] in
theorem Fault.IsPairFault.isEvaluationFault {f : Fault α} (h : f.IsPairFault) : f.IsEvaluationFault :=
  .inl h

omit [Arithmetic α] in
theorem Fault.IsEvaluationFault.ne_notSetUp {f : Fault α} (h : f.IsEvaluationFault) :
    f ≠ .evaluatorNotSetUp := by
  rcases h with (rfl | ⟨_, rfl⟩) | ⟨_, rfl⟩ | rfl | rfl | rfl <;> exact nofun

/-- A sweep through pairs. -/
theorem Evaluator.sweep_stopsIn (kind : FormulationClass) (plan : Plan α) (rule : DivisionRule)
    (before : Ensemble n α) (inputs : List (PairInput n α)) :
    StopsIn (fun _ => True) IsEvaluationFault
      (Procedure.ofChange fun e => e.sweep (contributions kind plan rule before) inputs :
        Procedure (Ensemble n α) (Notice α) (Fault α) Unit) := by
  refine StopsIn.ofChange fun e _ => Ensemble.sweep_faults fun input _ => ?_
  exact (contributions_faults kind plan rule before input).mono fun _ => IsPairFault.isEvaluationFault

theorem Evaluator.evaluate_stopsIn {ev : Evaluator α} {plan : Plan α} (planned : ev.plan = some plan)
    (kind : FormulationClass) (rows : List (PairRow n α)) (modified : Sides (Option (List α))) :
    StopsIn (fun _ => True) IsEvaluationFault (ev.evaluate kind rows modified) := by
  rw [evaluate, planned]
  refine StopsIn.liftExcept_bind ?_ fun inputs _ => StopsIn.state_bind fun before _ => ?_
  · exact (inputs_faults rows modified).mono fun _ h => .inr (.inl ⟨_, h⟩)
  refine StopsIn.lift_bind ?_ fun _ _ => ?_
  · exact (checkDiffusion_faults kind plan.convectionFactor before rows).mono
      fun _ => IsPairFault.isEvaluationFault
  refine StopsIn.bind (Q := fun _ _ => True) ?_ (fun _ _ _ _ => trivial) fun _ => StopsIn.emit _
  exact fun e _ => sweep_stopsIn kind plan ev.fusedRule before inputs e trivial

namespace Bench

/-- An evaluation on an ensemble and its pairs. Of settings, kernel and readiness it knows nothing. -/
def evaluateBy (plan : Plan α) (rule : DivisionRule) (kind : FormulationClass)
    (pairs : Option (PairTable n α)) (modified : Sides (Option (List α))) :
    Procedure (Ensemble n α) (Notice α) (Fault α) Unit :=
  match pairs with
  | none => Procedure.fail (if modified.i.isSome && modified.j.isSome then .noCount else .noPairs)
  | some table => evaluateTable ⟨.null, some plan, rule⟩ kind plan table modified

variable {b : Bench n α} {plan : Plan α} {modified : Sides (Option (List α))}

/-- Of its evaluator a bench uses no more than the plan and the rule of division. -/
theorem evaluate_of_plan (planned : b.evaluator.plan = some plan) :
    evaluate modified b =
      let run := evaluateBy plan b.evaluator.fusedRule b.formulation.kind b.pairs modified b.ensemble
      (run.1, { b with ensemble := run.2 }) := by
  obtain ⟨formulation, kernel, ⟨config, _, rule⟩, ensemble, pairs⟩ := b
  cases planned
  cases pairs with
  | none => rfl
  | some table => rfl

theorem evaluate_of_no_plan (unplanned : b.evaluator.plan = none) :
    evaluate modified b = (⟨[], .error .evaluatorNotSetUp⟩, b) := by
  rw [evaluate, unplanned]
  rfl

theorem evaluatePartly_stopsIn (ev : Evaluator α) (kind : FormulationClass) (plan : Plan α)
    (table : PairTable n α) (slopes : Sides (List α)) :
    StopsIn (fun _ => True) IsEvaluationFault (evaluatePartly ev kind plan table slopes) := by
  have unreadable : IsEvaluationFault (.indexOutOfRange : Fault α) := .inr (.inr (.inl rfl))
  rw [evaluatePartly]
  split
  · exact StopsIn.fail (.inr (.inl ⟨_, rfl⟩))
  refine StopsIn.state_bind fun before _ => StopsIn.lift_bind ?_ fun _ _ => ?_
  · exact (Evaluator.checkDiffusion_faults kind plan.convectionFactor before _).mono
      fun _ => IsPairFault.isEvaluationFault
  split
  · exact StopsIn.fail unreadable
  refine StopsIn.liftExcept_bind ?_ fun inputs _ => ?_
  · exact (Evaluator.inputs_faults _ _).mono fun _ h => .inr (.inl ⟨_, h⟩)
  refine StopsIn.bind (Q := fun _ _ => True) ?_ (fun _ _ _ _ => trivial) fun _ =>
    StopsIn.fail unreadable
  exact fun e _ => Evaluator.sweep_stopsIn kind plan ev.fusedRule before inputs e trivial

/-- All that can stop an evaluation by a plan. -/
theorem evaluateBy_stopsIn (plan : Plan α) (rule : DivisionRule) (kind : FormulationClass)
    (pairs : Option (PairTable n α)) (modified : Sides (Option (List α))) :
    StopsIn (fun _ => True) IsEvaluationFault (evaluateBy plan rule kind pairs modified) := by
  cases pairs with
  | none =>
      refine StopsIn.fail (.inr (.inr (.inr ?_)))
      split
      · exact .inr rfl
      · exact .inl rfl
  | some table =>
      rw [evaluateBy, evaluateTable]
      split
      · exact Evaluator.evaluate_stopsIn rfl kind _ _
      · exact evaluatePartly_stopsIn _ kind plan table _

/-- With a plan, no evaluation asks for a setup. -/
theorem evaluate_ne_notSetUp (planned : b.evaluator.plan = some plan) :
    (evaluate modified b).1.result ≠ .error .evaluatorNotSetUp := by
  intro asks
  rw [evaluate_of_plan planned] at asks
  exact (evaluateBy_stopsIn plan _ _ _ _ b.ensemble trivial _ asks).ne_notSetUp rfl

/-! ## Histories -/

/-- What can happen to a bench: a step of work, an edit of the kernel or of the formulation, and any
change whatever of the evaluator's settings. -/
inductive Event (α : Type) where
  | step (s : Step α)
  | kernel (edit : Kernel.Edit α)
  | formulation (edit : Formulation.Edit α)
  | settings (config : Setting α)

variable (read : Setting α → Except (Fault α) Bool)

/-- The bench after an event, whether that succeeded or failed. -/
def act (b : Bench n α) : Event α → Bench n α
  | .step s => (step read s b).2
  | .kernel edit => { b with kernel := (b.kernel.edit edit).1 }
  | .formulation edit => { b with formulation := (b.formulation.edit edit).1 }
  | .settings config => { b with evaluator := { b.evaluator with config } }

def after (b : Bench n α) (history : List (Event α)) : Bench n α := history.foldl (act read) b

/-- On this bench a setup succeeds and reads the plan. -/
def Reads (b : Bench n α) (plan : Plan α) : Prop :=
  plan.ReadFrom b.evaluator.config b.formulation b.kernel read

/-- On this bench a setup passes the checks and takes over the background pressure. -/
def TakesOver (b : Bench n α) (background : Background) : Prop :=
  ∃ backend, Plan.Chosen b.evaluator.config b.formulation b.kernel background backend

/-- On this bench a setup succeeds. -/
def Readable (b : Bench n α) : Prop := ∃ plan, b.Reads read plan

/-- On this bench a setup passes the checks. -/
def Passable (b : Bench n α) : Prop := ∃ background, b.TakesOver background

/-- No setup of the history happens on such a bench. -/
def NoSetup (b : Bench n α) (On : Bench n α → Prop) : List (Event α) → Prop
  | [] => True
  | event :: rest => ¬ (event = .step .setup ∧ On b) ∧ (b.act read event).NoSetup On rest

/-- The last setup of the history that happens on such a bench happens on `c`. -/
def LastSetup (b : Bench n α) (On : Bench n α → Prop) (history : List (Event α)) (c : Bench n α) :
    Prop :=
  ∃ before later, history = before ++ .step .setup :: later ∧ c = b.after read before ∧ On c ∧
    (c.act read (.step .setup)).NoSetup read On later

/-- The last setup of the history that succeeds reads the plan. -/
def LastReads (b : Bench n α) (history : List (Event α)) (plan : Plan α) : Prop :=
  ∃ c, b.LastSetup read (Readable read) history c ∧ c.Reads read plan

/-- The last setup of the history that passes the checks takes over the background pressure. -/
def LastTakesOver (b : Bench n α) (history : List (Event α)) (background : Background) : Prop :=
  ∃ c, b.LastSetup read Passable history c ∧ c.TakesOver background

variable {read} {On On' : Bench n α → Prop} {history : List (Event α)} {c : Bench n α}

theorem after_append (b : Bench n α) (before later : List (Event α)) :
    b.after read (before ++ later) = (b.after read before).after read later :=
  List.foldl_append

/-- Of the setups that happen on such a bench, if there are any, one is the last. -/
theorem noSetup_or_lastSetup (b : Bench n α) (On : Bench n α → Prop) (history : List (Event α)) :
    b.NoSetup read On history ∨ ∃ c, b.LastSetup read On history c := by
  induction history generalizing b with
  | nil => exact .inl trivial
  | cons event rest ih =>
      rcases ih (b.act read event) with never | ⟨c, before, later, rfl, rfl, on, never⟩
      · by_cases here : event = .step .setup ∧ On b
        · obtain ⟨rfl, on⟩ := here
          exact .inr ⟨b, [], rest, rfl, rfl, on, never⟩
        · exact .inl ⟨here, never⟩
      · exact .inr ⟨_, event :: before, later, rfl, rfl, on, never⟩

theorem NoSetup.not_on (never : b.NoSetup read On history) (last : b.LastSetup read On' history c) :
    ¬ On c := by
  obtain ⟨before, later, rfl, rfl, -, -⟩ := last
  induction before generalizing b with
  | nil => exact fun on => never.1 ⟨rfl, on⟩
  | cons event before ih => exact ih never.2

/-- The last setup is the first event, or it is the last one of the rest. -/
theorem LastSetup.cases {event : Event α} (last : b.LastSetup read On (event :: history) c) :
    (c = b ∧ (b.act read event).NoSetup read On history) ∨
      (b.act read event).LastSetup read On history c := by
  obtain ⟨before, later, split, rfl, on, never⟩ := last
  cases before with
  | nil =>
      cases split
      exact .inl ⟨rfl, never⟩
  | cons first before =>
      cases split
      exact .inr ⟨before, later, rfl, rfl, on, never⟩

theorem LastSetup.on (last : b.LastSetup read On history c) : On c := by
  obtain ⟨-, -, -, -, on, -⟩ := last
  exact on

theorem LastSetup.unique {d : Bench n α} (last : b.LastSetup read On history c)
    (last' : b.LastSetup read On history d) : c = d := by
  induction history generalizing b with
  | nil =>
      obtain ⟨before, later, split, -⟩ := last
      exact absurd split (by simp)
  | cons event rest ih =>
      rcases last.cases with ⟨rfl, never⟩ | last <;> rcases last'.cases with ⟨rfl, never'⟩ | last'
      · rfl
      · exact absurd last'.on (never.not_on last')
      · exact absurd last.on (never'.not_on last)
      · exact ih last last'

/-- The last setup after some events is the last one of them all. -/
theorem LastSetup.append (before : List (Event α))
    (last : (b.after read before).LastSetup read On history c) :
    b.LastSetup read On (before ++ history) c := by
  obtain ⟨before', later, rfl, rfl, on, never⟩ := last
  have joined := (List.append_assoc before before' (.step .setup :: later)).symm
  exact ⟨before ++ before', later, joined, (after_append b before before').symm, on, never⟩

/-! ### Setups -/

theorem step_setup_of_reads (h : b.Reads read plan) :
    step read .setup b =
      (⟨[], .ok none⟩, { b with evaluator := { b.evaluator with plan := some plan } }) := by
  have setup := Evaluator.setup_of_readFrom h
  rw [step, Procedure.bind_of_ok (by rw [Procedure.ofChange_apply, setup])]
  rfl

/-- A setup that fails changes nothing but the background pressure, and that only if it has passed the
checks. -/
theorem step_setup_of_not_readable (h : ¬ b.Readable read) :
    ∃ f, (¬ b.Passable ∧ step read .setup b = (⟨[], .error f⟩, b)) ∨
      ∃ background, b.TakesOver background ∧ Plan.corrects b.evaluator.config read = .error f ∧
        step read .setup b =
          (⟨[], .error f⟩, { b with evaluator := b.evaluator.withBackground background }) := by
  obtain ⟨f, ⟨stopped, setup⟩ | ⟨background, backend, chosen, refused, setup⟩⟩ :=
    Evaluator.setup_of_not_readFrom h
  · refine ⟨f, .inl ⟨stopped, ?_⟩⟩
    rw [step, Procedure.bind_of_error (by rw [Procedure.ofChange_apply, setup])]
  · refine ⟨f, .inr ⟨background, ⟨backend, chosen⟩, refused, ?_⟩⟩
    rw [step, Procedure.bind_of_error (by rw [Procedure.ofChange_apply, setup])]

theorem Reads.takesOver (h : b.Reads read plan) : b.TakesOver plan.background :=
  ⟨plan.backend, h.toChosen⟩

omit [Arithmetic α] in
theorem TakesOver.unique {background background' : Background} (h : b.TakesOver background)
    (h' : b.TakesOver background') : background = background' := by
  obtain ⟨_, chosen⟩ := h
  obtain ⟨_, chosen'⟩ := h'
  have named := chosen.background_named.symm.trans chosen'.background_named
  exact Background.name_injective (Setting.text.inj (Except.ok.inj named))

theorem LastTakesOver.unique {background background' : Background}
    (h : b.LastTakesOver read history background) (h' : b.LastTakesOver read history background') :
    background = background' := by
  obtain ⟨c, last, takes⟩ := h
  obtain ⟨d, last', takes'⟩ := h'
  cases last.unique last'
  exact takes.unique takes'

/-- Where all settings are read as flags, a setup that passes the checks succeeds. -/
theorem Passable.readable (reads : ∀ s, ∃ flag, read s = .ok flag) (h : b.Passable) :
    b.Readable read := by
  obtain ⟨background, backend, chosen⟩ := h
  obtain ⟨plan, -, planned⟩ := Plan.exists_readFrom_of_chosen reads chosen
  exact ⟨plan, planned⟩

/-! ### Steps -/

structure SamePlan (b b' : Bench n α) : Prop where
  kind : b'.formulation.kind = b.formulation.kind
  fusedRule : b'.evaluator.fusedRule = b.evaluator.fusedRule
  plan : b'.evaluator.plan = b.evaluator.plan

omit [Arithmetic α] in
theorem SamePlan.refl (b : Bench n α) : b.SamePlan b := ⟨rfl, rfl, rfl⟩

theorem evaluate_keeps (b : Bench n α) (modified : Sides (Option (List α))) :
    Keeps b.SamePlan (evaluate modified) := by
  intro b' h
  rcases planned : b'.evaluator.plan with _ | plan
  · rw [evaluate_of_no_plan planned]
    exact h
  · rw [evaluate_of_plan planned]
    exact ⟨h.kind, h.fusedRule, h.plan⟩

/-- No step but a setup changes the plan. -/
theorem step_keeps (b : Bench n α) {s : Step α} (other : s ≠ .setup) :
    Keeps b.SamePlan (step read s) := by
  cases s with
  | setup => exact absurd rfl other
  | evaluate modified => exact (evaluate_keeps b modified).bind fun _ => Keeps.pure _
  | rebuild =>
      refine Keeps.bind ?_ fun _ => Keeps.pure _
      refine Keeps.state_bind fun b' _ => Keeps.bind (Keeps.ofTrail _) fun rows => ?_
      refine Keeps.bind (Keeps.update fun b'' h => ?_) fun _ => Keeps.pure _
      exact ⟨h.kind, h.fusedRule, h.plan⟩
  | _ => exact Keeps.bind (fun b' h => ⟨h.kind, h.fusedRule, h.plan⟩) fun _ => Keeps.pure _

theorem act_of_not_setup {event : Event α} (other : event ≠ .step .setup) :
    b.SamePlan (b.act read event) := by
  cases event with
  | kernel edit => exact ⟨rfl, rfl, rfl⟩
  | settings config => exact ⟨rfl, rfl, rfl⟩
  | formulation edit =>
      cases edit with
      | update config => exact ⟨Formulation.updateConfig_kind _ _, rfl, rfl⟩
      | _ => exact ⟨rfl, rfl, rfl⟩
  | step s => exact step_keeps b (fun setup => other (congrArg _ setup)) b (.refl b)

/-- A successful setup exchanges the plan for the one that it reads. -/
theorem act_setup_of_reads (h : b.Reads read plan) :
    b.act read (.step .setup) = { b with evaluator := { b.evaluator with plan := some plan } } := by
  rw [act, step_setup_of_reads h]

/-- A setup that fails leaves the plan, or exchanges its background pressure. -/
theorem act_setup_of_not_readable (h : ¬ b.Readable read) :
    (¬ b.Passable ∧ b.act read (.step .setup) = b) ∨
      ∃ background, b.TakesOver background ∧ b.act read (.step .setup) =
        { b with evaluator := b.evaluator.withBackground background } := by
  obtain ⟨f, ⟨stopped, failed⟩ | ⟨background, takes, -, failed⟩⟩ := step_setup_of_not_readable h
  · exact .inl ⟨stopped, by rw [act, failed]⟩
  · exact .inr ⟨background, takes, by rw [act, failed]⟩

/-- An event that is not a setup past the checks leaves the plan as it is. -/
theorem act_of_not_passable {event : Event α} (other : ¬ (event = .step .setup ∧ b.Passable)) :
    b.SamePlan (b.act read event) := by
  by_cases setup : event = .step .setup
  · subst setup
    have stopped : ¬ b.Passable := fun passes => other ⟨rfl, passes⟩
    have unread : ¬ b.Readable read := fun ⟨_, reads⟩ => stopped ⟨_, reads.takesOver⟩
    rcases act_setup_of_not_readable unread with ⟨-, kept⟩ | ⟨background, takes, -⟩
    · rw [kept]
      exact .refl b
    · exact absurd ⟨background, takes⟩ stopped
  · exact act_of_not_setup setup

/-- Every event keeps the kind of formulation and the rule of division. -/
theorem act_keeps (read : Setting α → Except (Fault α) Bool) (b : Bench n α) (event : Event α) :
    (b.act read event).formulation.kind = b.formulation.kind ∧
      (b.act read event).evaluator.fusedRule = b.evaluator.fusedRule := by
  by_cases setup : event = .step .setup
  · subst setup
    by_cases readable : b.Readable read
    · obtain ⟨plan, reads⟩ := readable
      rw [act_setup_of_reads reads]
      exact ⟨rfl, rfl⟩
    · rcases act_setup_of_not_readable readable with ⟨-, kept⟩ | ⟨background, -, changed⟩
      · rw [kept]
        exact ⟨rfl, rfl⟩
      · rw [changed]
        exact ⟨rfl, rfl⟩
  · exact ⟨(act_of_not_setup setup).kind, (act_of_not_setup setup).fusedRule⟩

/-! ### Runs -/

theorem after_keeps (read : Setting α → Except (Fault α) Bool) (b : Bench n α)
    (history : List (Event α)) :
    (b.after read history).formulation.kind = b.formulation.kind ∧
      (b.after read history).evaluator.fusedRule = b.evaluator.fusedRule := by
  induction history generalizing b with
  | nil => exact ⟨rfl, rfl⟩
  | cons event rest ih =>
      have first := act_keeps read b event
      exact ⟨(ih _).1.trans first.1, (ih _).2.trans first.2⟩

/-- A history without a successful setup leaves the plan as it is, but for the background pressure of the
last setup that passed the checks. -/
theorem plan_after_of_noSetup (never : b.NoSetup read (Readable read) history) :
    (b.NoSetup read Passable history ∧ (b.after read history).evaluator.plan = b.evaluator.plan) ∨
    ∃ background, b.LastTakesOver read history background ∧
      (b.after read history).evaluator.plan =
        b.evaluator.plan.map fun plan => { plan with background } := by
  induction history generalizing b with
  | nil => exact .inl ⟨trivial, rfl⟩
  | cons event rest ih =>
      obtain ⟨notNow, notLater⟩ := never
      by_cases here : event = .step .setup ∧ b.Passable
      · obtain ⟨rfl, passable⟩ := here
        have unread : ¬ b.Readable read := fun readable => notNow ⟨rfl, readable⟩
        obtain ⟨stopped, -⟩ | ⟨first, takes, changed⟩ := act_setup_of_not_readable unread
        · exact absurd passable stopped
        rcases ih notLater with ⟨none, plan⟩ | ⟨background, ⟨c, last, takesLast⟩, plan⟩
        · refine .inr ⟨first, ⟨b, ⟨[], rest, rfl, rfl, passable, none⟩, takes⟩, plan.trans ?_⟩
          rw [changed]
          rfl
        · refine .inr ⟨background, ⟨c, last.append [_], takesLast⟩, plan.trans ?_⟩
          rw [changed]
          exact Option.map_map _ _ _
      · have kept : b.SamePlan (b.act read event) := act_of_not_passable here
        rcases ih notLater with ⟨none, plan⟩ | ⟨background, ⟨c, last, takesLast⟩, plan⟩
        · exact .inl ⟨⟨here, none⟩, plan.trans kept.plan⟩
        · exact .inr ⟨background, ⟨c, last.append [_], takesLast⟩, plan.trans (by rw [kept.plan])⟩

/-- Without a successful setup there is no plan. -/
theorem plan_after_of_never (made : b.evaluator.plan = none)
    (never : b.NoSetup read (Readable read) history) :
    (b.after read history).evaluator.plan = none := by
  rcases plan_after_of_noSetup never with ⟨-, plan⟩ | ⟨background, -, plan⟩
  · exact plan.trans made
  · rw [plan, made, Option.map_none]

/-- After a history the evaluator has the plan of its last successful setup, with the background pressure
of the last one that passed the checks. Where all settings are read as flags, these are the same. -/
theorem LastReads.plan_after (h : b.LastReads read history plan) :
    ∃ background, b.LastTakesOver read history background ∧
      (b.after read history).evaluator.plan = some { plan with background } ∧
      ((∀ s, ∃ flag, read s = .ok flag) → background = plan.background) := by
  obtain ⟨c, ⟨before, later, rfl, rfl, -, never⟩, reads⟩ := h
  have whole : b.after read (before ++ .step .setup :: later) =
      ((b.after read before).act read (.step .setup)).after read later :=
    after_append b before (.step .setup :: later)
  rw [whole]
  have planned : ((b.after read before).act read (.step .setup)).evaluator.plan = some plan := by
    rw [act_setup_of_reads reads]
  rcases plan_after_of_noSetup never with ⟨none, kept⟩ | ⟨background, ⟨c, last, takes⟩, changed⟩
  · refine ⟨plan.background, ⟨_, ⟨before, later, rfl, rfl, ⟨_, reads.takesOver⟩, none⟩, reads.takesOver⟩,
      kept.trans planned, fun _ => rfl⟩
  · refine ⟨background, ⟨c, ?_, takes⟩, ?_, fun total => ?_⟩
    · have last : (b.after read (before ++ [.step .setup])).LastSetup read Passable later c := by
        rw [after_append]
        exact last
      have joined := last.append
      rwa [List.append_assoc] at joined
    · rw [changed, planned, Option.map_some]
    · exact absurd (Passable.readable total ⟨_, takes⟩) (never.not_on last)

/-- An evaluator goes by its last successful setup, but for the background pressure, which it takes from
the last setup that passed the checks. After any history of events since it was made, an evaluation asks
for a setup just if none has succeeded, and then changes nothing. Else it is the evaluation by that plan,
whatever has happened to settings, kernel and readiness since, and it enters the fused loop with no other
number than Monaghan's or Adami's. The two setups are the same one where all settings are read as flags. A
setup succeeds just if it can read a plan. One that fails changes nothing if it has not passed the checks;
else a flag has been refused, and it changes the background pressure of the plan. -/
theorem evaluates_by_last_setup (read : Setting α → Except (Fault α) Bool) (b : Bench n α)
    (made : b.evaluator.plan = none) (history : List (Event α))
    (modified : Sides (Option (List α))) :
    let c := b.after read history
    ((evaluate modified c).1.result = .error .evaluatorNotSetUp ↔
      b.NoSetup read (Readable read) history) ∧
    (b.NoSetup read (Readable read) history →
      evaluate modified c = (⟨[], .error .evaluatorNotSetUp⟩, c)) ∧
    (∀ plan, b.LastReads read history plan →
      (plan.backend = .fused → b.formulation.kind.IsNumbered) ∧
      (∃ background, b.LastTakesOver read history background) ∧
      ∀ background, b.LastTakesOver read history background →
        ((∀ s, ∃ flag, read s = .ok flag) → background = plan.background) ∧
        evaluate modified c =
          let run := evaluateBy { plan with background } b.evaluator.fusedRule b.formulation.kind
            c.pairs modified c.ensemble
          (run.1, { c with ensemble := run.2 })) ∧
    ((step read .setup c).1.result = .ok none ↔ c.Readable read) ∧
    ∀ f, (step read .setup c).1.result = .error f →
      (¬ c.Passable ∧ (step read .setup c).2 = c) ∨
      ∃ background, c.TakesOver background ∧ Plan.corrects c.evaluator.config read = .error f ∧
        (step read .setup c).2 = { c with evaluator := c.evaluator.withBackground background } := by
  intro c
  have asks (never : b.NoSetup read (Readable read) history) :
      evaluate modified c = (⟨[], .error .evaluatorNotSetUp⟩, c) :=
    evaluate_of_no_plan (plan_after_of_never made never)
  obtain ⟨kind, rule⟩ := after_keeps read b history
  refine ⟨⟨fun result => ?_, fun never => ?_⟩, asks, fun plan last => ⟨fun fused => ?_, ?_⟩, ?_, ?_⟩
  · rcases noSetup_or_lastSetup b (Readable read) history with never | ⟨d, last⟩
    · exact never
    · obtain ⟨before, later, -, -, ⟨plan, reads⟩, -⟩ := id last
      obtain ⟨background, -, planned, -⟩ := LastReads.plan_after ⟨d, last, reads⟩
      exact absurd result (evaluate_ne_notSetUp planned)
  · rw [asks never]
  · obtain ⟨_, ⟨before, later, -, rfl, -, -⟩, reads⟩ := last
    rw [← (after_keeps read b before).1]
    exact reads.numbered fused
  · obtain ⟨background, takes, planned, same⟩ := last.plan_after
    refine ⟨⟨background, takes⟩, fun other takes' => ?_⟩
    cases takes.unique takes'
    refine ⟨same, ?_⟩
    rw [evaluate_of_plan planned, kind, rule]
  · by_cases readable : c.Readable read
    · obtain ⟨plan, reads⟩ := id readable
      rw [step_setup_of_reads reads]
      exact ⟨fun _ => readable, fun _ => rfl⟩
    · obtain ⟨f, ⟨-, failed⟩ | ⟨background, -, -, failed⟩⟩ := step_setup_of_not_readable readable
      all_goals
        rw [failed]
        exact ⟨nofun, fun h => absurd h readable⟩
  · intro f fails
    by_cases readable : c.Readable read
    · obtain ⟨plan, reads⟩ := readable
      rw [step_setup_of_reads reads] at fails
      cases fails
    · obtain ⟨g, ⟨stopped, failed⟩ | ⟨background, takes, refused, failed⟩⟩ :=
        step_setup_of_not_readable readable
      all_goals
        rw [failed] at fails ⊢
        cases fails
      · exact .inl ⟨stopped, rfl⟩
      · exact .inr ⟨background, takes, refused, rfl⟩

/-! ## A bench that is set up three times -/

def backgroundPair : Ensemble 2 Float :=
  ⟨Vector.replicate 2 { (Particle.fresh : Particle Float) with backgroundPressure := 1.0 }⟩

def newBench : Bench 2 Float where
  formulation := .create .adami (.record [])
  kernel := { Kernel.make .cubic (.record []) with dimension := 1, ready := true }
  evaluator := .make (.record []) .strict
  ensemble := backgroundPair
  pairs := some (.ofRows [Neighbours.rowOf ⟨0, 1, ⟨1.0, 0.0, 0.0⟩, 1.0⟩ (-0.5)])

/-- A reading of flags that refuses several flags at once. -/
def oneFlag : Setting Float → Except (Fault Float) Bool
  | .sequence _ => .error .ambiguousFlag
  | s => .ok s.truth

/-- The evaluator is set up. A setup with an unknown backend fails; then one fails that asks for the
standard background pressure and gives two flags for the transport correction. -/
def failedAttempts : List (Event Float) :=
  [.step .setup, .settings (.record [("momentum_backend", .text "gpu")]), .step .setup,
    .settings (.record [("background_pressure_type", .text "standard"),
      ("transport_velocity", .sequence [.flag true, .flag false])]), .step .setup]

def defaultPlan : Plan Float := ⟨.off, false, .fused, Arithmetic.ofInt 3⟩

theorem failedAttempts_lastReads : newBench.LastReads oneFlag failedAttempts defaultPlan := by
  have reads : newBench.Reads oneFlag defaultPlan := .of_ofSettings rfl
  refine ⟨newBench, ⟨[], _, rfl, rfl, ⟨_, reads⟩, nofun, ?_, nofun, ?_, trivial⟩, reads⟩
  · rintro ⟨-, plan, reads⟩
    cases Plan.ofSettings_eq_ok_iff.mpr reads
  · rintro ⟨-, plan, reads⟩
    cases Plan.ofSettings_eq_ok_iff.mpr reads

theorem failedAttempts_lastTakesOver : newBench.LastTakesOver oneFlag failedAttempts .standard := by
  have takes : (newBench.after oneFlag (failedAttempts.take 4)).TakesOver .standard :=
    ⟨.fused, rfl, rfl, rfl, rfl, fun _ => .inr rfl⟩
  exact ⟨_, ⟨failedAttempts.take 4, [], rfl, rfl, ⟨_, takes⟩, trivial⟩, takes⟩

theorem evaluates_by_last_setup_failedAttempts :
    newBench.evaluator.plan = none ∧
    newBench.LastReads oneFlag failedAttempts defaultPlan ∧
    newBench.LastTakesOver oneFlag failedAttempts .standard ∧
    (evaluate ⟨none, none⟩ (newBench.after oneFlag failedAttempts)).1 =
      (evaluateBy { defaultPlan with background := .standard } .strict .adami newBench.pairs
        ⟨none, none⟩ backgroundPair).1 := by
  have unset : newBench.evaluator.plan = none := rfl
  obtain ⟨-, -, evaluated, -, -⟩ :=
    evaluates_by_last_setup oneFlag newBench unset failedAttempts ⟨none, none⟩
  obtain ⟨-, -, run⟩ := evaluated defaultPlan failedAttempts_lastReads
  exact ⟨unset, failedAttempts_lastReads, failedAttempts_lastTakesOver,
    congrArg Prod.fst (run .standard failedAttempts_lastTakesOver).2⟩

/-- A refused setup can change what is evaluated: the evaluator need not go by its last successful setup. -/
theorem evaluates_by_refused_setup :
    ¬ ∀ (read : Setting Float → Except (Fault Float) Bool) (b : Bench 2 Float)
      (history : List (Event Float)) (plan : Plan Float), b.evaluator.plan = none →
      b.LastReads read history plan → ∀ modified,
      let c := b.after read history
      evaluate modified c =
        let run := evaluateBy plan b.evaluator.fusedRule b.formulation.kind c.pairs modified c.ensemble
        (run.1, { c with ensemble := run.2 }) := by
  intro claim
  have same := claim oneFlag newBench failedAttempts defaultPlan rfl failedAttempts_lastReads ⟨none, none⟩
  have pushed := congrArg
    (fun run : Trail (Notice Float) (Fault Float) Unit × Bench 2 Float =>
      run.2.ensemble.particles[(0 : Fin 2)].modifiedAcceleration.x) same
  -- the standard background pressure has pushed the particle
  have differs :
      (evaluate ⟨none, none⟩ (newBench.after oneFlag
        failedAttempts)).2.ensemble.particles[(0 : Fin 2)].modifiedAcceleration.x ≠
      (evaluateBy defaultPlan .strict .adami newBench.pairs ⟨none, none⟩
        backgroundPair).2.particles[(0 : Fin 2)].modifiedAcceleration.x := by
    decide +kernel
  exact differs pushed

end Bench

end ParticleMomentum
