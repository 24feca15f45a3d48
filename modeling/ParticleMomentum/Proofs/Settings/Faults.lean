import ParticleMomentum.Scenario
import ParticleMomentum.Proofs.Trail

/-!
# Settings do not divide

Whatever is wrong with settings, the fault is never a division by zero: not when they are checked, when
numbers or a plan are read from them, when a definition is looked up, or when a lattice is described. Only
the normalization of a kernel divides.
-/

namespace ParticleMomentum

variable {α : Type}

abbrev NoZeroDivisor {β : Type} (r : Except (Fault α) β) : Prop := FaultsIn (· ≠ .zeroDivisor) r

namespace NoZeroDivisor

variable {β : Type}

theorem error {f : Fault α} (h : f ≠ .zeroDivisor) : NoZeroDivisor (.error f : Except (Fault α) β) :=
  FaultsIn.error h

theorem ne {r : Except (Fault α) β} (h : NoZeroDivisor r) : r ≠ .error .zeroDivisor :=
  fun divides => h _ divides rfl

end NoZeroDivisor

/-! ## Reading settings -/

namespace Setting

theorem holder_noZeroDivisor (s : Setting α) : NoZeroDivisor s.holder := by
  cases s with
  | null | record | sequence => exact FaultsIn.ok _
  | flag | whole | real | text => exact .error nofun

theorem lookup_noZeroDivisor (s : Setting α) (key : String) : NoZeroDivisor (s.lookup key) := by
  cases s with
  | record => exact FaultsIn.ok _
  | null | flag | whole | real | text | sequence => exact .error nofun

theorem lookupD_noZeroDivisor (s : Setting α) (key : String) (default : Setting α) :
    NoZeroDivisor (s.lookupD key default) :=
  (s.lookup_noZeroDivisor key).map _

variable [Arithmetic α]

theorem numberOfInt_noZeroDivisor (n : Int) : NoZeroDivisor (numberOfInt n : Except (Fault α) α) := by
  rw [numberOfInt]
  split
  · exact FaultsIn.ok _
  · exact .error nofun

theorem Number.toReal_noZeroDivisor (x : Number α) : NoZeroDivisor x.toReal := by
  cases x with
  | whole n => exact numberOfInt_noZeroDivisor n
  | real x => exact FaultsIn.ok x

theorem toReal_noZeroDivisor (s : Setting α) : NoZeroDivisor s.toReal := by
  cases s with
  | flag b => exact numberOfInt_noZeroDivisor _
  | whole n => exact numberOfInt_noZeroDivisor n
  | real x => exact FaultsIn.ok x
  | text t =>
      rw [toReal]
      split
      · exact FaultsIn.ok _
      · exact .error nofun
  | null | sequence | record => exact .error nofun

theorem toInt_noZeroDivisor (s : Setting α) : NoZeroDivisor s.toInt := by
  cases s with
  | flag b => exact FaultsIn.ok _
  | whole n => exact FaultsIn.ok n
  | real x =>
      rw [toInt]
      split
      · exact FaultsIn.ok _
      · split
        · exact .error nofun
        · exact .error nofun
  | text t =>
      rw [toInt]
      split
      · exact FaultsIn.ok _
      · exact .error nofun
  | null | sequence | record => exact .error nofun

end Setting

namespace Settings

theorem require_noZeroDivisor (s : Settings α) (key : String) : NoZeroDivisor (s.require key) := by
  rw [require]
  split
  · exact FaultsIn.ok _
  · exact .error nofun

variable [Arithmetic α]

theorem requireReal_noZeroDivisor (s : Settings α) (key : String) :
    NoZeroDivisor (s.requireReal key) :=
  (s.require_noZeroDivisor key).bind Setting.toReal_noZeroDivisor

/-- A check of settings finds a setting that is no number, or one that is out of its range. -/
theorem validate_noZeroDivisor (s : Settings α) : NoZeroDivisor s.validate := by
  refine FaultsIn.forM fun bound _ => ?_
  rw [Bound.check]
  split
  · exact FaultsIn.ok ()
  · split
    · exact .error nofun
    · split
      · exact FaultsIn.ok ()
      · exact .error nofun

end Settings

/-! ## What is made from settings -/

namespace Kernel

variable [Arithmetic α] (k : Kernel α)

theorem wantedRadius_noZeroDivisor : NoZeroDivisor k.wantedRadius := by
  rw [wantedRadius]
  refine (k.config.lookup_noZeroDivisor _).bind fun found => ?_
  split
  · split
    · exact .error nofun
    · exact FaultsIn.ok _
  · exact .error nofun

theorem wantedDimension_noZeroDivisor : NoZeroDivisor k.wantedDimension := by
  rw [wantedDimension]
  refine (k.config.lookupD_noZeroDivisor _ _).bind fun wanted => ?_
  split
  · exact FaultsIn.ok _
  · exact .error nofun

end Kernel

theorem Catalogue.resolveClass_noZeroDivisor {β : Type} (d : Definition α) (lookup : String → Option β) :
    NoZeroDivisor (resolveClass d lookup) := by
  rw [resolveClass]
  split
  · exact FaultsIn.ok _
  · exact .error nofun

theorem Background.ofSetting_noZeroDivisor (s : Setting α) : NoZeroDivisor (ofSetting s) := by
  cases s with
  | text t =>
      rw [ofSetting]
      split
      · exact FaultsIn.ok _
      · exact .error nofun
  | null | flag | whole | real | sequence | record => exact .error nofun

theorem Backend.ofSetting_noZeroDivisor (s : Setting α) : NoZeroDivisor (ofSetting s) := by
  cases s with
  | text t =>
      rw [ofSetting]
      split
      · exact FaultsIn.ok _
      · exact .error nofun
  | null | flag | whole | real | sequence | record => exact .error nofun

section

variable [Arithmetic α]

namespace Catalogue

theorem find_noZeroDivisor (definitions : List (Definition α)) (id : Setting α) (kind : String) :
    NoZeroDivisor (find definitions id kind) := by
  rw [find]
  -- the definitions that are left are searched; all of them are named in the message
  suffices h : ∀ rest, NoZeroDivisor (find.go definitions id kind rest) from h definitions
  intro rest
  induction rest with
  | nil =>
      rw [find.go]
      refine FaultsIn.bind (FaultsIn.mapM fun d _ => d.require_noZeroDivisor "id") fun _ => ?_
      exact .error nofun
  | cons d rest ih =>
      rw [find.go]
      refine (d.require_noZeroDivisor "id").bind fun _ => ?_
      split
      · exact FaultsIn.ok _
      · exact ih

theorem createFormulation_noZeroDivisor (id config : Setting α) :
    NoZeroDivisor (createFormulation id config) :=
  (find_noZeroDivisor _ _ _).bind fun _ => (resolveClass_noZeroDivisor _ _).bind fun _ =>
    config.holder_noZeroDivisor.bind fun _ => FaultsIn.ok _

end Catalogue

omit [Arithmetic α] in
theorem Plan.choices_noZeroDivisor (config : Setting α) (formulation : Formulation α)
    (kernel : Kernel α) : NoZeroDivisor (choices config formulation kernel) := by
  simp only [choices]
  refine FaultsIn.guard_bind (by exact nofun) (FaultsIn.guard_bind (by exact nofun) ?_)
  refine (config.lookupD_noZeroDivisor _ _).bind fun named => ?_
  refine (Background.ofSetting_noZeroDivisor named).bind fun background => ?_
  refine (config.lookupD_noZeroDivisor _ _).bind fun chosen => ?_
  refine (Backend.ofSetting_noZeroDivisor chosen).bind fun backend => ?_
  exact FaultsIn.guard_bind (by exact nofun) (FaultsIn.ok _)

theorem Plan.ofSettings_noZeroDivisor (config : Setting α) (formulation : Formulation α)
    (kernel : Kernel α) : NoZeroDivisor (ofSettings config formulation kernel) := by
  refine (choices_noZeroDivisor config formulation kernel).bind fun _ => ?_
  refine FaultsIn.bind ?_ fun _ => FaultsIn.ok _
  exact (config.lookupD_noZeroDivisor _ _).bind fun _ => FaultsIn.ok _

theorem Arithmetic.boundedPower_noZeroDivisor (x : α) (k : Nat) :
    NoZeroDivisor (boundedPower x k : Except (Fault α) α) := by
  rw [boundedPower]
  split
  · exact .error nofun
  · exact FaultsIn.ok _

theorem CubicLattice.ofSettings_noZeroDivisor (s : Settings α) : NoZeroDivisor (ofSettings s) := by
  have number (key : String) := s.requireReal_noZeroDivisor key
  refine (s.require_noZeroDivisor _).bind fun edge => edge.toInt_noZeroDivisor.bind fun _ => ?_
  refine (number _).bind fun spacing => (number _).bind fun _ => ?_
  refine (number _).bind fun _ => (number _).bind fun _ => (number _).bind fun _ => ?_
  refine (Arithmetic.boundedPower_noZeroDivisor spacing 3).bind fun _ => ?_
  refine (number _).bind fun sound => ?_
  refine (Arithmetic.boundedPower_noZeroDivisor sound 2).bind fun _ => ?_
  exact (number _).bind fun _ => (number _).bind fun _ => (number _).bind fun _ => FaultsIn.ok _

end

end ParticleMomentum
