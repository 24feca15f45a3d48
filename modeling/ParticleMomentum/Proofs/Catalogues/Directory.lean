import ParticleMomentum.Catalogue
import ParticleMomentum.Catalogue.Directory
import ParticleMomentum.Proofs.Trail

/-!
# Classes and functions found in the directory

A lookup succeeds exactly if the module offers a class or a function under the name. What a module offers
from another one is the same thing that its home module offers, so a full name does not depend on the module
through which it was found. Every definition of the catalogues names a class of its own module.
-/

namespace ParticleMomentum.Directory

variable {α : Type} {module name home fullName : String}

def offer? (module name : String) : Option Offer :=
  (modules.lookup module).bind fun offers => offers.find? (·.name == name)

/-- A module offers a class or a function of a home module under a name. -/
def Offers (module name home : String) : Prop := offer? module name = some ⟨name, some home⟩

instance : Decidable (Offers module name home) :=
  inferInstanceAs (Decidable (offer? module name = some ⟨name, some home⟩))

/-! ## The table of modules -/

theorem modules_named : ∀ m ∈ modules, m.1.isEmpty = false ∧ m.1.startsWith "." = false := by
  decide +kernel

/-- The home module of what is offered offers the same. -/
theorem modules_home :
    ∀ m ∈ modules, ∀ o ∈ m.2, ∀ home ∈ o.home, offer? home o.name = some o := by
  decide +kernel

theorem mem_of_lookup {offers : List Offer} (found : modules.lookup module = some offers) :
    (module, offers) ∈ modules := by
  obtain ⟨before, after, split, -⟩ := List.lookup_eq_some_iff.mp found
  rw [split]
  exact List.mem_append_right _ List.mem_cons_self

theorem offers_home (h : Offers module name home) : Offers home name home := by
  obtain ⟨offers, found, first⟩ := Option.bind_eq_some_iff.mp h
  exact modules_home _ (mem_of_lookup found) _ (List.mem_of_find?_eq_some first) _ rfl

/-! ## Lookups -/

/-- A lookup succeeds exactly if the module offers a class or a function under the name. -/
theorem resolve_eq_ok_iff :
    (resolve module name : Trail (Notice α) (Fault α) String).result = .ok fullName ↔
      ∃ home, Offers module name home ∧ fullName = home ++ "." ++ name := by
  rcases found : modules.lookup module with _ | offers
  · have nothing (home : String) : ¬ Offers module name home := by
      rw [Offers, offer?, found]
      nofun
    rw [resolve, found]
    refine iff_of_false ?_ fun ⟨home, offers, _⟩ => nothing home offers
    split
    · nofun
    split <;> nofun
  · obtain ⟨nonempty, absolute⟩ := modules_named _ (mem_of_lookup found)
    rcases first : offers.find? (·.name == name) with _ | o
    · simp only [resolve, found, nonempty, absolute, Offers, offer?, Option.bind_some, first,
        Bool.false_eq_true, if_false]
      exact iff_of_false nofun fun ⟨_, nothing, _⟩ => nomatch nothing
    obtain rfl : o.name = name := by simpa using List.find?_some first
    simp only [resolve, found, nonempty, absolute, Offers, offer?, Option.bind_some, first,
      Bool.false_eq_true, if_false]
    obtain ⟨name, home | home⟩ := o
    · exact iff_of_false nofun fun ⟨_, valueless, _⟩ => nomatch valueless
    · constructor
      · rintro ⟨⟩
        exact ⟨home, rfl, rfl⟩
      · rintro ⟨_, ⟨⟩, rfl⟩
        rfl

/-- A full name is found in its home module as well. -/
theorem resolve_home
    (h : (resolve module name : Trail (Notice α) (Fault α) String).result = .ok fullName) :
    ∃ home, fullName = home ++ "." ++ name ∧
      (resolve home name : Trail (Notice α) (Fault α) String).result = .ok fullName := by
  obtain ⟨home, offers, full⟩ := resolve_eq_ok_iff.mp h
  exact ⟨home, full, resolve_eq_ok_iff.mpr ⟨home, offers_home offers, full⟩⟩

/-- Every definition of the catalogues names a class that its module defines. -/
theorem resolve_definition [Arithmetic α] {d : Definition α}
    (listed : d ∈ Catalogue.formulations ++ Catalogue.kernels) :
    let module := Catalogue.textOf d "module"
    (resolve module (Catalogue.className d) : Trail (Notice α) (Fault α) String).result =
      .ok (module ++ "." ++ Catalogue.className d) := by
  intro module
  refine resolve_eq_ok_iff.mpr ⟨module, ?_, rfl⟩
  simp only [Catalogue.formulations, Catalogue.kernels, List.cons_append, List.nil_append,
    List.mem_cons, List.not_mem_nil, or_false] at listed
  rcases listed with rfl | rfl | rfl | rfl
  · have : Offers "sphsim.momentum.monaghan" "MomentumFormulationMonaghan"
        "sphsim.momentum.monaghan" := by decide +kernel
    exact this
  · have : Offers "sphsim.momentum.adami" "MomentumFormulationAdami" "sphsim.momentum.adami" := by
      decide +kernel
    exact this
  · have : Offers "sphsim.kernel.spline_kernels" "CubicSplineKernel"
        "sphsim.kernel.spline_kernels" := by decide +kernel
    exact this
  · have : Offers "sphsim.kernel.spline_kernels" "QuinticSplineKernel"
        "sphsim.kernel.spline_kernels" := by decide +kernel
    exact this

end ParticleMomentum.Directory
