import ParticleMomentum.Evaluation.Contribution

/-!
# The particles of an ensemble

An ensemble is determined by its particles, and what changes one of its particles leaves the others as
they are.
-/

namespace ParticleMomentum.Ensemble

variable {n : Nat} {α : Type} {p : Precision}

-- the zero of an index is the numeral
attribute [local instance (high)] Zero.ofOfNat0

/-- There is a first one of two particles. Named, so that the indices of two particles bear no proof of
their own. -/
instance neZero_two : NeZero 2 := ⟨by decide⟩

theorem ext_particles {e e' : Ensemble n α p}
    (particles : ∀ k : Fin n, e.particles[k] = e'.particles[k]) : e = e' := by
  obtain ⟨v⟩ := e
  obtain ⟨v'⟩ := e'
  exact congrArg _ (Vector.ext fun k hk => particles ⟨k, hk⟩)

theorem positions_particle [Arithmetic α] (e : Ensemble n α p) (k : Fin n) :
    e.positions[k] = e.particles[k].position :=
  Vector.getElem_map _ _

@[simp] theorem mapParticles_particle (e : Ensemble n α p) (f : Fin n → Particle α → Particle α)
    (k : Fin n) : (e.mapParticles f).particles[k] = f k e.particles[k] :=
  Vector.getElem_ofFn _

theorem modifyParticle_particle (e : Ensemble n α p) (target : Fin n) (f : Particle α → Particle α)
    (k : Fin n) :
    (e.modifyParticle target f).particles[k] =
      if target = k then f e.particles[k] else e.particles[k] := by
  by_cases h : target = k
  · subst h
    rw [if_pos rfl]
    exact Vector.getElem_set_self _
  · rw [if_neg h]
    exact Vector.getElem_set_ne (Fin.isLt _) _ fun hk => h (Fin.ext hk)

theorem contribute_particle [Arithmetic α] (e : Ensemble n α) (row : PairRow n α)
    (c : Contribution α) (k : Fin n) :
    (e.contribute row c).particles[k] =
      if row.particles.get c.side = k then e.particles[k].add c.target c.amount
      else e.particles[k] :=
  modifyParticle_particle _ _ _ _

end ParticleMomentum.Ensemble
