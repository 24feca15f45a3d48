import ParticleMomentum.Setting.Holder
import ParticleMomentum.Setting.Number

/-!
# The names of settings

A merge keeps the names that are set, in their places, and puts new names at the end; it sets no name
twice. Settings that have gone through a merge can therefore be merged into what they were before: the
outcome is what they are now.
-/

namespace ParticleMomentum

namespace Settings

variable {α : Type}

def names (s : Settings α) : List String := s.map Prod.fst

/-- No name is set twice. -/
def Distinct (s : Settings α) : Prop := s.names.Nodup

instance (s : Settings α) : Decidable s.Distinct := inferInstanceAs (Decidable s.names.Nodup)

@[simp] theorem names_nil : names ([] : Settings α) = [] := rfl

@[simp] theorem names_cons (item : String × Setting α) (s : Settings α) :
    names (item :: s) = item.1 :: names s := rfl

@[simp] theorem names_append (s t : Settings α) : names (s ++ t) = names s ++ names t :=
  List.map_append

/-- A name that is set keeps its place, and a new one goes to the end. -/
theorem names_put (s : Settings α) (key : String) (value : Setting α) :
    (s.put key value).names = if key ∈ s.names then s.names else s.names ++ [key] := by
  induction s with
  | nil => rfl
  | cons item rest ih =>
      obtain ⟨k, v⟩ := item
      by_cases here : k = key
      · simp [put, here]
      · have there : key ≠ k := Ne.symm here
        simp only [put, beq_iff_eq, here, if_false, names_cons, ih, List.mem_cons, there, false_or]
        split <;> rfl

theorem require_eq_ok_iff {s : Settings α} {key : String} {value : Setting α} :
    s.require key = .ok value ↔ s.find? key = some value := by
  rw [require]
  cases s.find? key with
  | none => exact ⟨nofun, nofun⟩
  | some v => rw [Except.ok.injEq, Option.some.injEq]

/-- A name keeps its setting when another one is set. -/
theorem find?_put_of_ne {key other : String} (different : other ≠ key) (s : Settings α)
    (value : Setting α) : (s.put key value).find? other = s.find? other := by
  induction s with
  | nil => exact (List.lookup_cons ..).trans (by rw [beq_eq_false_iff_ne.mpr different]; rfl)
  | cons item rest ih =>
      obtain ⟨k, v⟩ := item
      by_cases here : k = key
      · subst here
        simp [put, find?, List.lookup_cons, beq_eq_false_iff_ne.mpr different]
      · simp only [put, beq_iff_eq, here, if_false]
        change List.lookup other (put rest key value) = List.lookup other rest at ih
        rw [find?, find?, List.lookup_cons, List.lookup_cons, ih]

/-- These settings have grown out of others: all names are still in their places, and no name is set
twice unless one was before. -/
structure GrownFrom (s s' : Settings α) : Prop where
  names_grow : s.names <+: s'.names
  distinct : s.Distinct → s'.Distinct

namespace GrownFrom

variable {s s' s'' : Settings α}

theorem refl (s : Settings α) : GrownFrom s s := ⟨List.prefix_rfl, id⟩

theorem trans (first : GrownFrom s s') (second : GrownFrom s' s'') : GrownFrom s s'' :=
  ⟨first.names_grow.trans second.names_grow, fun h => second.distinct (first.distinct h)⟩

theorem put (s : Settings α) (key : String) (value : Setting α) :
    GrownFrom s (s.put key value) := by
  by_cases set : key ∈ s.names
  · have same : (s.put key value).names = s.names := by rw [names_put, if_pos set]
    exact ⟨same ▸ List.prefix_rfl, fun h => by rw [Distinct, same]; exact h⟩
  · have more : (s.put key value).names = s.names ++ [key] := by rw [names_put, if_neg set]
    refine ⟨more ▸ List.prefix_append _ _, fun h => ?_⟩
    rw [Distinct, more]
    refine List.nodup_append.mpr ⟨h, by simp, fun k hk k' hk' => ?_⟩
    rw [List.mem_singleton.mp hk']
    rintro rfl
    exact set hk

theorem merge (s other : Settings α) : GrownFrom s (s.merge other) := by
  induction other generalizing s with
  | nil => exact refl s
  | cons item rest ih => exact (put s item.1 item.2).trans (ih _)

theorem putItem {key value : Setting α} (h : s.putItem key value = .ok s') : GrownFrom s s' := by
  cases key <;> cases h
  case text key => exact put s key value
  case whole n => exact put s (toString n) value
  all_goals exact refl s

theorem mergeItem {item : Setting α} (h : s.mergeItem item = .ok s') : GrownFrom s s' := by
  unfold Settings.mergeItem at h
  split at h
  · exact putItem h
  · cases h
  · split at h
    · cases h
      exact put s _ _
    · cases h
  · cases h
    exact put s _ _
  · cases h
  · cases h

theorem mergeItems (s : Settings α) (items : List (Setting α)) :
    GrownFrom s (s.mergeItems items).1 := by
  induction items generalizing s with
  | nil => exact refl s
  | cons item rest ih =>
      rw [Settings.mergeItems]
      rcases h : s.mergeItem item with e | s'
      · exact refl s
      · exact (mergeItem h).trans (ih s')

/-- Settings grow out of what they were before a merge. -/
theorem mergeSetting (s : Settings α) (new : Setting α) : GrownFrom s (s.mergeSetting new).1 := by
  cases new with
  | record fields => exact merge s fields
  | sequence items => exact mergeItems s items
  | text t =>
      rw [Settings.mergeSetting]
      split <;> exact refl s
  | null | flag | whole | real => exact refl s

end GrownFrom

/-- A name that is not among the first settings is set among the later ones. -/
theorem put_append {done rest : Settings α} {key : String} (new : key ∉ done.names)
    (value : Setting α) : put (done ++ rest) key value = done ++ put rest key value := by
  induction done with
  | nil => rfl
  | cons item done ih =>
      obtain ⟨k, v⟩ := item
      rw [names_cons, List.mem_cons, not_or] at new
      have other : ¬ (k == key) = true := by
        rw [beq_iff_eq]
        exact Ne.symm new.1
      rw [List.cons_append, put, if_neg other, ih new.2, List.cons_append]

/-- The names on the way through a merge: those of `done` have been dealt with, and the old settings that
are left begin like the new ones. -/
theorem merge_append (done old : Settings α) {new : Settings α}
    (names_grow : old.names <+: new.names) (distinct : Distinct (done ++ new)) :
    merge (done ++ old) new = done ++ new := by
  induction new generalizing done old with
  | nil =>
      cases old with
      | nil => rfl
      | cons item old => exact absurd names_grow.length_le (Nat.not_succ_le_zero _)
  | cons item new ih =>
      obtain ⟨key, value⟩ := item
      have fresh : key ∉ done.names := by
        rw [Distinct, names_append] at distinct
        intro hmem
        exact (List.nodup_append.mp distinct).2.2 key hmem key List.mem_cons_self rfl
      have next : Distinct ((done ++ [(key, value)]) ++ new) := by
        rw [List.append_assoc]
        exact distinct
      change merge (put (done ++ old) key value) new = _
      cases old with
      | nil =>
          rw [put_append fresh]
          have rest := ih (done ++ [(key, value)]) [] List.nil_prefix next
          rwa [List.append_nil, List.append_assoc] at rest
      | cons item old =>
          obtain ⟨k, v⟩ := item
          obtain ⟨rfl, tail⟩ := List.cons_prefix_cons.mp names_grow
          have replaced : put ((k, v) :: old) k value = (k, value) :: old := by simp [put]
          rw [put_append fresh, replaced]
          have rest := ih (done ++ [(k, value)]) old tail next
          rwa [List.append_assoc, List.append_assoc] at rest

/-- Settings merged with what they have grown into are the latter. -/
theorem GrownFrom.merge_eq {s s' : Settings α} (h : GrownFrom s s') (distinct : s.Distinct) :
    s.merge s' = s' :=
  merge_append [] s h.names_grow (h.distinct distinct)

end Settings

end ParticleMomentum
