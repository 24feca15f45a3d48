import ParticleMomentum.Report.FileTree

/-!
# Changes of file trees

What the operations on a file tree change, place by place. Where a path leads depends only on where the
directories are. Making directories adds no file, and a file that is removed is gone.
-/

namespace ParticleMomentum.FileTree

variable {t t' t'' : FileTree} {p q : Place} {kind : FileKind} {path : String}

/-! ## Single places -/

theorem lookup_filter_ne (nodes : List (Place × FileKind)) (p q : Place) :
    (nodes.filter (·.1 != p)).lookup q = if q = p then none else nodes.lookup q := by
  induction nodes with
  | nil => simp
  | cons node rest ih =>
      obtain ⟨r, kind⟩ := node
      by_cases removed : r = p
      · rw [List.filter_cons_of_neg (by simpa using removed), ih, removed]
        by_cases here : q = p
        · rw [if_pos here, if_pos here]
        · rw [if_neg here, if_neg here, List.lookup_cons, beq_false_of_ne here]
      · rw [List.filter_cons_of_pos (by simpa using removed), List.lookup_cons, List.lookup_cons, ih]
        by_cases here : q = r
        · simp only [here, beq_self_eq_true, if_neg removed]
        · simp only [beq_false_of_ne here]

/-- Something put at a place stands there, unless the place is the root; all else is as before. -/
theorem at?_put (t : FileTree) (p q : Place) (kind : FileKind) :
    (t.put p kind).at? q =
      if q.isEmpty then some .directory else if q = p then some kind else t.at? q := by
  rw [at?, at?]
  split
  · rfl
  rw [put, List.lookup_append, lookup_filter_ne]
  split
  · next here => rw [here, Option.none_or, List.lookup_cons, beq_self_eq_true]
  · next other => rw [List.lookup_cons, beq_false_of_ne other, List.lookup_nil, Option.or_none]

/-- Nothing stands at an erased place, unless it is the root; all else is as before. -/
theorem at?_erase (t : FileTree) (p q : Place) :
    (t.erase p).at? q = if q.isEmpty then some .directory else if q = p then none else t.at? q := by
  rw [at?, at?]
  split
  · rfl
  · rw [erase, lookup_filter_ne]

/-! ## Places that paths lead to -/

structure SameDirectories (t t' : FileTree) : Prop where
  home : t'.home = t.home
  directory : ∀ p, t'.at? p = some .directory ↔ t.at? p = some .directory

theorem walk_cons_eq_ok_iff {name : String} {rest : List String} :
    t.walk p (name :: rest) = .ok q ↔
      t.at? p = some .directory ∧ name.utf8ByteSize ≤ longestName ∧
        t.walk (enter p name) rest = .ok q := by
  rw [walk]
  split
  · next directory =>
    rw [directory]
    split
    · next long => exact ⟨nofun, fun h => absurd h.2.1 (Nat.not_le.mpr long)⟩
    · next short => exact ⟨fun h => ⟨rfl, Nat.not_lt.mp short, h⟩, fun h => h.2.2⟩
  · next kind other found =>
    rw [found]
    exact ⟨nofun, fun h => absurd (Option.some.inj h.1) other⟩
  · next nothing =>
    rw [nothing]
    exact ⟨nofun, nofun⟩

theorem SameDirectories.walk_eq_ok_iff (h : t.SameDirectories t') (names : List String) :
    t'.walk p names = .ok q ↔ t.walk p names = .ok q := by
  induction names generalizing p with
  | nil => rfl
  | cons name rest ih => rw [walk_cons_eq_ok_iff, walk_cons_eq_ok_iff, h.directory, ih]

/-- Where a path leads depends only on the directories. -/
theorem SameDirectories.locate_eq_ok_iff (h : t.SameDirectories t') :
    t'.locate path = .ok q ↔ t.locate path = .ok q := by
  rw [locate, locate, h.home]
  split
  · rfl
  split
  · rfl
  split
  · rfl
  · exact h.walk_eq_ok_iff _

/-! ## Files -/

/-- Every file of the second tree stands in the first one. -/
def AddsNoFile (t t' : FileTree) : Prop :=
  ∀ p kind, t'.at? p = some kind → kind = .directory ∨ t.at? p = some kind

/-- A directory is made after the directory above it, unless that is there. -/
theorem makeDirectories_succ (depth : Nat) (t : FileTree) (path : String) :
    ∃ head tail, t.makeDirectories (depth + 1) path =
      if head.isEmpty || tail.isEmpty || (t.look head).isSome then t.ensureDirectory path
      else
        match FileTree.makeDirectories depth t head with
        | (t', .error (.alreadyExists _)) | (t', .ok ()) =>
          if tail == "." then (t', .ok ()) else t'.ensureDirectory path
        | (t', .error f) => (t', .error f) := by
  rw [FileTree.makeDirectories]
  exact ⟨_, _, rfl⟩

namespace AddsNoFile

theorem refl (t : FileTree) : t.AddsNoFile t := fun _ _ => .inr

theorem trans (h : t.AddsNoFile t') (h' : t'.AddsNoFile t'') : t.AddsNoFile t'' := by
  intro p kind found
  rcases h' p kind found with directory | before
  · exact .inl directory
  · exact h p kind before

theorem put_directory (t : FileTree) (p : Place) : t.AddsNoFile (t.put p .directory) := by
  intro q kind found
  rw [at?_put] at found
  split at found
  · exact .inl (Option.some.inj found).symm
  split at found
  · exact .inl (Option.some.inj found).symm
  · exact .inr found

theorem makeDirectory (t : FileTree) (path : String) : t.AddsNoFile (t.makeDirectory path).1 := by
  rw [FileTree.makeDirectory]
  split
  · exact refl t
  split
  · exact refl t
  · exact put_directory t _

theorem ensureDirectory (t : FileTree) (path : String) : t.AddsNoFile (t.ensureDirectory path).1 := by
  have made := makeDirectory t path
  rw [FileTree.ensureDirectory]
  split <;> simp_all only

/-- Making directories adds no file, whether it succeeds or not. -/
theorem makeDirectories (depth : Nat) (t : FileTree) (path : String) :
    t.AddsNoFile (t.makeDirectories depth path).1 := by
  induction depth generalizing t path with
  | zero => exact refl t
  | succ depth ih =>
      obtain ⟨head, tail, steps⟩ := makeDirectories_succ depth t path
      rw [steps]
      by_cases topmost : (head.isEmpty || tail.isEmpty || (t.look head).isSome) = true
      · rw [if_pos topmost]
        exact ensureDirectory t path
      rw [if_neg topmost]
      have above := ih t head
      have rest (t' : FileTree) (made : t.AddsNoFile t') :
          t.AddsNoFile (if tail == "." then (t', .ok ()) else t'.ensureDirectory path).1 := by
        split
        · exact made
        · exact made.trans (ensureDirectory t' path)
      split
      · next found => exact rest _ (by rwa [found] at above)
      · next found => exact rest _ (by rwa [found] at above)
      · next found => rwa [found] at above

theorem makeAll (t : FileTree) (path : String) : t.AddsNoFile (t.makeAll path).1 :=
  makeDirectories _ t path

end AddsNoFile

/-! ## The file at the end of a path -/

/-- Where a path leads there is no file. -/
def NoFileAt (t : FileTree) (path : String) : Prop := ∀ kind, t.look path = some kind → kind = .directory

theorem look_of_locate (h : t.locate path = .ok p) : t.look path = t.at? p := by
  rw [look, h]

/-- Two trees differ at most in a file at the end of a path. -/
structure ChangesFileAt (path : String) (t t' : FileTree) : Prop extends SameDirectories t t' where
  elsewhere : ∀ p, t.locate path ≠ .ok p → t'.at? p = t.at? p

namespace ChangesFileAt

theorem refl (path : String) (t : FileTree) : ChangesFileAt path t t :=
  ⟨⟨rfl, fun _ => Iff.rfl⟩, fun _ _ => rfl⟩

theorem trans (h : ChangesFileAt path t t') (h' : ChangesFileAt path t' t'') :
    ChangesFileAt path t t'' where
  home := h'.home.trans h.home
  directory p := (h'.directory p).trans (h.directory p)
  elsewhere p other := by
    have other' : t'.locate path ≠ .ok p := mt h.locate_eq_ok_iff.mp other
    rw [h'.elsewhere p other', h.elsewhere p other]

theorem addsNoFile (h : ChangesFileAt path t t') (gone : t'.NoFileAt path) : t.AddsNoFile t' := by
  intro p kind found
  by_cases here : t.locate path = .ok p
  · refine .inl (gone kind ?_)
    rw [look_of_locate (h.locate_eq_ok_iff.mpr here), found]
  · rw [← h.elsewhere p here]
    exact .inr found

/-- What happens to a file at the end of a path is no concern of other places. -/
theorem of_at? (here : t.locate path = .ok p) (file : t.at? p ≠ some .directory) (home : t'.home = t.home)
    (file' : t'.at? p ≠ some .directory) (others : ∀ q, q ≠ p → t'.at? q = t.at? q) :
    ChangesFileAt path t t' where
  home := home
  directory q := by
    by_cases there : q = p
    · rw [there]
      exact iff_of_false file' file
    · rw [others q there]
  elsewhere q other := others q fun there => other (there ▸ here)

end ChangesFileAt

theorem not_isEmpty_of_file (file : t.at? p ≠ some .directory) : p.isEmpty = false := by
  rw [← Bool.not_eq_true]
  exact fun root => file (if_pos root)

theorem changesFileAt_put (here : t.locate path = .ok p) (file : t.at? p ≠ some .directory)
    (new : kind ≠ .directory) : ChangesFileAt path t (t.put p kind) := by
  have inner := not_isEmpty_of_file file
  refine .of_at? here file rfl ?_ fun q there => ?_
  · rw [at?_put, inner]
    simpa using new
  · rw [at?_put, if_neg there, at?]
    split <;> rfl

theorem changesFileAt_erase (here : t.locate path = .ok p) (file : t.at? p ≠ some .directory) :
    ChangesFileAt path t (t.erase p) := by
  have inner := not_isEmpty_of_file file
  refine .of_at? here file rfl ?_ fun q there => ?_
  · rw [at?_erase, inner]
    simp
  · rw [at?_erase, if_neg there, at?]
    split <;> rfl

/-- A removal leaves no file at its path, whether it succeeds or not, and nothing else changes. It succeeds
exactly if there is a file. -/
theorem removeFile_spec (t : FileTree) (path : String) :
    ChangesFileAt path t (t.removeFile path).1 ∧ (t.removeFile path).1.NoFileAt path ∧
      ((t.removeFile path).2 = .ok () ↔ ¬ t.NoFileAt path) := by
  have idle {f : FileFault} (none : t.NoFileAt path) :
      ChangesFileAt path t t ∧ t.NoFileAt path ∧ (Except.error f = .ok () ↔ ¬ t.NoFileAt path) :=
    ⟨.refl path t, none, iff_of_false nofun (not_not_intro none)⟩
  rw [removeFile]
  split
  · next stopped =>
    refine idle fun kind found => ?_
    rw [look, stopped] at found
    cases found
  next p here =>
  split
  · next nothing =>
    refine idle fun kind found => ?_
    rw [look_of_locate here, nothing] at found
    cases found
  · next directory =>
    refine idle fun kind found => ?_
    rw [look_of_locate here, directory] at found
    exact (Option.some.inj found).symm
  · next kind other found =>
    have file : t.at? p ≠ some .directory := by simpa [found] using other
    have changed := changesFileAt_erase here file
    refine ⟨changed, fun kind found => ?_, iff_of_true rfl fun none => other (none kind ?_)⟩
    · rw [look_of_locate (changed.locate_eq_ok_iff.mpr here), at?_erase, not_isEmpty_of_file file,
        if_neg Bool.false_ne_true, if_pos rfl] at found
      cases found
    · rw [look_of_locate here, found]

/-- Writing a document changes a file at most. If it succeeds, the document is there. -/
theorem writeDocument_spec (t : FileTree) (path : String) :
    ChangesFileAt path t (t.writeDocument path).1 ∧
      ((t.writeDocument path).2 = .ok () → (t.writeDocument path).1.look path = some .document) := by
  rw [writeDocument]
  split
  · exact ⟨.refl path t, nofun⟩
  next p here =>
  split
  · exact ⟨.refl path t, nofun⟩
  · next other =>
    have changed : ChangesFileAt path t (t.put p .document) := changesFileAt_put here other nofun
    refine ⟨changed, fun _ => ?_⟩
    rw [look_of_locate (changed.locate_eq_ok_iff.mpr here), at?_put, not_isEmpty_of_file other,
      if_neg Bool.false_ne_true, if_pos rfl]

end ParticleMomentum.FileTree
