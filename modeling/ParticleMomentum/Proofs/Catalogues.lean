import ParticleMomentum.Arithmetic.Double
import ParticleMomentum.Catalogue
import ParticleMomentum.Fault.Message
import ParticleMomentum.Proofs.Settings
import ParticleMomentum.Proofs.Trail

/-!
# Definitions found in catalogues

Where identifiers are texts, a search finds the first definition with the wanted one, and it names all
identifiers if there is none. A definition is thus out of reach just if another one in front of it has its
identifier. The check of formulations lets no identifier come twice, so all definitions that it accepts are
found. The check of kernels only asks for the names that a definition must set.
-/

namespace ParticleMomentum

/-! ## Texts -/

theorem Setting.same_text {α : Type} [Arithmetic α] (s t : String) :
    (text s : Setting α).same (text t) = (s == t) := by
  rw [same]

/-- The refusal of a text among texts names all of these in their order. -/
theorem Fault.message_unknownId (kind t : String) (ids : List String) :
    message (.unknownId kind (.text t) (ids.map .text)) =
      "Unknown " ++ kind ++ " id '" ++ t ++ "'. Available: " ++ nameList ids := by
  have literals : (ids.map Setting.text).map Setting.literal = ids.map Text.quoted := by
    rw [List.map_map]
    refine List.map_congr_left fun t _ => ?_
    rw [Function.comp_apply, Setting.literal]
  change "Unknown " ++ kind ++ " id '" ++ (Setting.text t).display ++ "'. Available: "
    ++ bracketed ((ids.map Setting.text).map Setting.literal) = _
  rw [literals, nameList, Setting.display]

namespace Catalogue

section

variable {α : Type} {definitions : List (Definition α)} {d : Definition α}

/-! ## Identifiers -/

/-- The identifier of a definition is a text, if the definition sets one. -/
def HasTextId (d : Definition α) : Prop := ∀ id, d.require "id" = .ok id → ∃ t, id = .text t

/-- Identifiers are texts, where definitions set them. -/
def HasTextIds (definitions : List (Definition α)) : Prop := ∀ d ∈ definitions, HasTextId d

def textId (d : Definition α) : String := textOf d "id"

/-- All definitions have texts as their identifiers. -/
def Identified (definitions : List (Definition α)) : Prop :=
  ∀ d ∈ definitions, d.require "id" = .ok (.text (textId d))

theorem hasTextId_of_require {t : String} (h : d.require "id" = .ok (.text t)) : HasTextId d := by
  intro id set
  exact ⟨t, Except.ok.inj (set.symm.trans h)⟩

theorem textId_of_require {t : String} (h : d.require "id" = .ok (.text t)) : textId d = t := by
  rw [textId, textOf, Settings.require_eq_ok_iff.mp h]

theorem exists_id_of_isComplete (complete : isComplete d = true) : ∃ id, d.require "id" = .ok id := by
  have set : d.has "id" = true := List.all_eq_true.mp complete "id" (List.mem_cons_self ..)
  obtain ⟨id, found⟩ := Option.isSome_iff_exists.mp set
  exact ⟨id, Settings.require_eq_ok_iff.mpr found⟩

/-- A complete definition has an identifier, which is then a text. -/
theorem HasTextId.require_eq (text : HasTextId d) (complete : isComplete d = true) :
    d.require "id" = .ok (.text (textId d)) := by
  obtain ⟨id, set⟩ := exists_id_of_isComplete complete
  obtain ⟨t, rfl⟩ := text id set
  rw [textId_of_require set, set]

theorem HasTextIds.identified (texts : HasTextIds definitions)
    (complete : ∀ d ∈ definitions, isComplete d = true) : Identified definitions :=
  fun d hd => (texts d hd).require_eq (complete d hd)

theorem Identified.require_eq_iff (identified : Identified definitions) {e : Definition α}
    (hd : d ∈ definitions) (he : e ∈ definitions) :
    d.require "id" = e.require "id" ↔ textId d = textId e := by
  rw [identified d hd, identified e he, Except.ok.injEq, Setting.text.injEq]

/-! ## Accepted catalogues -/

theorem checkComplete_eq_ok_iff {catalogue : String} :
    checkComplete catalogue d = .ok () ↔ isComplete d = true := by
  rw [checkComplete]
  split
  · next complete => exact iff_of_true rfl complete
  · next lacking => exact iff_of_false nofun lacking

/-- Kernels are accepted just if their definitions are complete. -/
theorem validateKernels_eq_ok_iff :
    validateKernels definitions = .ok () ↔ ∀ d ∈ definitions, isComplete d = true := by
  induction definitions with
  | nil => exact iff_of_true rfl nofun
  | cons d rest ih =>
      rw [validateKernels, bind_eq_ok_iff, List.forall_mem_cons, ← ih]
      constructor
      · rintro ⟨⟨⟩, complete, others⟩
        exact ⟨checkComplete_eq_ok_iff.mp complete, others⟩
      · rintro ⟨complete, others⟩
        exact ⟨(), checkComplete_eq_ok_iff.mpr complete, others⟩

end

section

variable {α : Type} [Arithmetic α] {definitions : List (Definition α)} {d : Definition α} {t : String}

theorem any_same_text_iff {seen : List String} :
    (seen.map .text).any (Setting.text t : Setting α).same = true ↔ t ∈ seen := by
  rw [List.any_map, List.any_eq_true]
  constructor
  · rintro ⟨s, hs, same⟩
    rw [Function.comp_apply, Setting.same_text, beq_iff_eq] at same
    exact same ▸ hs
  · intro ht
    exact ⟨t, ht, (Setting.same_text t t).trans (beq_self_eq_true t)⟩

theorem checkNewId_eq_ok_iff {seen : List String} :
    checkNewId (seen.map .text) (.text t : Setting α) = .ok () ↔ t ∉ seen := by
  have key : ¬ (!(Setting.text t : Setting α).isKey) = true := nofun
  rw [checkNewId, if_neg key]
  split
  · next known => exact iff_of_false nofun fun new => new (any_same_text_iff.mp known)
  · next new => exact iff_of_true rfl (mt any_same_text_iff.mpr new)

/-- A definition passes the check if it is complete and its identifier is new, and the check goes on. -/
theorem validateFormulations_go_cons (text : HasTextId d) (seen : List String)
    (rest : List (Definition α)) :
    validateFormulations.go (seen.map .text) (d :: rest) = .ok () ↔
      isComplete d = true ∧ textId d ∉ seen ∧
        validateFormulations.go ((textId d :: seen).map .text) rest = .ok () := by
  rw [validateFormulations.go, bind_eq_ok_iff]
  constructor
  · rintro ⟨⟨⟩, complete, h⟩
    obtain ⟨id, set, h⟩ := bind_eq_ok_iff.mp h
    obtain ⟨⟨⟩, new, goesOn⟩ := bind_eq_ok_iff.mp h
    obtain ⟨t, rfl⟩ := text id set
    rw [textId_of_require set]
    exact ⟨checkComplete_eq_ok_iff.mp complete, checkNewId_eq_ok_iff.mp new, goesOn⟩
  · rintro ⟨complete, new, goesOn⟩
    refine ⟨(), checkComplete_eq_ok_iff.mpr complete, ?_⟩
    refine bind_eq_ok_iff.mpr ⟨_, text.require_eq complete, ?_⟩
    exact bind_eq_ok_iff.mpr ⟨(), checkNewId_eq_ok_iff.mpr new, goesOn⟩

/-- The definitions that are left must be complete, and their identifiers must be new and differ from each
other. -/
theorem validateFormulations_go_eq_ok_iff (texts : HasTextIds definitions) (seen : List String) :
    validateFormulations.go (seen.map .text) definitions = .ok () ↔
      (∀ d ∈ definitions, isComplete d = true) ∧ (definitions.map textId).Nodup ∧
        ∀ t ∈ definitions.map textId, t ∉ seen := by
  induction definitions generalizing seen with
  | nil => exact iff_of_true rfl ⟨nofun, List.nodup_nil, nofun⟩
  | cons d rest ih =>
      obtain ⟨text, others⟩ := List.forall_mem_cons.mp texts
      -- what is new behind the definition is new in front of it and not its own identifier
      have news : (∀ t ∈ rest.map textId, t ∉ textId d :: seen) ↔
          textId d ∉ rest.map textId ∧ ∀ t ∈ rest.map textId, t ∉ seen := by
        constructor
        · intro h
          exact ⟨fun again => h _ again (List.mem_cons_self ..),
            fun t ht => List.not_mem_of_not_mem_cons (h t ht)⟩
        · rintro ⟨once, new⟩ t ht (_ | ⟨_, known⟩)
          · exact once ht
          · exact new t ht known
      rw [validateFormulations_go_cons text, ih others, news, List.map_cons, List.nodup_cons,
        List.forall_mem_cons, List.forall_mem_cons]
      constructor
      · rintro ⟨complete, new, completes, distinct, once, newer⟩
        exact ⟨⟨complete, completes⟩, ⟨once, distinct⟩, new, newer⟩
      · rintro ⟨⟨complete, completes⟩, ⟨once, distinct⟩, new, newer⟩
        exact ⟨complete, new, completes, distinct, once, newer⟩

/-- Formulations under texts are accepted just if their definitions are complete and no identifier comes
twice. -/
theorem validateFormulations_eq_ok_iff (texts : HasTextIds definitions) :
    validateFormulations definitions = .ok () ↔
      (∀ d ∈ definitions, isComplete d = true) ∧ (definitions.map textId).Nodup := by
  refine (validateFormulations_go_eq_ok_iff texts []).trans ?_
  simp

/-! ## Searches -/

theorem find_go_cons (named : d.require "id" = .ok (.text (textId d))) (t kind : String)
    (rest : List (Definition α)) :
    find.go definitions (.text t) kind (d :: rest) =
      if textId d == t then .ok d else find.go definitions (.text t) kind rest := by
  rw [find.go, named, ← Setting.same_text (α := α)]
  rfl

/-- The definitions that are left are searched; a fault names those passed by as well. -/
theorem find_go_text (identified : Identified definitions) {rest : List (Definition α)}
    (named : Identified rest) (t kind : String) :
    find.go definitions (.text t) kind rest =
      match rest.find? (textId · == t) with
      | some d => .ok d
      | none => .error (.unknownId kind (.text t) (definitions.map fun d => .text (textId d))) := by
  induction rest with
  | nil =>
      have ids : definitions.mapM (·.require "id") =
          .ok (definitions.map fun d => (.text (textId d) : Setting α)) :=
        mapM_eq_ok_map identified
      rw [find.go, ids]
      rfl
  | cons d rest ih =>
      obtain ⟨first, others⟩ := List.forall_mem_cons.mp named
      rw [find_go_cons first, List.find?_cons]
      split
      · next here => rw [here]
      · next there => rw [Bool.eq_false_iff.mpr there, ih others]

/-- A search among texts finds the first definition with the wanted one, and its fault names them all. -/
theorem find_text (identified : Identified definitions) (t kind : String) :
    find definitions (.text t) kind =
      match definitions.find? (textId · == t) with
      | some d => .ok d
      | none => .error (.unknownId kind (.text t) (definitions.map fun d => .text (textId d))) :=
  find_go_text identified identified t kind

/-- The search for the identifier of a definition finds this definition. -/
def Finds (definitions : List (Definition α)) (kind : String) (d : Definition α) : Prop :=
  ∃ id, d.require "id" = .ok id ∧ find definitions id kind = .ok d

/-- No definition in front of another one keeps it from being found, unless both have one identifier. -/
theorem finds_of_first (identified : Identified definitions) (kind : String)
    {before after : List (Definition α)} (place : definitions = before ++ d :: after)
    (first : ∀ e ∈ before, e.require "id" ≠ d.require "id") : Finds definitions kind d := by
  have hd : d ∈ definitions := place ▸ List.mem_append_right _ (List.mem_cons_self ..)
  have reached : definitions.find? (textId · == textId d) = some d := by
    refine List.find?_eq_some_iff_append.mpr ⟨beq_self_eq_true _, before, after, place, ?_⟩
    intro e he
    have among : e ∈ definitions := place ▸ List.mem_append_left _ he
    have differs := mt (identified.require_eq_iff among hd).mpr (first e he)
    rw [beq_eq_false_iff_ne.mpr differs, Bool.not_false]
  refine ⟨_, identified d hd, ?_⟩
  rw [find_text identified, reached]

/-- All definitions are found just if none that differ have one identifier. -/
theorem all_found_iff (identified : Identified definitions) (kind : String) :
    (∀ d ∈ definitions, Finds definitions kind d) ↔
      ∀ d ∈ definitions, ∀ e ∈ definitions, d.require "id" = e.require "id" → d = e := by
  constructor
  · intro found d hd e he same
    obtain ⟨id, set, search⟩ := found d hd
    obtain ⟨id', set', search'⟩ := found e he
    have one : id = id' := Except.ok.inj ((set.symm.trans same).trans set')
    subst one
    exact Except.ok.inj (search.symm.trans search')
  · intro agree d hd
    refine ⟨_, identified d hd, ?_⟩
    rw [find_text identified]
    rcases search : definitions.find? (textId · == textId d) with _ | e
    · exact absurd (beq_self_eq_true _) (List.find?_eq_none.mp search d hd)
    · have he := List.mem_of_find?_eq_some search
      have named : textId e = textId d := by simpa using List.find?_some search
      rw [agree e he d hd ((identified.require_eq_iff he hd).mpr named)]

end

/-! ## What accepted catalogues offer -/

section

variable {definitions : List (Definition Float)}

/-- A text that is no identifier is refused, in words that name all identifiers in their order. -/
def RefusesOthers (definitions : List (Definition Float)) (kind : String) : Prop :=
  ∃ ids : List String, definitions.map (·.require "id") = ids.map (fun t => .ok (.text t)) ∧
    ∀ t ∉ ids, ∃ fault, find definitions (.text t) kind = .error fault ∧
      fault = .unknownId kind (.text t) (ids.map .text) ∧
      fault.message = "Unknown " ++ kind ++ " id '" ++ t ++ "'. Available: " ++ nameList ids

theorem refusesOthers (identified : Identified definitions) (kind : String) :
    RefusesOthers definitions kind := by
  refine ⟨definitions.map textId, ?_, fun t new => ?_⟩
  · rw [List.map_map]
    exact List.map_congr_left identified
  · have missing : definitions.find? (textId · == t) = none :=
      List.find?_eq_none.mpr fun d hd named => new (List.mem_map.mpr ⟨d, hd, beq_iff_eq.mp named⟩)
    refine ⟨_, ?_, rfl, Fault.message_unknownId kind t _⟩
    rw [find_text identified, missing, List.map_map]
    rfl

/-- An accepted catalogue of formulations has no identifier twice, and every definition in it is found. An
accepted catalogue of kernels may have one twice: the first definition with an identifier is found, so
every definition is found just if none that differ have the same one. Texts that are no identifiers are
refused by both. -/
theorem accepted_definitions_found (texts : HasTextIds definitions) (kind : String) :
    (validateFormulations definitions = .ok () →
      definitions.Pairwise (fun d e => d.require "id" ≠ e.require "id") ∧
      (∀ d ∈ definitions, Finds definitions kind d) ∧ RefusesOthers definitions kind) ∧
    (validateKernels definitions = .ok () →
      (∀ before d after, definitions = before ++ d :: after →
        (∀ e ∈ before, e.require "id" ≠ d.require "id") → Finds definitions kind d) ∧
      ((∀ d ∈ definitions, Finds definitions kind d) ↔
        ∀ d ∈ definitions, ∀ e ∈ definitions, d.require "id" = e.require "id" → d = e) ∧
      RefusesOthers definitions kind) := by
  constructor
  · intro accepted
    obtain ⟨complete, distinct⟩ := (validateFormulations_eq_ok_iff texts).mp accepted
    have identified := texts.identified complete
    have apart : definitions.Pairwise fun d e => d.require "id" ≠ e.require "id" :=
      (List.pairwise_map.mp distinct).imp_of_mem fun hd he differ =>
        mt (identified.require_eq_iff hd he).mp differ
    refine ⟨apart, fun d hd => ?_, refusesOthers identified kind⟩
    obtain ⟨before, after, place⟩ := List.append_of_mem hd
    have across := (List.pairwise_append.mp (place ▸ apart)).2.2
    exact finds_of_first identified kind place fun e he => across e he d (List.mem_cons_self ..)
  · intro accepted
    have identified := texts.identified (validateKernels_eq_ok_iff.mp accepted)
    exact ⟨fun _ _ _ place first => finds_of_first identified kind place first,
      all_found_iff identified kind, refusesOthers identified kind⟩

/-! ## Two kernels under one identifier -/

def splineNamed (name : String) : Definition Float :=
  [("id", .text "spline"), ("name", .text name), ("module", .text "kernels"), ("class", .text "Spline")]

def twinKernels : List (Definition Float) := [splineNamed "Rough", splineNamed "Smooth"]

theorem splineNamed_injective {name name' : String} (h : splineNamed name = splineNamed name') :
    name = name' :=
  congrArg (textOf · "name") h

theorem hasTextIds_formulations : HasTextIds (formulations : List (Definition Float)) :=
  List.forall_mem_cons.mpr ⟨hasTextId_of_require rfl,
    List.forall_mem_singleton.mpr (hasTextId_of_require rfl)⟩

theorem hasTextIds_twinKernels : HasTextIds twinKernels :=
  List.forall_mem_cons.mpr ⟨hasTextId_of_require rfl,
    List.forall_mem_singleton.mpr (hasTextId_of_require rfl)⟩

theorem accepted_definitions_found_twinKernels :
    (HasTextIds (formulations : List (Definition Float)) ∧
      validateFormulations (formulations : List (Definition Float)) = .ok () ∧
      ∀ d ∈ formulations, Finds (formulations : List (Definition Float)) "momentum formulation" d) ∧
    HasTextIds twinKernels ∧ validateKernels twinKernels = .ok () ∧
    Finds twinKernels "kernel" (splineNamed "Rough") ∧
    (¬ ∀ d ∈ twinKernels, Finds twinKernels "kernel" d) ∧ RefusesOthers twinKernels "kernel" := by
  have checked : validateFormulations (formulations : List (Definition Float)) = .ok () := rfl
  have offered := (accepted_definitions_found hasTextIds_formulations "momentum formulation").1 checked
  have accepted : validateKernels twinKernels = .ok () := rfl
  obtain ⟨first, all, refused⟩ :=
    (accepted_definitions_found hasTextIds_twinKernels "kernel").2 accepted
  refine ⟨⟨hasTextIds_formulations, checked, offered.2.1⟩, hasTextIds_twinKernels, accepted,
    first [] _ _ rfl nofun, fun found => ?_, refused⟩
  have same := all.mp found _ (List.mem_cons_self ..) _ (List.mem_cons_of_mem _ (List.mem_cons_self ..)) rfl
  exact absurd (splineNamed_injective same) (by decide)

/-- An accepted catalogue of kernels may hold a definition that is not found. -/
theorem accepted_kernel_shadowed :
    ¬ ∀ definitions : List (Definition Float), HasTextIds definitions →
      validateKernels definitions = .ok () → ∀ kind, ∀ d ∈ definitions, Finds definitions kind d := by
  intro all
  obtain ⟨id, set, found⟩ := all twinKernels hasTextIds_twinKernels rfl "kernel" (splineNamed "Smooth")
    (List.mem_cons_of_mem _ (List.mem_cons_self ..))
  cases set
  have first : find twinKernels (.text "spline") "kernel" = .ok (splineNamed "Rough") := rfl
  have same := Except.ok.inj (first.symm.trans found)
  exact absurd (splineNamed_injective same) (by decide)

end

end Catalogue

end ParticleMomentum
