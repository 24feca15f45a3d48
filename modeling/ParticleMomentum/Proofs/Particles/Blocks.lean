import Mathlib.Data.List.Forall2
import ParticleMomentum.Particles.Block

/-!
# Blocks of nested data

Nested lists are an array of some shape if the lists at one depth are arrays of the same shape. Such data
makes a block of this shape, in which row-major order keeps each entry at its index, and no other data
makes a block.
-/

namespace ParticleMomentum

variable {β : Type}

-- the one of a product of sizes is the numeral
attribute [local instance (high)] One.ofOfNat1

/-! ## Nested data as an array -/

namespace Nested

/-- Nested data is an array of a shape: an entry has no dimension, a list of nothing has the size zero, and
any other list has rows of one shape. -/
inductive HasShape : Nested β → List Nat → Prop
  | entry (b : β) : HasShape (.entry b) []
  | empty : HasShape (.list []) [0]
  | list {x : Nested β} {items : List (Nested β)} {shape : List Nat}
      (rows : ∀ y ∈ x :: items, HasShape y shape) :
      HasShape (.list (x :: items)) ((x :: items).length :: shape)

/-- The entry of nested data at an index, which has a number for each list around the entry. -/
def at? : Nested β → List Nat → Option β
  | entry b, [] => some b
  | list items, k :: index => items[k]?.bind fun x => x.at? index
  | _, _ => none

/-- The deepest of some items is no deeper than a bound if none of them is. -/
theorem depths_eq_of_forall {items : List (Nested β)} {x : Nested β} {d : Nat}
    (h : ∀ y ∈ x :: items, y.depth = d) : depths (x :: items) = d := by
  induction items generalizing x with
  | nil =>
      rw [depths, depths, h x List.mem_cons_self]
      exact Nat.max_eq_left (Nat.zero_le d)
  | cons y items ih =>
      rw [depths, h x List.mem_cons_self, ih fun z hz => h z (List.mem_cons_of_mem x hz)]
      exact Nat.max_self d

/-- The depth of an array is the number of its dimensions. -/
theorem HasShape.depth_eq {x : Nested β} {shape : List Nat} (h : x.HasShape shape) :
    x.depth = shape.length := by
  induction h with
  | entry => rfl
  | empty => rfl
  | list _ ih => rw [depth, depths_eq_of_forall ih, List.length_cons]

end Nested

/-! ## Entries of a block -/

namespace Block

/-- The place of an index in row-major order, if each of its numbers is below the size there. -/
def place? : List Nat → List Nat → Option Nat
  | [], [] => some 0
  | m :: shape, k :: index => if k < m then (place? shape index).map (k * shape.prod + ·) else none
  | _, _ => none

/-- The entry of a block at an index. -/
def at? (b : Block β) (index : List Nat) : Option β := (place? b.shape index).bind (b.entries[·]?)

/-- A place in row `k` of `m` rows. -/
theorem place_lt {m k i size : Nat} (row : k < m) (inside : i < size) : k * size + i < m * size :=
  calc k * size + i < k * size + size := Nat.add_lt_add_left inside _
    _ = (k + 1) * size := (Nat.succ_mul k size).symm
    _ ≤ m * size := Nat.mul_le_mul_right size row

theorem place?_lt {shape index : List Nat} {i : Nat} (h : place? shape index = some i) :
    i < shape.prod := by
  induction shape generalizing index i with
  | nil =>
      cases index with
      | nil =>
          cases h
          exact Nat.one_pos
      | cons => cases h
  | cons m shape ih =>
      cases index with
      | nil => cases h
      | cons k index =>
          rw [place?] at h
          split at h
          · next row =>
            obtain ⟨j, inside, rfl⟩ := Option.map_eq_some_iff.mp h
            rw [List.prod_cons]
            exact place_lt row (ih inside)
          · cases h

theorem length_eq_of_place? {shape index : List Nat} {i : Nat} (h : place? shape index = some i) :
    index.length = shape.length := by
  induction shape generalizing index i with
  | nil =>
      cases index with
      | nil => rfl
      | cons => cases h
  | cons m shape ih =>
      cases index with
      | nil => cases h
      | cons k index =>
          rw [place?] at h
          split at h
          · obtain ⟨j, inside, -⟩ := Option.map_eq_some_iff.mp h
            exact congrArg (· + 1) (ih inside)
          · cases h

/-! ### A block spread over rows -/

section Spread

variable {b : Block β} {n : Nat} {row : List Nat}

/-- The part of an index that is looked up in data of a shape: its last numbers, one for each dimension.
Data that has fewer dimensions is the same for all numbers in front of them. -/
def cut (shape index : List Nat) : List Nat := index.drop (index.length - shape.length)

/-- One entry, one row or all rows can be spread, and nothing else. -/
theorem exists_spread?_iff :
    (∃ entry, b.spread? n row = some entry) ↔
      b.shape = [] ∨ b.shape = row ∨ b.shape = n :: row := by
  rw [spread?]
  by_cases one : b.shape = []
  · rw [dif_pos one]
    exact iff_of_true ⟨_, rfl⟩ (.inl one)
  rw [dif_neg one]
  by_cases each : b.shape = row
  · rw [dif_pos each]
    exact iff_of_true ⟨_, rfl⟩ (.inr (.inl each))
  rw [dif_neg each]
  by_cases all : b.shape = n :: row
  · rw [dif_pos all]
    exact iff_of_true ⟨_, rfl⟩ (.inr (.inr all))
  · rw [dif_neg all]
    exact iff_of_false nofun (by simp only [one, each, all, or_self, not_false_eq_true])

/-- A spread block has everywhere the entry at the part of the index that it knows. -/
theorem at?_cut_of_spread? {entry : Fin n → Fin row.prod → β} (h : b.spread? n row = some entry)
    (k : Fin n) {place : List Nat} {c : Fin row.prod} (there : place? row place = some c.val) :
    b.at? (cut b.shape (k :: place)) = some (entry k c) := by
  have length := length_eq_of_place? there
  rw [spread?] at h
  split at h
  · next one =>
    cases h
    have size : b.entries.size = 1 := by rw [b.size_entries, one]; rfl
    rw [at?, one, cut, List.length_nil, Nat.sub_zero, List.drop_length]
    exact Array.getElem?_eq_getElem (by omega)
  · split at h
    · next each =>
      cases h
      have size : b.entries.size = row.prod := by rw [b.size_entries, each]
      rw [at?, each, cut, List.length_cons, length, Nat.add_sub_cancel_left, List.drop_succ_cons,
        List.drop_zero, there]
      exact Array.getElem?_eq_getElem (by rw [size]; exact c.isLt)
    · split at h
      · next all =>
        cases h
        have size : b.entries.size = n * row.prod := by rw [b.size_entries, all, List.prod_cons]
        rw [at?, all, cut, List.length_cons, List.length_cons, length, Nat.sub_self, List.drop_zero,
          place?, if_pos k.isLt, there]
        have inside := place_lt k.isLt c.isLt
        exact Array.getElem?_eq_getElem (by rwa [size])
      · cases h

end Spread

/-! ### Blocks behind each other -/

section Stack

variable {s : List Nat} {m : Nat} {entries : Array β} {h : entries.size = (m :: s).prod}
  {bs : List (Block β)} {b : Block β}

theorem stackOn_eq_some (stacked : stackOn s m entries h bs = some b) :
    (∀ c ∈ bs, c.shape = s) ∧ b.shape = (m + bs.length) :: s := by
  induction bs generalizing m entries with
  | nil =>
      cases stacked
      exact ⟨nofun, rfl⟩
  | cons c bs ih =>
      rw [stackOn] at stacked
      split at stacked
      · next same =>
        obtain ⟨others, shape⟩ := ih stacked
        refine ⟨List.forall_mem_cons.mpr ⟨same, others⟩, ?_⟩
        rw [shape, List.length_cons, Nat.add_right_comm, Nat.add_assoc]
      · cases stacked

/-- Blocks of one shape can be put behind each other. -/
theorem exists_stackOn (same : ∀ c ∈ bs, c.shape = s) : ∃ b, stackOn s m entries h bs = some b := by
  induction bs generalizing m entries with
  | nil => exact ⟨_, rfl⟩
  | cons c bs ih =>
      obtain ⟨first, others⟩ := List.forall_mem_cons.mp same
      rw [stackOn, dif_pos first]
      exact ih others

/-- The rows of stacked blocks: those that were there, and then one for each further block. -/
theorem stackOn_entry (stacked : stackOn s m entries h bs = some b) (k : Nat) {i : Nat}
    (inside : i < s.prod) :
    b.entries[k * s.prod + i]? =
      if k < m then entries[k * s.prod + i]? else bs[k - m]?.bind (·.entries[i]?) := by
  induction bs generalizing m entries with
  | nil =>
      cases stacked
      split
      · rfl
      · next behind =>
        have size : entries.size = m * s.prod := by rw [h, List.prod_cons]
        apply Array.getElem?_eq_none
        rw [size]
        exact Nat.le_add_right_of_le (Nat.mul_le_mul_right _ (Nat.le_of_not_lt behind))
  | cons c bs ih =>
      have size : entries.size = m * s.prod := by rw [h, List.prod_cons]
      rw [stackOn] at stacked
      split at stacked
      · rw [ih stacked]
        rcases Nat.lt_trichotomy k m with before | here | behind
        · rw [if_pos (Nat.lt_succ_of_lt before), if_pos before,
            Array.getElem?_append_left (size ▸ place_lt before inside)]
        · subst here
          rw [if_pos (Nat.lt_succ_self k), if_neg (Nat.lt_irrefl k),
            Array.getElem?_append_right (size ▸ Nat.le_add_right _ i), size, Nat.add_sub_cancel_left,
            Nat.sub_self]
          rfl
        · obtain ⟨j, rfl⟩ := Nat.exists_eq_add_of_lt behind
          rw [if_neg (by omega), if_neg (by omega), show m + j + 1 - (m + 1) = j by omega,
            show m + j + 1 - m = j + 1 by omega]
          rfl
      · cases stacked

/-- Stacked blocks are looked up by the number of the block, and then in it. -/
theorem at?_of_stack? {c : Block β} (stacked : stack? (c :: bs) = some b) (k : Nat)
    (index : List Nat) : b.at? (k :: index) = (c :: bs)[k]?.bind (·.at? index) := by
  rw [stack?] at stacked
  obtain ⟨same, shape⟩ := stackOn_eq_some stacked
  rw [Nat.zero_add] at shape
  rw [at?, shape, place?]
  by_cases hk : k < (c :: bs).length
  · have like : (c :: bs)[k].shape = c.shape := same _ (List.getElem_mem hk)
    rw [if_pos hk, List.getElem?_eq_getElem hk, Option.bind_some, at?, like]
    rcases found : place? c.shape index with _ | i
    · rfl
    · rw [Option.map_some, Option.bind_some, Option.bind_some,
        stackOn_entry stacked k (place?_lt found), if_neg (Nat.not_lt_zero k), Nat.sub_zero,
        List.getElem?_eq_getElem hk, Option.bind_some]
  · rw [if_neg hk, List.getElem?_eq_none (Nat.le_of_not_lt hk)]
    rfl

end Stack

end Block

/-! ## Data and its block -/

namespace Nested

/-- Data is the array that a block holds. -/
structure Represents (x : Nested β) (b : Block β) : Prop where
  shape : x.HasShape b.shape
  entry : ∀ index, x.at? index = b.at? index

theorem represents_single (b : β) : Represents (.entry b) (Block.single b) where
  shape := .entry b
  entry index := by cases index <;> rfl

/-- What rows represent one by one, a list of them represents as a whole. -/
theorem represents_list {items : List (Nested β)} {bs : List (Block β)} {b : Block β}
    (rows : List.Forall₂ Represents items bs) (stacked : Block.stack? bs = some b) :
    Represents (.list items) b := by
  cases rows with
  | nil =>
      cases stacked
      exact ⟨.empty, fun index => by cases index <;> rfl⟩
  | @cons x c items bs first others =>
      have rows := List.Forall₂.cons first others
      have count := rows.length_eq
      obtain ⟨same, shape⟩ := Block.stackOn_eq_some stacked
      rw [Nat.zero_add] at shape
      constructor
      · rw [shape, ← count]
        refine .list fun y hy => ?_
        obtain ⟨k, hk, rfl⟩ := List.mem_iff_getElem.mp hy
        rw [← same _ (List.getElem_mem (count ▸ hk))]
        exact (rows.get hk (count ▸ hk)).shape
      · intro index
        cases index with
        | nil =>
            rw [Block.at?, shape]
            rfl
        | cons k index =>
            rw [at?, Block.at?_of_stack? stacked]
            by_cases hk : k < (c :: bs).length
            · have row : (x :: items)[k].Represents (c :: bs)[k] := rows.get (count ▸ hk) hk
              rw [List.getElem?_eq_getElem hk, List.getElem?_eq_getElem (count ▸ hk)]
              exact row.entry index
            · rw [List.getElem?_eq_none (Nat.le_of_not_lt hk),
                List.getElem?_eq_none (count ▸ Nat.le_of_not_lt hk)]
              rfl

mutual

theorem represents_of_stacked? : ∀ (x : Nested β) {b : Block β}, x.stacked? = some b → x.Represents b
  | .entry c, b, h => by
      rw [stacked?, Option.some.injEq] at h
      subst h
      exact represents_single c
  | .list items, b, h => by
      rw [stacked?] at h
      obtain ⟨bs, made, stacked⟩ := Option.bind_eq_some_iff.mp h
      exact represents_list (represents_of_stackedItems? items made) stacked

theorem represents_of_stackedItems? : ∀ (items : List (Nested β)) {bs : List (Block β)},
    stackedItems? items = some bs → List.Forall₂ Represents items bs
  | [], bs, h => by
      rw [stackedItems?, Option.some.injEq] at h
      subst h
      exact .nil
  | x :: items, bs, h => by
      rw [stackedItems?] at h
      obtain ⟨b, made, h⟩ := Option.bind_eq_some_iff.mp h
      obtain ⟨cs, others, rfl⟩ := Option.map_eq_some_iff.mp h
      exact .cons (represents_of_stacked? x made) (represents_of_stackedItems? items others)

end

/-- The items of a list make blocks if each of them does. -/
theorem exists_stackedItems? {shape : List Nat} {items : List (Nested β)}
    (h : ∀ y ∈ items, ∃ b, y.stacked? = some b ∧ b.shape = shape) :
    ∃ bs, stackedItems? items = some bs ∧ ∀ c ∈ bs, c.shape = shape := by
  induction items with
  | nil => exact ⟨[], rfl, nofun⟩
  | cons x items ih =>
      obtain ⟨⟨b, made, rfl⟩, rest⟩ := List.forall_mem_cons.mp h
      obtain ⟨bs, others, same⟩ := ih rest
      refine ⟨b :: bs, ?_, List.forall_mem_cons.mpr ⟨rfl, same⟩⟩
      rw [stackedItems?, made, Option.bind_some, others, Option.map_some]

theorem HasShape.exists_stacked? {x : Nested β} {shape : List Nat} (h : x.HasShape shape) :
    ∃ b, x.stacked? = some b ∧ b.shape = shape := by
  induction h with
  | entry b => exact ⟨_, by rw [stacked?], rfl⟩
  | empty => exact ⟨_, by rw [stacked?, stackedItems?, Option.bind_some, Block.stack?], rfl⟩
  | @list x items shape _ ih =>
      obtain ⟨bs, made, same⟩ := exists_stackedItems? ih
      have count := (represents_of_stackedItems? _ made).length_eq
      cases bs with
      | nil => cases count
      | cons c bs =>
          have first := same c List.mem_cons_self
          obtain ⟨b, stacked⟩ : ∃ b, Block.stack? (c :: bs) = some b :=
            Block.exists_stackOn fun d hd => (same d hd).trans first.symm
          refine ⟨b, by rw [stacked?, made, Option.bind_some, stacked], ?_⟩
          rw [(Block.stackOn_eq_some stacked).2, first, Nat.zero_add, count]

/-! ## Data that makes a block -/

/-- Data is an array of a shape that a block may have. -/
def IsArray (x : Nested β) (shape : List Nat) : Prop :=
  x.HasShape shape ∧ shape.length ≤ mostDimensions

/-- Data that is an array makes the block that holds it. -/
theorem IsArray.toBlock? {x : Nested β} {shape : List Nat} (h : x.IsArray shape) :
    ∃ b, x.toBlock? = some b ∧ b.shape = shape ∧ ∀ index, b.at? index = x.at? index := by
  obtain ⟨b, made, same⟩ := h.1.exists_stacked?
  refine ⟨b, ?_, same, fun index => ((represents_of_stacked? x made).entry index).symm⟩
  rw [Nested.toBlock?, if_pos (h.1.depth_eq ▸ h.2)]
  exact made

/-- Data that makes a block is an array. -/
theorem isArray_of_toBlock? {x : Nested β} {b : Block β} (h : x.toBlock? = some b) :
    x.IsArray b.shape := by
  rw [Nested.toBlock?] at h
  split at h
  · next shallow =>
    have shape := (represents_of_stacked? x h).shape
    exact ⟨shape, shape.depth_eq ▸ shallow⟩
  · cases h

end Nested

end ParticleMomentum
