/-
# Policies as lookups in the parameter list

The rules see a declaration through its descriptors, which leave out the slots whose shape does not
reduce. Two counts meet there: a descriptor carries the number of its slot, and a negative index
counts back from the number of descriptors. This file states both on the declared parameters.

`SlotIn` reads a slot off the parameter groups. The descriptors are those of the slots that reduce
(`mem_descriptors_iff`), and there are as many as there are supported slots (`length_descriptors`). A
policy is then met by a declaration exactly if some slot has a type that the policy accepts
(`Policy.Accepts`) and a number that its index designates (`Policy.Designates`).
-/

import Mathlib.Algebra.Group.Nat.Defs
import RequiredArgs.Matching
import RequiredArgs.Extraction

namespace RequiredArgs

open Go (FuncDecl ImportTable ParamGroup Reduced Shape)

namespace Go

/-- A slot of parameter groups and its shape: the first group takes up one slot for each of its names,
and one if it has none; the slots of the others follow. -/
inductive SlotIn : List ParamGroup → Nat → Shape → Prop
  | first {g : ParamGroup} {gs : List ParamGroup} {s : Nat} (h : s < max 1 g.names.length) :
      SlotIn (g :: gs) s g.shape
  | later {g : ParamGroup} {gs : List ParamGroup} {s : Nat} {shape : Shape}
      (h : SlotIn gs s shape) : SlotIn (g :: gs) (max 1 g.names.length + s) shape

/-- A group takes up at least one slot. -/
theorem ParamGroup.slots_eq (g : ParamGroup) : g.slots = max 1 g.names.length :=
  Nat.max_comm g.names.length 1

namespace FuncDecl

/-- The flattened parameter list, slot by slot. -/
theorem slotShapes_getElem?_iff (d : FuncDecl) (s : Nat) (shape : Shape) :
    d.slotShapes[s]? = some shape ↔ SlotIn d.params s shape := by
  rw [slotShapes]
  induction d.params generalizing s with
  | nil => exact iff_of_false (by simp) nofun
  | cons g gs ih =>
    rw [List.flatMap_cons]
    constructor
    · intro h
      rcases Nat.lt_or_ge s g.slots with hlt | hge
      · rw [List.getElem?_append_left (by simpa using hlt), List.getElem?_replicate, if_pos hlt] at h
        obtain rfl := Option.some.inj h
        rw [g.slots_eq] at hlt
        exact .first hlt
      · rw [List.getElem?_append_right (by simpa using hge), List.length_replicate, ih] at h
        obtain ⟨k, rfl⟩ := Nat.exists_eq_add_of_le hge
        rw [Nat.add_sub_cancel_left] at h
        rw [g.slots_eq]
        exact .later h
    · intro h
      cases h with
      | first hlt =>
        rw [← g.slots_eq] at hlt
        rw [List.getElem?_append_left (by simpa using hlt), List.getElem?_replicate, if_pos hlt]
      | later h =>
        rw [← g.slots_eq, List.getElem?_append_right (by simp), List.length_replicate,
          Nat.add_sub_cancel_left, ih]
        exact h

/-- The descriptors of a declaration are those of the slots whose shape reduces. -/
theorem mem_descriptors_iff {d : FuncDecl} {imports : ImportTable} {x : Descriptor} :
    x ∈ d.descriptors imports ↔ ∃ s shape r, SlotIn d.params s shape ∧ shape.reduce? = some r ∧
      x = r.toDescriptor s imports := by
  simp only [descriptors, List.mem_filterMap, Prod.exists, List.mem_zipIdx_iff_getElem?,
    Option.map_eq_some_iff, slotShapes_getElem?_iff]
  constructor
  · rintro ⟨shape, s, hs, r, hr, rfl⟩
    exact ⟨s, shape, r, hs, hr, rfl⟩
  · rintro ⟨s, shape, r, hs, hr, rfl⟩
    exact ⟨shape, s, hs, r, hr, rfl⟩

/-- The number of slots whose shape is supported. -/
def supportedSlots (d : FuncDecl) : Nat :=
  d.params.foldr (fun g n => if g.shape.isSupported then max 1 g.names.length + n else n) 0

/-- Counting slot by slot and group by group gives the same number. -/
theorem countP_slotShapes (d : FuncDecl) :
    d.slotShapes.countP Shape.isSupported = d.supportedSlots := by
  rw [slotShapes, supportedSlots]
  induction d.params with
  | nil => rfl
  | cons g gs ih =>
    rw [List.flatMap_cons, List.countP_append, ih, List.countP_replicate, List.foldr_cons]
    split
    · rw [g.slots_eq]
    · rw [Nat.zero_add]

/-- There is one descriptor for each supported slot. -/
theorem length_descriptors (d : FuncDecl) (imports : ImportTable) :
    (d.descriptors imports).length = d.supportedSlots := by
  rw [← countP_slotShapes, descriptors, List.length_filterMap_eq_countP]
  calc d.slotShapes.zipIdx.countP _
      = d.slotShapes.zipIdx.countP (Shape.isSupported ∘ Prod.fst) := by
        refine List.countP_congr fun x _ => ?_
        simp [Shape.isSupported]
    _ = (d.slotShapes.zipIdx.map Prod.fst).countP Shape.isSupported := List.countP_map.symm
    _ = d.slotShapes.countP Shape.isSupported := by rw [List.zipIdx_map_fst]

end FuncDecl
end Go

/-- The slot that an index designates, as a number: below `2 ^ 63` descriptors no word overflows. -/
theorem toInt_targetSlot (i : Int64) {count : Nat} (hcount : count < 2 ^ 63) :
    (targetSlot i count).toInt = if 0 ≤ i then i.toInt else count + i.toInt := by
  rw [targetSlot]
  split
  · rfl
  · rename_i hneg
    have hlow := i.le_toInt
    rw [Int64.le_iff_toInt_le, Int64.toInt_zero] at hneg
    rw [Int64.toInt_add, Int64.toInt_ofNat_of_lt hcount]
    exact Int.bmod_eq_of_le (by omega) (by omega)

namespace Policy

/-- The policy accepts a base type: the name and the two flags agree, and if the policy names a
package, the type is qualified by an alias of that package, by the alias it names if it names one. -/
structure Accepts (p : Policy) (imports : ImportTable) (r : Reduced) : Prop where
  typeName : r.typeName = p.typeName
  isPointer : r.isPointer = p.isPtr
  isArray : r.isArray = p.isArray
  pkg : ∀ path, p.pkg = some path → ∃ q, r.qualifier = some q ∧ imports.resolve? q = some path ∧
    ∀ name, p.pkgName = some name → q = name

/-- The index of the policy, if it has one, designates slot `s`: from the front, or from the end of
`n` slots when it is negative. -/
def Designates (p : Policy) (n s : Nat) : Prop :=
  match p.index with
  | none => True
  | some i => if 0 ≤ i then (s : Int) = i.toInt else (s : Int) = n + i.toInt

/-- The check on the package, in terms of the base type and the imports of the file. -/
theorem namespaceMatches_iff (p : Policy) (r : Reduced) (s : Nat) (imports : ImportTable) :
    p.namespaceMatches (r.toDescriptor s imports) = true ↔
      ∀ path, p.pkg = some path → ∃ q, r.qualifier = some q ∧ imports.resolve? q = some path ∧
        ∀ name, p.pkgName = some name → q = name := by
  rw [namespaceMatches]
  cases hpkg : p.pkg with
  | none => simp
  | some path =>
    cases hq : r.qualifier with
    | none => simp [Reduced.toDescriptor, hq]
    | some q =>
      cases hname : p.pkgName with
      | none => simp [Reduced.toDescriptor, hq]
      | some name => simp [Reduced.toDescriptor, hq]

/-- A descriptor agrees with a policy on everything but the slot exactly if the policy accepts its
base type. -/
theorem matchesType_iff (p : Policy) (r : Reduced) (s : Nat) (imports : ImportTable) :
    p.matchesType (r.toDescriptor s imports) = true ↔ p.Accepts imports r := by
  simp only [matchesType, Bool.and_eq_true, beq_iff_eq, namespaceMatches_iff]
  constructor
  · rintro ⟨⟨⟨hname, hptr⟩, harray⟩, hpkg⟩
    exact ⟨hname, hptr, harray, hpkg⟩
  · rintro ⟨hname, hptr, harray, hpkg⟩
    exact ⟨⟨⟨hname, hptr⟩, harray⟩, hpkg⟩

/-- The check on the index, in words, is the one in numbers. -/
theorem indexMatches_iff (p : Policy) {n : Nat} (hn : n < 2 ^ 63) (s : Nat) :
    indexMatches p.index s n = true ↔ p.Designates n s := by
  unfold indexMatches Designates
  cases p.index with
  | none => simp
  | some i =>
    -- a slot is never negative, so the test of the sign adds nothing
    simp only [Bool.and_eq_true, decide_eq_true_eq, beq_iff_eq, Int64.le_iff_toInt_le,
      Int64.toInt_zero, toInt_targetSlot i hn]
    split <;> omega

/-- A policy is met by a declaration exactly if a slot of its parameter list reduces to a base type
that the policy accepts and that its index designates, negative indices being counted back from the
number of supported slots. A list in memory has fewer than `2 ^ 63` members. -/
theorem isMet_context_iff (p : Policy) (d : FuncDecl) (fileName : String) (imports : ImportTable)
    (hn : d.supportedSlots < 2 ^ 63) :
    p.isMet (d.context fileName imports) = true ↔
      ∃ s shape r, Go.SlotIn d.params s shape ∧ shape.reduce? = some r ∧ p.Accepts imports r ∧
        p.Designates d.supportedSlots s := by
  have hlen : (d.context fileName imports).descriptors.length = d.supportedSlots :=
    d.length_descriptors imports
  rw [isMet, List.any_eq_true, hlen]
  constructor
  · rintro ⟨x, hx, hm⟩
    obtain ⟨s, shape, r, hs, hr, rfl⟩ := FuncDecl.mem_descriptors_iff.1 hx
    rw [Bool.and_eq_true, matchesType_iff] at hm
    exact ⟨s, shape, r, hs, hr, hm.2, (p.indexMatches_iff hn s).1 hm.1⟩
  · rintro ⟨s, shape, r, hs, hr, hacc, hdes⟩
    refine ⟨r.toDescriptor s imports, FuncDecl.mem_descriptors_iff.2 ⟨s, shape, r, hs, hr, rfl⟩, ?_⟩
    rw [Bool.and_eq_true, matchesType_iff]
    exact ⟨(p.indexMatches_iff hn s).2 hdes, hacc⟩

/-- In `F(a, b int, tx *sql.Tx, rest ...string)` the last slot is not supported, so that the index
`-1` designates the third of three. -/
theorem isMet_context_iff_last :
    let d : FuncDecl := { name := "F", params := [{ names := ["a", "b"], shape := .ident "int" },
      { names := ["tx"], shape := .pointer (.qualified "sql" "Tx") },
      { names := ["rest"], shape := .unsupported .variadic }] }
    let imports : ImportTable := { entries := [("sql", "database/sql")] }
    let p : Policy :=
      { typeName := "Tx", pkg := some "database/sql", isPtr := true, index := some (-1) }
    d.supportedSlots < 2 ^ 63 ∧ p.isMet (d.context "a.go" imports) = true := by
  intro d imports p
  have hn : d.supportedSlots < 2 ^ 63 := by decide
  refine ⟨hn, (isMet_context_iff p d "a.go" imports hn).2 ?_⟩
  refine ⟨2, .pointer (.qualified "sql" "Tx"), _, ?_, rfl, ⟨rfl, rfl, rfl, ?_⟩, ?_⟩
  · exact (d.slotShapes_getElem?_iff 2 _).1 rfl
  · rintro path ⟨⟩
    exact ⟨"sql", rfl, by decide, by simp [p]⟩
  · exact (p.indexMatches_iff hn 2).1 (by decide)

end Policy

end RequiredArgs
