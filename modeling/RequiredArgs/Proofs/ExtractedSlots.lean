/-
# What extraction keeps of a parameter list

Extraction gives one descriptor for each slot whose shape is supported, in slot order, and none for the
other slots, which still count (`FuncDecl.descriptors_exact`). A descriptor of a slot carries the
number of the slot and what its shape reduces to; the qualifier is that of the type name under the
pointers and arrays (`Shape.qualifier?`), and the import path is the table's, if the table has the
qualifier (`Describes`).

How the slots are grouped and what they are called is not kept. `Regrouping` lists the edits of a
parameter list that change nothing else: other names for the parameters of a group, a group in two
parts, one parameter without its name. They connect exactly the parameter lists that have the same
slots (`regrouping_iff`), and extraction sees no difference between these.
-/

import RequiredArgs.Proofs.SlotLookup

namespace RequiredArgs
namespace Go

namespace Shape

/-- The qualifier of the type name that stands under the pointers and arrays of a shape. -/
def qualifier? : Shape → Option String
  | ident _ => none
  | qualified q _ => some q
  | pointer inner => inner.qualifier?
  | array element => element.qualifier?
  | unsupported _ => none

/-- A base type keeps the qualifier that its shape is written with. -/
theorem base?_qualifier {s : Shape} {r : Reduced} (h : s.base? = some r) :
    r.qualifier = s.qualifier? := by
  cases s with
  | ident name =>
    obtain rfl := Option.some.inj h
    rfl
  | qualified q name =>
    obtain rfl := Option.some.inj h
    rfl
  | pointer inner => cases h
  | array element => cases h
  | unsupported kind => cases h

/-- A pointer in front does not change the qualifier. -/
theorem element?_qualifier {s : Shape} {r : Reduced} (h : s.element? = some r) :
    r.qualifier = s.qualifier? := by
  cases s with
  | pointer inner =>
    obtain ⟨b, hb, rfl⟩ := Option.map_eq_some_iff.1 h
    show b.qualifier = inner.qualifier?
    exact base?_qualifier hb
  | ident name => exact base?_qualifier h
  | qualified q name => exact base?_qualifier h
  | array element => exact base?_qualifier h
  | unsupported kind => exact base?_qualifier h

/-- A shape reduces to a type with the qualifier of the shape. -/
theorem reduce?_qualifier {s : Shape} {r : Reduced} (h : s.reduce? = some r) :
    r.qualifier = s.qualifier? := by
  unfold reduce? at h
  split at h
  · rename_i element
    obtain ⟨b, hb, rfl⟩ := Option.map_eq_some_iff.1 h
    show b.qualifier = element.qualifier?
    exact element?_qualifier hb
  · rename_i element
    obtain ⟨b, hb, rfl⟩ := Option.map_eq_some_iff.1 h
    show b.qualifier = element.qualifier?
    exact element?_qualifier hb
  · rename_i inner _
    obtain ⟨b, hb, rfl⟩ := Option.map_eq_some_iff.1 h
    show b.qualifier = inner.qualifier?
    exact base?_qualifier hb
  · exact base?_qualifier h

end Shape

namespace ImportTable

/-- The aliases of a table. -/
def keys (t : ImportTable) : List String := t.entries.map Prod.fst

/-- The aliases that resolve are the keys of the table. -/
theorem isSome_resolve?_iff (t : ImportTable) (key : String) :
    (t.resolve? key).isSome = true ↔ key ∈ t.keys := by
  rw [resolve?, Option.isSome_map, List.find?_isSome, keys, List.mem_map]
  constructor
  · rintro ⟨x, hx, hkey⟩
    exact ⟨x, hx, beq_iff_eq.1 hkey⟩
  · rintro ⟨x, hx, hkey⟩
    exact ⟨x, hx, beq_iff_eq.2 hkey⟩

end ImportTable

/-- The descriptor is that of slot `s` with the given shape in a file with the given imports. -/
structure Describes (imports : ImportTable) (s : Nat) (shape : Shape) (x : Descriptor) : Prop where
  position : x.position = s
  /-- The shape reduces to the name, the qualifier and the flags that the descriptor gives. -/
  reduced : shape.reduce? = some
    { typeName := x.typeName, qualifier := x.namespaceAlias, isPointer := x.isPointer,
      isArray := x.isArray }
  /-- There is an alias exactly if the type name is qualified. -/
  qualifier : x.namespaceAlias = shape.qualifier?
  /-- There is a path exactly if the table has the alias. -/
  known : x.namespacePath.isSome = true ↔ ∃ q, x.namespaceAlias = some q ∧ q ∈ imports.keys
  path : ∀ q, x.namespaceAlias = some q → x.namespacePath = imports.resolve? q

/-- Only supported slots are described. -/
theorem Describes.isSupported {imports : ImportTable} {s : Nat} {shape : Shape} {x : Descriptor}
    (h : Describes imports s shape x) : shape.isSupported = true := by
  rw [Shape.isSupported, h.reduced, Option.isSome_some]

/-- The descriptor of what a shape reduces to is the only one that describes the slot. -/
theorem describes_iff {imports : ImportTable} {s : Nat} {shape : Shape} {x : Descriptor} :
    Describes imports s shape x ↔ ∃ r, shape.reduce? = some r ∧ x = r.toDescriptor s imports := by
  constructor
  · intro h
    refine ⟨_, h.reduced, ?_⟩
    have hpath : x.namespacePath = x.namespaceAlias.bind imports.resolve? := by
      cases hq : x.namespaceAlias with
      | none =>
        have hnone : ¬ x.namespacePath.isSome = true := by simp [h.known, hq]
        simpa using hnone
      | some q => exact h.path q hq
    cases x
    simp only [Reduced.toDescriptor, Descriptor.mk.injEq, and_self, and_true, true_and]
    exact ⟨h.position, hpath⟩
  · rintro ⟨r, hr, rfl⟩
    refine ⟨rfl, hr, Shape.reduce?_qualifier hr, ?_, ?_⟩
    · show (r.qualifier.bind imports.resolve?).isSome = true ↔ _
      rw [Option.isSome_bind, Option.any_eq_true]
      simp only [Reduced.toDescriptor, imports.isSome_resolve?_iff]
    · intro q hq
      show r.qualifier.bind imports.resolve? = imports.resolve? q
      rw [show r.qualifier = some q from hq, Option.bind_some]

namespace FuncDecl

/-! ### Slots and their number -/

/-- The flattened list has one slot for each declared parameter. -/
theorem length_slotShapes (d : FuncDecl) : d.slotShapes.length = d.arity := by
  rw [slotShapes, arity]
  induction d.params with
  | nil => rfl
  | cons g gs ih =>
    rw [List.flatMap_cons, List.length_append, List.length_replicate, ih, List.foldr_cons]

/-- The shapes in the slots are those of the groups, since every group has at least one slot. -/
theorem mem_slotShapes_iff {d : FuncDecl} {shape : Shape} :
    shape ∈ d.slotShapes ↔ ∃ g ∈ d.params, g.shape = shape := by
  rw [slotShapes, List.mem_flatMap]
  refine exists_congr fun g => and_congr_right fun _ => ?_
  rw [List.mem_replicate, eq_comm]
  have hslots : g.slots ≠ 0 := by
    rw [ParamGroup.slots]
    omega
  exact and_iff_right hslots

/-- The slots are numbered from zero to the number of declared parameters. -/
theorem exists_slotIn_iff (d : FuncDecl) (s : Nat) :
    (∃ shape, SlotIn d.params s shape) ↔ s < d.arity := by
  rw [← length_slotShapes]
  constructor
  · rintro ⟨shape, hs⟩
    exact (List.getElem?_eq_some_iff.1 ((d.slotShapes_getElem?_iff s shape).2 hs)).1
  · intro hs
    exact ⟨_, (d.slotShapes_getElem?_iff s _).1 (List.getElem?_eq_getElem hs)⟩

/-- A slot has one shape. -/
theorem slotIn_unique {d : FuncDecl} {s : Nat} {shape shape' : Shape}
    (h : SlotIn d.params s shape) (h' : SlotIn d.params s shape') : shape = shape' := by
  rw [← slotShapes_getElem?_iff] at h h'
  exact Option.some.inj (h.symm.trans h')

/-- There are no more supported slots than declared parameters. -/
theorem supportedSlots_le_arity (d : FuncDecl) : d.supportedSlots ≤ d.arity := by
  rw [← countP_slotShapes, ← length_slotShapes]
  exact List.countP_le_length

/-- All slots are supported exactly if the shapes of all groups are. -/
theorem supportedSlots_eq_arity_iff (d : FuncDecl) :
    d.supportedSlots = d.arity ↔ ∀ g ∈ d.params, g.shape.isSupported = true := by
  rw [← countP_slotShapes, ← length_slotShapes, List.countP_eq_length]
  constructor
  · intro h g hg
    exact h g.shape (mem_slotShapes_iff.2 ⟨g, hg, rfl⟩)
  · intro h shape hshape
    obtain ⟨g, hg, rfl⟩ := mem_slotShapes_iff.1 hshape
    exact h g hg

/-! ### Descriptors and their slots -/

/-- The descriptors of a declaration are those that describe one of its slots. -/
theorem mem_descriptors_iff_describes {d : FuncDecl} {imports : ImportTable} {x : Descriptor} :
    x ∈ d.descriptors imports ↔ ∃ s shape, SlotIn d.params s shape ∧ Describes imports s shape x := by
  simp only [mem_descriptors_iff, describes_iff, exists_and_left]

/-- The descriptors stand in the order of their slots. -/
theorem descriptors_pairwise (d : FuncDecl) (imports : ImportTable) :
    (d.descriptors imports).Pairwise fun x y => x.position < y.position := by
  have hslots : d.slotShapes.zipIdx.Pairwise fun x y => x.2 < y.2 := by
    rw [← List.pairwise_map (f := Prod.snd) (R := (· < ·)), List.zipIdx_map_snd]
    exact List.pairwise_lt_range'
  rw [descriptors, List.pairwise_filterMap]
  refine hslots.imp fun {x y} hlt a ha b hb => ?_
  obtain ⟨_, -, rfl⟩ := Option.map_eq_some_iff.1 ha
  obtain ⟨_, -, rfl⟩ := Option.map_eq_some_iff.1 hb
  exact hlt

/-- Among descriptors in the order of their slots, only one has the slot of a given one. -/
theorem filter_position_eq_singleton {l : List Descriptor} {x : Descriptor}
    (h : l.Pairwise fun x y => x.position < y.position) (hx : x ∈ l) :
    l.filter (fun y => y.position == x.position) = [x] := by
  induction l with
  | nil => cases hx
  | cons y l ih =>
    obtain ⟨hy, hl⟩ := List.pairwise_cons.1 h
    rcases List.mem_cons.1 hx with rfl | hx
    · have hrest : l.filter (fun y => y.position == x.position) = [] := by
        rw [List.filter_eq_nil_iff]
        intro z hz
        have hlt := hy z hz
        rw [beq_iff_eq]
        omega
      rw [List.filter_cons, beq_self_eq_true, if_pos rfl, hrest]
    · have hlt := hy x hx
      rw [List.filter_cons_of_neg (by rw [beq_iff_eq]; omega)]
      exact ih hl hx

/-- A supported slot has one descriptor, which describes it. -/
theorem filter_position_of_supported {d : FuncDecl} {s : Nat} {shape : Shape}
    (hs : SlotIn d.params s shape) (h : shape.isSupported = true) (imports : ImportTable) :
    ∃ x, Describes imports s shape x ∧
      (d.descriptors imports).filter (fun y => y.position == s) = [x] := by
  obtain ⟨r, hr⟩ := Option.isSome_iff_exists.1 h
  have hx : Describes imports s shape (r.toDescriptor s imports) := describes_iff.2 ⟨r, hr, rfl⟩
  refine ⟨_, hx, ?_⟩
  exact filter_position_eq_singleton (d.descriptors_pairwise imports)
    (mem_descriptors_iff_describes.2 ⟨s, shape, hs, hx⟩)

/-- A slot that is not supported has no descriptor. -/
theorem filter_position_of_unsupported {d : FuncDecl} {s : Nat} {shape : Shape}
    (hs : SlotIn d.params s shape) (h : shape.isSupported = false) (imports : ImportTable) :
    (d.descriptors imports).filter (fun y => y.position == s) = [] := by
  rw [List.filter_eq_nil_iff]
  intro x hx hpos
  obtain ⟨s', shape', hs', hdesc⟩ := mem_descriptors_iff_describes.1 hx
  obtain rfl : s' = s := hdesc.position.symm.trans (beq_iff_eq.1 hpos)
  obtain rfl : shape = shape' := slotIn_unique hs hs'
  rw [hdesc.isSupported] at h
  cases h

end FuncDecl

/-! ### Grouping and names -/

/-- The shapes of the slots of parameter groups. -/
def slotsOf (gs : List ParamGroup) : List Shape := gs.flatMap fun g => List.replicate g.slots g.shape

/-- The slots of the first group stand in front of those of the others. -/
theorem slotsOf_cons (g : ParamGroup) (gs : List ParamGroup) :
    slotsOf (g :: gs) = List.replicate g.slots g.shape ++ slotsOf gs := List.flatMap_cons

/-- Parameter lists that differ in the names of parameters and in how parameters of one type are put
together: `a, b T` may be written with other names, as `a T, b T`, and `a T` as `T`. -/
inductive Regrouping : List ParamGroup → List ParamGroup → Prop
  | refl (gs : List ParamGroup) : Regrouping gs gs
  | symm {gs hs : List ParamGroup} : Regrouping gs hs → Regrouping hs gs
  | trans {gs hs ks : List ParamGroup} : Regrouping gs hs → Regrouping hs ks → Regrouping gs ks
  | cons (g : ParamGroup) {gs hs : List ParamGroup} :
      Regrouping gs hs → Regrouping (g :: gs) (g :: hs)
  | rename {names names' : List String} (h : names.length = names'.length) (shape : Shape)
      (gs : List ParamGroup) : Regrouping (⟨names, shape⟩ :: gs) (⟨names', shape⟩ :: gs)
  | split {names names' : List String} (h : names ≠ []) (h' : names' ≠ []) (shape : Shape)
      (gs : List ParamGroup) :
      Regrouping (⟨names ++ names', shape⟩ :: gs) (⟨names, shape⟩ :: ⟨names', shape⟩ :: gs)
  | unname (name : String) (shape : Shape) (gs : List ParamGroup) :
      Regrouping (⟨[name], shape⟩ :: gs) (⟨[], shape⟩ :: gs)

/-- Regrouping keeps the slots. -/
theorem Regrouping.slotsOf_eq {gs hs : List ParamGroup} (h : Regrouping gs hs) :
    slotsOf gs = slotsOf hs := by
  induction h with
  | refl gs => rfl
  | symm _ ih => exact ih.symm
  | trans _ _ ih ih' => exact ih.trans ih'
  | cons g _ ih => rw [slotsOf_cons, slotsOf_cons, ih]
  | rename h shape gs => simp only [slotsOf_cons, ParamGroup.slots, h]
  | @split names names' h h' shape gs =>
    have hlen := List.length_pos_iff.2 h
    have hlen' := List.length_pos_iff.2 h'
    have hslots : max (names ++ names').length 1 = max names.length 1 + max names'.length 1 := by
      rw [List.length_append]
      omega
    simp only [slotsOf_cons, ParamGroup.slots, hslots, ← List.replicate_append_replicate,
      List.append_assoc]
  | unname name shape gs => rfl

/-- A group can be taken apart into unnamed parameters. -/
theorem regrouping_unnamed_group (names : List String) (shape : Shape) (gs : List ParamGroup) :
    Regrouping (⟨names, shape⟩ :: gs) (List.replicate (max names.length 1) ⟨[], shape⟩ ++ gs) := by
  induction names with
  | nil => exact .refl _
  | cons name names ih =>
    cases names with
    | nil => exact .unname name shape gs
    | cons name' names =>
      have hsplit : Regrouping (⟨name :: name' :: names, shape⟩ :: gs)
          (⟨[name], shape⟩ :: ⟨name' :: names, shape⟩ :: gs) :=
        .split (List.cons_ne_nil name []) (List.cons_ne_nil name' names) shape gs
      have hlen : max (name :: name' :: names).length 1 = max (name' :: names).length 1 + 1 := by
        simp only [List.length_cons]
        omega
      rw [hlen, List.replicate_succ, List.cons_append]
      exact hsplit.trans ((Regrouping.unname name shape _).trans (.cons _ ih))

/-- Every parameter list can be taken apart into its slots. -/
theorem regrouping_unnamed (gs : List ParamGroup) :
    Regrouping gs ((slotsOf gs).map fun shape => ⟨[], shape⟩) := by
  induction gs with
  | nil => exact .refl _
  | cons g gs ih =>
    rw [slotsOf_cons, List.map_append, List.map_replicate]
    exact (Regrouping.cons g ih).trans (regrouping_unnamed_group g.names g.shape _)

/-- The edits connect exactly the parameter lists with the same slots. -/
theorem regrouping_iff (d d' : FuncDecl) : Regrouping d.params d'.params ↔
    ∀ s shape, SlotIn d.params s shape ↔ SlotIn d'.params s shape := by
  constructor
  · intro h s shape
    rw [← d.slotShapes_getElem?_iff, ← d'.slotShapes_getElem?_iff]
    show (slotsOf d.params)[s]? = _ ↔ (slotsOf d'.params)[s]? = _
    rw [h.slotsOf_eq]
  · intro h
    have hslots : slotsOf d.params = slotsOf d'.params := by
      refine List.ext_getElem? fun s => Option.ext fun shape => ?_
      exact ((d.slotShapes_getElem?_iff s shape).trans (h s shape)).trans
        (d'.slotShapes_getElem?_iff s shape).symm
    refine (regrouping_unnamed d.params).trans ?_
    rw [hslots]
    exact (regrouping_unnamed d'.params).symm

namespace FuncDecl

/-- Descriptors are made from the slots, so regrouping does not change them. -/
theorem descriptors_of_regrouping {d d' : FuncDecl} (h : Regrouping d.params d'.params)
    (imports : ImportTable) : d'.descriptors imports = d.descriptors imports := by
  have hslots : d'.slotShapes = d.slotShapes := h.slotsOf_eq.symm
  rw [descriptors, descriptors, hslots]

/-- Extraction is exactly the supported slots. The descriptors stand in the order of their slots, which
are slots of the declaration; a supported slot has one descriptor and any other slot has none. There
are at most as many descriptors as declared parameters, and as many exactly if every group is
supported. Declarations with the same slots, in particular those that differ by a regrouping of their
parameters, have the same descriptors. -/
theorem descriptors_exact (d : FuncDecl) (imports : ImportTable) :
    ((d.descriptors imports).Pairwise fun x y => x.position < y.position) ∧
    (∀ s, (∃ shape, SlotIn d.params s shape) ↔ s < d.arity) ∧
    (∀ x ∈ d.descriptors imports, x.position < d.arity) ∧
    (∀ s shape, SlotIn d.params s shape →
      (shape.isSupported = true → ∃ x, Describes imports s shape x ∧
        (d.descriptors imports).filter (fun y => y.position == s) = [x]) ∧
      (shape.isSupported = false →
        (d.descriptors imports).filter (fun y => y.position == s) = [])) ∧
    (d.descriptors imports).length ≤ d.arity ∧
    ((d.descriptors imports).length = d.arity ↔ ∀ g ∈ d.params, g.shape.isSupported = true) ∧
    ∀ d' : FuncDecl,
      (Regrouping d.params d'.params ↔
        ∀ s shape, SlotIn d.params s shape ↔ SlotIn d'.params s shape) ∧
      (Regrouping d.params d'.params → d'.descriptors imports = d.descriptors imports) := by
  rw [length_descriptors]
  refine ⟨d.descriptors_pairwise imports, d.exists_slotIn_iff, ?_, ?_, d.supportedSlots_le_arity,
    d.supportedSlots_eq_arity_iff, ?_⟩
  · intro x hx
    obtain ⟨s, shape, hs, hdesc⟩ := mem_descriptors_iff_describes.1 hx
    rw [hdesc.position]
    exact (d.exists_slotIn_iff s).1 ⟨shape, hs⟩
  · intro s shape hs
    constructor
    · intro h
      exact filter_position_of_supported hs h imports
    · intro h
      exact filter_position_of_unsupported hs h imports
  · intro d'
    constructor
    · exact regrouping_iff d d'
    · intro h
      exact descriptors_of_regrouping h imports

/-- In `F(m map[string]int, a, b int, tx *sql.Tx)` slot 0 has no descriptor and slot 3 has one, and
`F(map[string]int, x int, int, t *sql.Tx)` has the same descriptors. -/
theorem descriptors_exact_mixed :
    let tx : Shape := .pointer (.qualified "sql" "Tx")
    let d : FuncDecl := { name := "F", params := [{ names := ["m"], shape := .unsupported .map },
      { names := ["a", "b"], shape := .ident "int" }, { names := ["tx"], shape := tx }] }
    let d' : FuncDecl := { name := "F", params := [{ shape := .unsupported .map },
      { names := ["x"], shape := .ident "int" }, { shape := .ident "int" },
      { names := ["t"], shape := tx }] }
    let imports : ImportTable := { entries := [("sql", "database/sql")] }
    SlotIn d.params 0 (.unsupported .map) ∧
    (d.descriptors imports).filter (fun y => y.position == 0) = [] ∧
    SlotIn d.params 3 tx ∧
    (∃ x, Describes imports 3 tx x ∧
      (d.descriptors imports).filter (fun y => y.position == 3) = [x]) ∧
    Regrouping d.params d'.params ∧ d'.descriptors imports = d.descriptors imports := by
  intro tx d d' imports
  obtain ⟨-, -, -, slots, -, -, regrouped⟩ := descriptors_exact d imports
  have hmap : SlotIn d.params 0 (.unsupported .map) := (d.slotShapes_getElem?_iff 0 _).1 rfl
  have htx : SlotIn d.params 3 tx := (d.slotShapes_getElem?_iff 3 _).1 rfl
  have hsame : Regrouping d.params d'.params := by
    refine (Regrouping.unname "m" _ _).trans (.cons _ ?_)
    refine (Regrouping.split (List.cons_ne_nil "a" []) (List.cons_ne_nil "b" []) _ _).trans ?_
    refine (@Regrouping.rename ["a"] ["x"] rfl _ _).trans (.cons _ ?_)
    refine (Regrouping.unname "b" _ _).trans (.cons _ ?_)
    exact @Regrouping.rename ["tx"] ["t"] rfl _ _
  exact ⟨hmap, (slots 0 _ hmap).2 rfl, htx, (slots 3 _ htx).1 rfl, hsame, (regrouped d').2 hsame⟩

end FuncDecl
end Go
end RequiredArgs
