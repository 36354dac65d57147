/-
# Shapes that reduce

A shape reduces exactly if it is one of the six forms of a type name: the name itself, with a pointer,
as the element of an array, as a pointer in an array, and either array behind one more pointer
(`Shape.forms`). What is left of it is the name with two flags: whether the shape has an array
anywhere, and whether the name stands directly under a pointer. Both are read off the parts of the
shape (`Shape.parts`).

Turned round, a reduced type has one shape that is written with its marks and nothing more
(`Reduced.shape`), and reduction is undone by it up to the pointer in front of an array
(`Shape.reduce?_eq_some_iff`). So two shapes that reduce alike are equal, or differ by that pointer.
-/

import RequiredArgs.Go.Shape

namespace RequiredArgs
namespace Go

namespace Shape

/-- A type name, with or without a qualifier. -/
def ofName (qualifier : Option String) (name : String) : Shape :=
  match qualifier with
  | none => ident name
  | some q => qualified q name

/-- The shape is a type name, qualified or not. -/
def isName : Shape → Bool
  | ident _ => true
  | qualified _ _ => true
  | _ => false

/-- The six shapes that reduce to the type name `x`. -/
def forms (x : Shape) : List Shape :=
  [x, pointer x, array x, array (pointer x), pointer (array x), pointer (array (pointer x))]

/-- The shape and the shapes that it is made of, from the outside in. -/
def parts : Shape → List Shape
  | pointer inner => pointer inner :: inner.parts
  | array element => array element :: element.parts
  | s => [s]

/-- The type names are those with a qualifier and those without. -/
theorem isName_iff {x : Shape} : x.isName = true ↔ ∃ q n, x = ofName q n := by
  constructor
  · intro h
    cases x with
    | ident n => exact ⟨none, n, rfl⟩
    | qualified q n => exact ⟨some q, n, rfl⟩
    | pointer inner => cases h
    | array element => cases h
    | unsupported kind => cases h
  · rintro ⟨q, n, rfl⟩
    cases q <;> rfl

/-- A type name is made of nothing else. -/
@[simp] theorem parts_ofName (q : Option String) (n : String) : (ofName q n).parts = [ofName q n] := by
  cases q <;> rfl

/-- A type name is its own base type. -/
theorem base?_ofName (q : Option String) (n : String) :
    (ofName q n).base? = some { typeName := n, qualifier := q } := by
  cases q <;> rfl

/-- As an element of an array, a type name is its base type. -/
theorem element?_ofName (q : Option String) (n : String) :
    (ofName q n).element? = (ofName q n).base? := by
  cases q <;> rfl

/-- Alone, a type name is its base type. -/
theorem reduce?_ofName (q : Option String) (n : String) :
    (ofName q n).reduce? = (ofName q n).base? := by
  cases q <;> rfl

/-- A pointer to a type name reduces alike alone and as an element of an array. -/
theorem reduce?_pointer_ofName (q : Option String) (n : String) :
    (pointer (ofName q n)).reduce? = (pointer (ofName q n)).element? := by
  cases q <;> rfl

end Shape

namespace Reduced

/-- The type name of a reduced type. -/
def base (r : Reduced) : Shape := .ofName r.qualifier r.typeName

/-- The type name with its pointer. -/
def element (r : Reduced) : Shape := if r.isPointer then .pointer r.base else r.base

/-- The shape with the marks of a reduced type and nothing more. -/
def shape (r : Reduced) : Shape := if r.isArray then .array r.element else r.element

end Reduced

namespace Shape

/-- Only one shape has a given base type: the name itself, without flags. -/
theorem base?_eq_some_iff {s : Shape} {r : Reduced} :
    s.base? = some r ↔ s = r.base ∧ r.isPointer = false ∧ r.isArray = false := by
  constructor
  · intro h
    cases s with
    | ident n =>
      obtain rfl := Option.some.inj h
      exact ⟨rfl, rfl, rfl⟩
    | qualified q n =>
      obtain rfl := Option.some.inj h
      exact ⟨rfl, rfl, rfl⟩
    | pointer inner => cases h
    | array element => cases h
    | unsupported kind => cases h
  · obtain ⟨n, q, ptr, arr⟩ := r
    rintro ⟨rfl, rfl, rfl⟩
    exact base?_ofName q n

/-- A pointer in front of a type name sets the pointer flag. -/
theorem element?_pointer_eq_some_iff {s : Shape} {r : Reduced} :
    (pointer s).element? = some r ↔ s = r.base ∧ r.isPointer = true ∧ r.isArray = false := by
  rw [element?, Option.map_eq_some_iff]
  constructor
  · rintro ⟨b, hb, rfl⟩
    obtain ⟨hs, -, harray⟩ := base?_eq_some_iff.1 hb
    exact ⟨hs, rfl, harray⟩
  · rintro ⟨hs, hpointer, harray⟩
    refine ⟨{ r with isPointer := false }, base?_eq_some_iff.2 ⟨hs, rfl, harray⟩, ?_⟩
    rw [← hpointer]

/-- Only one shape is a given element: the name, behind a star if the flag says so. -/
theorem element?_eq_some_iff {s : Shape} {r : Reduced} :
    s.element? = some r ↔ s = r.element ∧ r.isArray = false := by
  constructor
  · intro h
    cases s with
    | pointer inner =>
      obtain ⟨rfl, hpointer, harray⟩ := element?_pointer_eq_some_iff.1 h
      exact ⟨by rw [Reduced.element, hpointer, if_pos rfl], harray⟩
    | ident _ | qualified _ _ | array _ | unsupported _ =>
      rw [element?] at h
      · obtain ⟨hs, hpointer, harray⟩ := base?_eq_some_iff.1 h
        exact ⟨by rw [Reduced.element, hpointer, if_neg Bool.false_ne_true, hs], harray⟩
      · exact nofun
  · rintro ⟨rfl, harray⟩
    cases hpointer : r.isPointer with
    | true =>
      rw [Reduced.element, hpointer, if_pos rfl]
      exact element?_pointer_eq_some_iff.2 ⟨rfl, hpointer, harray⟩
    | false =>
      rw [Reduced.element, hpointer, if_neg Bool.false_ne_true, Reduced.base, element?_ofName]
      exact base?_eq_some_iff.2 ⟨rfl, hpointer, harray⟩

/-- An array of a type name, or of pointers to one, sets the array flag. -/
theorem reduce?_array_eq_some_iff {s : Shape} {r : Reduced} :
    (array s).reduce? = some r ↔ s = r.element ∧ r.isArray = true := by
  rw [reduce?, Option.map_eq_some_iff]
  constructor
  · rintro ⟨b, hb, rfl⟩
    exact ⟨(element?_eq_some_iff.1 hb).1, rfl⟩
  · rintro ⟨hs, harray⟩
    refine ⟨{ r with isArray := false }, element?_eq_some_iff.2 ⟨hs, rfl⟩, ?_⟩
    rw [← harray]

/-- A pointer in front of an array leaves no trace. -/
theorem reduce?_pointer_array (s : Shape) : (pointer (array s)).reduce? = (array s).reduce? := rfl

/-- The shapes that reduce to a given type: the one with its marks, and for an array type also that
one behind a pointer. -/
theorem reduce?_eq_some_iff {s : Shape} {r : Reduced} :
    s.reduce? = some r ↔ s = r.shape ∨ r.isArray = true ∧ s = pointer r.shape := by
  constructor
  · intro h
    unfold reduce? at h
    split at h
    · rename_i element
      obtain ⟨rfl, harray⟩ := reduce?_array_eq_some_iff.1 h
      exact .inl (by rw [Reduced.shape, harray, if_pos rfl])
    · rename_i element
      obtain ⟨rfl, harray⟩ := reduce?_array_eq_some_iff.1 h
      exact .inr ⟨harray, by rw [Reduced.shape, harray, if_pos rfl]⟩
    · rename_i inner _
      obtain ⟨hs, harray⟩ := (element?_eq_some_iff (s := pointer inner)).1 h
      exact .inl (by rw [Reduced.shape, harray, if_neg Bool.false_ne_true, hs])
    · obtain ⟨hs, hpointer, harray⟩ := base?_eq_some_iff.1 h
      exact .inl (by
        rw [Reduced.shape, harray, if_neg Bool.false_ne_true, Reduced.element, hpointer,
          if_neg Bool.false_ne_true, hs])
  · intro h
    cases harray : r.isArray with
    | true =>
      have hshape : r.shape = array r.element := by rw [Reduced.shape, harray, if_pos rfl]
      have hreduce := reduce?_array_eq_some_iff.2 ⟨rfl, harray⟩
      rcases h with rfl | ⟨-, rfl⟩
      · rw [hshape, hreduce]
      · rw [hshape, reduce?_pointer_array, hreduce]
    | false =>
      have hshape : r.shape = r.element := by
        rw [Reduced.shape, harray, if_neg Bool.false_ne_true]
      obtain rfl | ⟨htrue, -⟩ := h
      · rw [hshape, ← element?_eq_some_iff.2 ⟨rfl, harray⟩, Reduced.element]
        split
        · exact reduce?_pointer_ofName _ _
        · exact (reduce?_ofName _ _).trans (element?_ofName _ _).symm
      · cases harray.symm.trans htrue

/-- The forms of a type name are the shapes that reduce to it. -/
theorem mem_forms_iff {s x : Shape} (hx : x.isName = true) :
    s ∈ x.forms ↔ ∃ r, s.reduce? = some r ∧ r.base = x := by
  obtain ⟨q, n, rfl⟩ := isName_iff.1 hx
  constructor
  · intro hs
    have hmarks : ∃ r : Reduced, r.base = ofName q n ∧
        (s = r.shape ∨ r.isArray = true ∧ s = pointer r.shape) := by
      simp only [forms, List.mem_cons, List.not_mem_nil, or_false] at hs
      rcases hs with rfl | rfl | rfl | rfl | rfl | rfl
      · exact ⟨⟨n, q, false, false⟩, rfl, .inl rfl⟩
      · exact ⟨⟨n, q, true, false⟩, rfl, .inl rfl⟩
      · exact ⟨⟨n, q, false, true⟩, rfl, .inl rfl⟩
      · exact ⟨⟨n, q, true, true⟩, rfl, .inl rfl⟩
      · exact ⟨⟨n, q, false, true⟩, rfl, .inr ⟨rfl, rfl⟩⟩
      · exact ⟨⟨n, q, true, true⟩, rfl, .inr ⟨rfl, rfl⟩⟩
    obtain ⟨r, hbase, hr⟩ := hmarks
    exact ⟨r, reduce?_eq_some_iff.2 hr, hbase⟩
  · rintro ⟨⟨n', q', ptr, arr⟩, hr, hbase⟩
    rw [← hbase]
    rcases reduce?_eq_some_iff.1 hr with rfl | ⟨rfl, rfl⟩
    · cases ptr <;> cases arr <;> simp [forms, Reduced.shape, Reduced.element]
    · cases ptr <;> simp [forms, Reduced.shape, Reduced.element]

/-- The flags of a shape that reduces: it has an array somewhere, its type name is pointed to. -/
theorem flags_of_reduce? {s : Shape} {r : Reduced} (h : s.reduce? = some r) :
    (r.isArray = true ↔ ∃ e, array e ∈ s.parts) ∧ (r.isPointer = true ↔ pointer r.base ∈ s.parts) := by
  have hbase : (∀ e, array e ≠ r.base) ∧ (∀ e, r.base ≠ array e) ∧ ∀ e, pointer e ≠ r.base := by
    rw [Reduced.base]
    cases r.qualifier <;> exact ⟨nofun, nofun, nofun⟩
  have hparts : r.base.parts = [r.base] := parts_ofName _ _
  rcases reduce?_eq_some_iff.1 h with rfl | ⟨harray, rfl⟩
  · cases harray : r.isArray <;> cases hpointer : r.isPointer <;>
      simp [Reduced.shape, Reduced.element, parts, *]
  · cases hpointer : r.isPointer <;> simp [Reduced.shape, Reduced.element, parts, *]

/-- Reduction accepts exactly the six forms of a type name and loses one pointer only. A shape reduces
if and only if it is a form of a type name; the result has that name and its qualifier, the array flag
is set if the shape has an array anywhere, and the pointer flag if the name stands directly under a
pointer. Two shapes with the same result are equal, or the result is an array and one shape is a pointer
to the other; and a pointer to an array does have the result of the array. -/
theorem reduce?_exact (s : Shape) :
    (s.reduce?.isSome = true ↔ ∃ x : Shape, x.isName = true ∧ s ∈ x.forms) ∧
    (∀ r x, s.reduce? = some r → x.isName = true → s ∈ x.forms →
      x = ofName r.qualifier r.typeName ∧
      (r.isArray = true ↔ ∃ e, array e ∈ s.parts) ∧
      (r.isPointer = true ↔ pointer x ∈ s.parts)) ∧
    (∀ s' r, s.reduce? = some r → s'.reduce? = some r →
      s = s' ∨ r.isArray = true ∧ (s = pointer s' ∨ s' = pointer s)) ∧
    (pointer (array s)).reduce? = (array s).reduce? := by
  refine ⟨?_, ?_, ?_, reduce?_pointer_array s⟩
  · rw [Option.isSome_iff_exists]
    constructor
    · rintro ⟨r, hr⟩
      have hx : r.base.isName = true := isName_iff.2 ⟨_, _, rfl⟩
      exact ⟨r.base, hx, (mem_forms_iff hx).2 ⟨r, hr, rfl⟩⟩
    · rintro ⟨x, hx, hs⟩
      obtain ⟨r, hr, -⟩ := (mem_forms_iff hx).1 hs
      exact ⟨r, hr⟩
  · intro r x hr hx hs
    obtain ⟨r', hr', rfl⟩ := (mem_forms_iff hx).1 hs
    obtain rfl := Option.some.inj (hr.symm.trans hr')
    exact ⟨rfl, flags_of_reduce? hr⟩
  · intro s' r hr hr'
    rcases reduce?_eq_some_iff.1 hr with rfl | ⟨harray, rfl⟩ <;>
      rcases reduce?_eq_some_iff.1 hr' with rfl | ⟨harray', rfl⟩
    · exact .inl rfl
    · exact .inr ⟨harray', .inr rfl⟩
    · exact .inr ⟨harray, .inl rfl⟩
    · exact .inl rfl

/-- `*[]*sql.Tx` is a form of `sql.Tx` with both flags; it has the same result as `[]*sql.Tx` and is a
pointer to that. -/
theorem reduce?_exact_pointers :
    let x : Shape := .qualified "sql" "Tx"
    let r : Reduced := { typeName := "Tx", qualifier := some "sql", isPointer := true, isArray := true }
    let s : Shape := .array (.pointer x)
    (pointer s).reduce? = some r ∧ x.isName = true ∧ pointer s ∈ x.forms ∧
      (r.isArray = true ↔ ∃ e, array e ∈ (pointer s).parts) ∧
      (r.isPointer = true ↔ pointer x ∈ (pointer s).parts) ∧
      s.reduce? = some r ∧
      (pointer s = s ∨ r.isArray = true ∧ (pointer s = pointer s ∨ s = pointer (pointer s))) := by
  intro x r s
  obtain ⟨-, flags, alike, -⟩ := reduce?_exact (pointer s)
  have hforms : pointer s ∈ x.forms := by decide
  exact ⟨rfl, rfl, hforms, (flags r x rfl rfl hforms).2.1, (flags r x rfl rfl hforms).2.2, rfl,
    alike s r rfl rfl⟩

end Shape
end Go
end RequiredArgs
