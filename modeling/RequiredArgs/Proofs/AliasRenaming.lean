/-
# Aliases that no policy names

A policy that asks for a package and gives no alias compares import paths only. What such policies see
of a declaration is its context without the aliases (`Context.withoutAliases`), and so do the rules that
are made of them, messages included (`checkFunction_withoutAliases`).

An injective renaming of aliases, carried out in the qualifiers of a declaration and in the table of
imports alike, changes nothing else: an alias resolves to the path that it had before, or to none if it
had none (`ImportTable.resolve?_renameAliases`). The rules then find the same in both
(`checkFunction_renameAliases`).
-/

import Mathlib.Data.List.Basic
import Mathlib.Logic.Equiv.Basic
import RequiredArgs.Check

namespace RequiredArgs

open Go (FuncDecl ImportTable ParamGroup Reduced Shape)

/-! ### Contexts without aliases -/

/-- The descriptor without the qualifier as written. -/
def Descriptor.withoutAlias (x : Descriptor) : Descriptor := { x with namespaceAlias := none }

/-- The context without the qualifiers as written. -/
def Context.withoutAliases (c : Context) : Context :=
  { c with descriptors := c.descriptors.map Descriptor.withoutAlias }

namespace Policy

/-- A policy that names no alias does not see the alias of a descriptor. -/
theorem matchesType_withoutAlias {p : Policy} (hp : p.pkgName = none) (x : Descriptor) :
    p.matchesType x.withoutAlias = p.matchesType x := by
  have hns : p.namespaceMatches x.withoutAlias = p.namespaceMatches x := by
    simp only [namespaceMatches, hp]
    rfl
  rw [matchesType, hns]
  rfl

/-- A policy that names no alias does not see the aliases. -/
theorem isMet_withoutAliases {p : Policy} (hp : p.pkgName = none) (c : Context) :
    p.isMet c.withoutAliases = p.isMet c := by
  rw [isMet, Context.withoutAliases, List.any_map, List.length_map, isMet]
  congr 1
  funext x
  rw [Function.comp_apply, matchesType_withoutAlias hp]
  rfl

end Policy

/-- So a rule whose policies name no alias leaves the same policies unmet without aliases. -/
theorem Rule.unmet_withoutAliases {r : Rule} (hr : ∀ p ∈ r.args, p.pkgName = none) (c : Context) :
    r.unmet c.withoutAliases = r.unmet c := by
  refine List.filter_congr fun p hp => ?_
  rw [Policy.isMet_withoutAliases (hr p hp)]

/-- Such a rule finds the same: its scope and its label do not see the descriptors at all. -/
theorem Rule.check_withoutAliases {r : Rule} (hr : ∀ p ∈ r.args, p.pkgName = none) (index : Nat)
    (c : Context) (site : Site) : r.check index c.withoutAliases site = r.check index c site := by
  rw [Rule.check, Rule.unmet_withoutAliases hr]
  rfl

/-- Rules whose policies name no alias find the same without the aliases. -/
theorem checkFunction_withoutAliases {rules : List Rule}
    (h : ∀ r ∈ rules, ∀ p ∈ r.args, p.pkgName = none) (c : Context) (site : Site) :
    checkFunction rules c.withoutAliases site = checkFunction rules c site := by
  have hcheck : ∀ x ∈ rules.zipIdx, x.1.check x.2 c.withoutAliases site = x.1.check x.2 c site := by
    intro x hx
    have hmem : x.1 ∈ rules := List.mem_of_getElem? (List.mem_zipIdx_iff_getElem?.1 hx)
    exact Rule.check_withoutAliases (h x.1 hmem) x.2 c site
  have hfound := List.filterMap_congr hcheck
  rw [checkFunction, checkFunction]
  exact congrArg (fun found => if c.isLifecycleHook then [] else found) hfound

namespace Go

/-! ### Renaming -/

/-- Every qualifier of the shape, at any depth, replaced by its image. -/
def Shape.renameAliases (f : String → String) : Shape → Shape
  | ident name => ident name
  | qualified q name => qualified (f q) name
  | pointer inner => pointer (inner.renameAliases f)
  | array element => array (element.renameAliases f)
  | unsupported kind => unsupported kind

def Reduced.renameAliases (f : String → String) (r : Reduced) : Reduced :=
  { r with qualifier := r.qualifier.map f }

/-- The declaration with every qualifier of its parameter types replaced by its image. -/
def FuncDecl.renameAliases (f : String → String) (d : FuncDecl) : FuncDecl :=
  { d with params := d.params.map fun g => { g with shape := g.shape.renameAliases f } }

/-- The table with every alias replaced by its image. -/
def ImportTable.renameAliases (f : String → String) (t : ImportTable) : ImportTable :=
  { entries := t.entries.map fun (key, path) => (f key, path) }

variable {f : String → String}

namespace Shape

/-- A name or a qualified name reduces to its renamed base type. -/
theorem base?_renameAliases (s : Shape) :
    (s.renameAliases f).base? = s.base?.map (Reduced.renameAliases f) := by
  cases s <;> rfl

/-- A pointer to such a name, or the name itself, reduces to its renamed base type. -/
theorem element?_renameAliases (s : Shape) :
    (s.renameAliases f).element? = s.element?.map (Reduced.renameAliases f) := by
  cases s with
  | pointer inner =>
    show (inner.renameAliases f).base?.map _ = (inner.base?.map _).map _
    rw [base?_renameAliases, Option.map_map, Option.map_map]
    rfl
  | ident name => rfl
  | qualified q name => rfl
  | array element => rfl
  | unsupported kind => rfl

/-- A renamed shape reduces to the renamed type, and does so exactly if the shape reduces. -/
theorem reduce?_renameAliases (s : Shape) :
    (s.renameAliases f).reduce? = s.reduce?.map (Reduced.renameAliases f) := by
  cases s with
  | ident name => rfl
  | qualified q name => rfl
  | unsupported kind => rfl
  | array element =>
    show (element.renameAliases f).element?.map _ = (element.element?.map _).map _
    rw [element?_renameAliases, Option.map_map, Option.map_map]
    rfl
  | pointer inner =>
    cases inner with
    | array element =>
      show (element.renameAliases f).element?.map _ = (element.element?.map _).map _
      rw [element?_renameAliases, Option.map_map, Option.map_map]
      rfl
    | ident name => rfl
    | qualified q name => rfl
    | pointer inner => rfl
    | unsupported kind => rfl

end Shape

/-- A renamed alias resolves to the path of the alias. -/
theorem ImportTable.resolve?_renameAliases (hf : Function.Injective f) (t : ImportTable)
    (key : String) : (t.renameAliases f).resolve? (f key) = t.resolve? key := by
  rw [resolve?, renameAliases, List.find?_map, Option.map_map, resolve?]
  have hkey : ((fun x : String × String => x.1 == f key) ∘ fun (k, path) => (f k, path)) =
      fun x => x.1 == key := by
    funext x
    rw [Bool.eq_iff_iff]
    simp only [Function.comp_apply, beq_iff_eq]
    exact hf.eq_iff
  rw [hkey]
  rfl

namespace FuncDecl

/-- Renaming keeps the slots and renames the shape of each. -/
theorem slotShapes_renameAliases (d : FuncDecl) :
    (d.renameAliases f).slotShapes = d.slotShapes.map (Shape.renameAliases f) := by
  rw [slotShapes, renameAliases, List.flatMap_map, slotShapes, List.map_flatMap]
  congr 1
  funext g
  rw [List.map_replicate]
  rfl

/-- But for the aliases, a renamed declaration has the same context. -/
theorem context_renameAliases (hf : Function.Injective f) (d : FuncDecl) (fileName : String)
    (imports : ImportTable) :
    ((d.renameAliases f).context fileName (imports.renameAliases f)).withoutAliases =
      (d.context fileName imports).withoutAliases := by
  have hslot : ∀ (r : Reduced) (s : Nat),
      ((r.renameAliases f).toDescriptor s (imports.renameAliases f)).withoutAlias =
        (r.toDescriptor s imports).withoutAlias := by
    intro r s
    have hpath : (r.qualifier.map f).bind (imports.renameAliases f).resolve? =
        r.qualifier.bind imports.resolve? := by
      cases r.qualifier with
      | none => rfl
      | some q => exact imports.resolve?_renameAliases hf q
    simp only [Reduced.toDescriptor, Reduced.renameAliases, Descriptor.withoutAlias, hpath]
  have hdesc : ((d.renameAliases f).descriptors (imports.renameAliases f)).map
      Descriptor.withoutAlias = (d.descriptors imports).map Descriptor.withoutAlias := by
    rw [descriptors, slotShapes_renameAliases, List.zipIdx_map, List.filterMap_map,
      List.map_filterMap, descriptors, List.map_filterMap]
    refine List.filterMap_congr fun ⟨shape, s⟩ _ => ?_
    simp only [Function.comp_apply, Prod.map_apply, id_eq, Shape.reduce?_renameAliases,
      Option.map_map, Function.comp_def, hslot]
  simp only [context, Context.withoutAliases, hdesc]
  rfl

end FuncDecl
end Go

/-- Import aliases are invisible to policies that name none. An injective renaming of the aliases in a
declaration and in the imports of its file leaves met what was met and unmet what was unmet, and rules
without an alias in any policy find the same list of diagnostics. -/
theorem checkFunction_renameAliases {f : String → String} (hf : Function.Injective f) (d : FuncDecl)
    (fileName : String) (imports : ImportTable) :
    (∀ p : Policy, p.pkgName = none → p.isMet (d.context fileName imports) =
      p.isMet ((d.renameAliases f).context fileName (imports.renameAliases f))) ∧
    ∀ rules : List Rule, (∀ r ∈ rules, ∀ p ∈ r.args, p.pkgName = none) → ∀ site : Site,
      checkFunction rules (d.context fileName imports) site =
        checkFunction rules ((d.renameAliases f).context fileName (imports.renameAliases f)) site := by
  have hcontext := d.context_renameAliases hf fileName imports
  constructor
  · intro p hp
    calc p.isMet (d.context fileName imports)
        = p.isMet (d.context fileName imports).withoutAliases := (p.isMet_withoutAliases hp _).symm
      _ = p.isMet ((d.renameAliases f).context fileName (imports.renameAliases f)).withoutAliases := by
          rw [hcontext]
      _ = _ := p.isMet_withoutAliases hp _
  · intro rules h site
    calc checkFunction rules (d.context fileName imports) site
        = checkFunction rules (d.context fileName imports).withoutAliases site :=
          (checkFunction_withoutAliases h _ site).symm
      _ = checkFunction rules
            ((d.renameAliases f).context fileName (imports.renameAliases f)).withoutAliases site := by
          rw [hcontext]
      _ = _ := checkFunction_withoutAliases h _ site

/-- `F(tx *sql.Tx, r io.Reader)` in a file that imports `database/sql` and another package under the
alias `db`, with the two aliases exchanged. The alias `io` is not imported. -/
theorem checkFunction_renameAliases_swap :
    let f : String → String := Equiv.swap "sql" "db"
    let d : FuncDecl := { name := "F", params := [
      { names := ["tx"], shape := .pointer (.qualified "sql" "Tx") },
      { names := ["r"], shape := .qualified "io" "Reader" }] }
    let imports : ImportTable := { entries := [("db", "example.com/db"), ("sql", "database/sql")] }
    let p : Policy := { typeName := "Tx", pkg := some "database/sql", isPtr := true }
    let rules : List Rule := [{ args := [p, { typeName := "Reader", pkg := some "io" }] }]
    let c := d.context "a.go" imports
    let c' := (d.renameAliases f).context "a.go" (imports.renameAliases f)
    Function.Injective f ∧ c ≠ c' ∧ p.pkgName = none ∧ p.isMet c' = true ∧
    (∀ r ∈ rules, ∀ p ∈ r.args, p.pkgName = none) ∧
    (checkFunction rules c' {}).map (·.message) = ["no io.Reader type arg found for func F"] := by
  intro f d imports p rules c c'
  have hf : Function.Injective f := (Equiv.swap "sql" "db").injective
  obtain ⟨met, same⟩ := checkFunction_renameAliases hf d "a.go" imports
  have hnames : ∀ r ∈ rules, ∀ p ∈ r.args, p.pkgName = none := by decide
  have hmet : p.isMet c = true := by decide
  refine ⟨hf, by decide, rfl, (met p rfl).symm.trans hmet, hnames, ?_⟩
  rw [← same rules hnames {}]
  decide

end RequiredArgs
