/-
# More parameters behind a parameter list

Slots are numbered from the front and extraction goes from the first slot to the last, so parameters that
are added behind the others leave the descriptors of these as they are (`FuncDecl.descriptors_addParams`).
Added parameters that are not supported give no descriptor at all: they are invisible to the rules, also to
indices that count from the end, since the end is the number of descriptors.

Any other parameter can move the end. An index that counts from the front does not see it, so a policy
with such an index, or with none, stays met and is reported for no declaration for which it was not
reported before (`checkFunction_addParams`).
-/

import RequiredArgs.Proofs.ExtractedSlots
import RequiredArgs.Proofs.ReportContents

namespace RequiredArgs

open Go (FuncDecl ImportTable ParamGroup Reduced Shape slotsOf)

namespace Go

/-- The descriptors of slots that are numbered from `n`. -/
def descriptorsFrom (imports : ImportTable) (n : Nat) (shapes : List Shape) : List Descriptor :=
  (shapes.zipIdx n).filterMap fun (shape, slot) =>
    shape.reduce?.map fun r => r.toDescriptor slot imports

/-- The descriptors of a list of shapes, the slots of the second part being numbered on from the
first. -/
theorem descriptorsFrom_append (imports : ImportTable) (n : Nat) (shapes more : List Shape) :
    descriptorsFrom imports n (shapes ++ more) =
      descriptorsFrom imports n shapes ++ descriptorsFrom imports (n + shapes.length) more := by
  rw [descriptorsFrom, List.zipIdx_append, List.filterMap_append]
  rfl

/-- Slots that are not supported give no descriptor, whatever their numbers. -/
theorem descriptorsFrom_of_unsupported {shapes : List Shape}
    (h : ∀ shape ∈ shapes, shape.isSupported = false) (imports : ImportTable) (n : Nat) :
    descriptorsFrom imports n shapes = [] := by
  rw [descriptorsFrom, List.filterMap_eq_nil_iff]
  rintro ⟨shape, slot⟩ hx
  have hmem : shape ∈ shapes := List.mem_of_getElem? (List.mem_zipIdx_iff_le_and_getElem?_sub.1 hx).2
  have hnone : shape.reduce? = none := by simpa [Shape.isSupported] using h shape hmem
  simp only [hnone, Option.map_none]

namespace FuncDecl

/-- The declaration with more parameter groups behind its own. -/
def addParams (d : FuncDecl) (gs : List ParamGroup) : FuncDecl := { d with params := d.params ++ gs }

/-- Added groups take up the slots behind those that were there. -/
theorem slotShapes_addParams (d : FuncDecl) (gs : List ParamGroup) :
    (d.addParams gs).slotShapes = d.slotShapes ++ slotsOf gs := List.flatMap_append

/-- Added parameters come behind the slots of the others, which keep their descriptors. -/
theorem descriptors_addParams (d : FuncDecl) (gs : List ParamGroup) (imports : ImportTable) :
    (d.addParams gs).descriptors imports =
      d.descriptors imports ++ descriptorsFrom imports d.arity (slotsOf gs) := by
  have hfrom : (d.addParams gs).descriptors imports =
      descriptorsFrom imports 0 (d.addParams gs).slotShapes := rfl
  rw [hfrom, slotShapes_addParams, descriptorsFrom_append, Nat.zero_add, length_slotShapes]
  rfl

/-- Added parameters that are not supported change nothing that the rules see. -/
theorem context_addParams_of_unsupported {gs : List ParamGroup}
    (h : ∀ g ∈ gs, g.shape.isSupported = false) (d : FuncDecl) (fileName : String)
    (imports : ImportTable) : (d.addParams gs).context fileName imports = d.context fileName imports := by
  have hslots : ∀ shape ∈ slotsOf gs, shape.isSupported = false := by
    intro shape hshape
    obtain ⟨g, hg, hmem⟩ := List.mem_flatMap.1 hshape
    rw [(List.mem_replicate.1 hmem).2]
    exact h g hg
  rw [context, descriptors_addParams, descriptorsFrom_of_unsupported hslots, List.append_nil]
  rfl

end FuncDecl
end Go

namespace Policy

/-- The policy has no index, or one that counts from the front. -/
def FromFront (p : Policy) : Prop := ∀ i ∈ p.index, 0 ≤ i

/-- An index that counts from the front designates the same slot among any number of descriptors. -/
theorem FromFront.indexMatches_eq {p : Policy} (hp : p.FromFront) (position n m : Nat) :
    indexMatches p.index position n = indexMatches p.index position m := by
  cases hi : p.index with
  | none => rfl
  | some i =>
    have hpos : 0 ≤ i := hp i hi
    simp only [indexMatches, targetSlot, if_pos hpos]

/-- A policy that counts from the front stays met as long as no descriptor is taken away. -/
theorem FromFront.isMet_of_subset {p : Policy} (hp : p.FromFront) {c c' : Context}
    (hsub : c.descriptors ⊆ c'.descriptors) (h : p.isMet c = true) : p.isMet c' = true := by
  rw [isMet, List.any_eq_true] at h ⊢
  obtain ⟨x, hx, hmet⟩ := h
  rw [hp.indexMatches_eq x.position _ c'.descriptors.length] at hmet
  exact ⟨x, hsub hx, hmet⟩

end Policy

/-- The unmet policies are those of the rule that the declaration does not meet. -/
theorem Rule.mem_unmet_iff {r : Rule} {c : Context} {p : Policy} :
    p ∈ r.unmet c ↔ p ∈ r.args ∧ p.isMet c = false := by
  rw [Rule.unmet, List.mem_filter, Bool.not_eq_true']

/-- Rule number `i` reports the policy: there is a diagnostic of the rule that lists what is unmet, and
the policy is in the list. -/
def Reports (rules : List Rule) (c : Context) (site : Site) (i : Nat) (p : Policy) : Prop :=
  ∃ r diag, rules[i]? = some r ∧ p ∈ r.unmet c ∧ diag ∈ checkFunction rules c site ∧
    diag.ruleIndex = i ∧ diag.kind = .unmetPolicies ∧
    diag.message = unmetMessage (r.unmet c) c.funcName

/-- A diagnostic of a declaration is one that some rule finds, and the declaration is neither `init`
nor `main`. -/
theorem mem_checkFunction_iff {rules : List Rule} {c : Context} {site : Site} {diag : Diagnostic} :
    diag ∈ checkFunction rules c site ↔
      c.isLifecycleHook = false ∧
        ∃ (i : Nat) (r : Rule), rules[i]? = some r ∧ r.Finds i c site diag := by
  rw [checkFunction]
  split
  · rename_i hook
    simp [hook]
  · rename_i hook
    simp only [List.mem_filterMap, Prod.exists, List.mem_zipIdx_iff_getElem?, Rule.check_eq_some_iff,
      Bool.not_eq_true] at hook ⊢
    rw [and_iff_right hook, exists_comm]

/-- A policy is reported where it is unmet and the rule is asked. -/
theorem reports_iff {rules : List Rule} {c : Context} {site : Site} {i : Nat} {p : Policy} :
    Reports rules c site i p ↔ c.isLifecycleHook = false ∧
      ∃ r, rules[i]? = some r ∧ r.applies c.target = .ok true ∧ p ∈ r.unmet c := by
  constructor
  · rintro ⟨r, diag, hr, hp, hdiag, hi, hkind, -⟩
    obtain ⟨hook, j, r', hr', hfinds⟩ := mem_checkFunction_iff.1 hdiag
    cases hfinds with
    | invalidPattern broken => cases hkind
    | unmetPolicies inScope unmet =>
      obtain rfl : j = i := hi
      obtain rfl := Option.some.inj (hr.symm.trans hr')
      exact ⟨hook, r, hr, inScope, hp⟩
  · rintro ⟨hook, r, hr, inScope, hp⟩
    have hfinds : r.Finds i c site _ := .unmetPolicies inScope (List.ne_nil_of_mem hp)
    exact ⟨r, _, hr, hp, mem_checkFunction_iff.2 ⟨hook, i, r, hr, hfinds⟩, rfl, rfl, rfl⟩

/-- Parameters added behind the others. If none of them is supported, every rule finds the same as
before, whatever the sign of its indices. Whatever they are, a policy whose index is absent or counts from
the front stays met if it was met, and every report of it is one that was there before. -/
theorem checkFunction_addParams (d : FuncDecl) (fileName : String) (imports : ImportTable) (site : Site)
    (rules : List Rule) (gs : List ParamGroup) :
    ((∀ g ∈ gs, g.shape.isSupported = false) →
      checkFunction rules ((d.addParams gs).context fileName imports) site =
        checkFunction rules (d.context fileName imports) site) ∧
    ∀ p : Policy, p.FromFront →
      (p.isMet (d.context fileName imports) = true →
        p.isMet ((d.addParams gs).context fileName imports) = true) ∧
      ∀ i, Reports rules ((d.addParams gs).context fileName imports) site i p →
        Reports rules (d.context fileName imports) site i p := by
  constructor
  · intro h
    rw [FuncDecl.context_addParams_of_unsupported h]
  · intro p hp
    have hsub : (d.context fileName imports).descriptors ⊆
        ((d.addParams gs).context fileName imports).descriptors := by
      show d.descriptors imports ⊆ (d.addParams gs).descriptors imports
      rw [FuncDecl.descriptors_addParams]
      exact List.subset_append_left _ _
    refine ⟨hp.isMet_of_subset hsub, fun i hreport => ?_⟩
    -- the rules are asked of both declarations under the same names, so only the unmet policies differ
    obtain ⟨hook, r, hr, inScope, hunmet⟩ := reports_iff.1 hreport
    obtain ⟨hargs, hnot⟩ := Rule.mem_unmet_iff.1 hunmet
    have hbefore : p.isMet (d.context fileName imports) = false := by
      rw [Bool.eq_false_iff]
      intro hmet
      rw [hp.isMet_of_subset hsub hmet] at hnot
      cases hnot
    exact reports_iff.2 ⟨hook, r, hr, inScope, Rule.mem_unmet_iff.2 ⟨hargs, hbefore⟩⟩

/-- `F(a int, b string)` with `opts ...string` behind it: `-1` still designates `b`. With `c bool` behind it,
`0` still designates `a`, and the rule reports for `bool` at index 1 what it reported before. -/
theorem checkFunction_addParams_trailing :
    let d : FuncDecl := { name := "F", params := [{ names := ["a"], shape := .ident "int" },
      { names := ["b"], shape := .ident "string" }] }
    let opts : List ParamGroup := [{ names := ["opts"], shape := .unsupported .variadic }]
    let c : List ParamGroup := [{ names := ["c"], shape := .ident "bool" }]
    let last : Policy := { typeName := "int", index := some (-1) }
    let first : Policy := { typeName := "int", index := some 0 }
    let second : Policy := { typeName := "bool", index := some 1 }
    let rules : List Rule := [{ args := [last, first, second] }]
    ((∀ g ∈ opts, g.shape.isSupported = false) ∧
      (checkFunction rules ((d.addParams opts).context "a.go" {}) {}).map (·.message) =
        ["no int type arg at index -1, no bool type arg at index 1 found for func F"]) ∧
    (first.FromFront ∧ first.isMet (d.context "a.go" {}) = true ∧
      first.isMet ((d.addParams c).context "a.go" {}) = true) ∧
    second.FromFront ∧ Reports rules ((d.addParams c).context "a.go" {}) {} 0 second ∧
      Reports rules (d.context "a.go" {}) {} 0 second := by
  intro d opts c last first second rules
  have hopts : ∀ g ∈ opts, g.shape.isSupported = false := by decide
  have hfirst : first.FromFront := by simp [Policy.FromFront, first]
  have hsecond : second.FromFront := by simp [Policy.FromFront, second]
  have hmet : first.isMet (d.context "a.go" {}) = true := by decide
  have hreport : Reports rules ((d.addParams c).context "a.go" {}) {} 0 second :=
    reports_iff.2 ⟨rfl, _, rfl, rfl, by decide⟩
  refine ⟨⟨hopts, ?_⟩, ⟨hfirst, hmet, ?_⟩, hsecond, hreport, ?_⟩
  · rw [(checkFunction_addParams d "a.go" {} {} rules opts).1 hopts]
    decide
  · exact ((checkFunction_addParams d "a.go" {} {} rules c).2 first hfirst).1 hmet
  · exact ((checkFunction_addParams d "a.go" {} {} rules c).2 second hsecond).2 0 hreport

/-- From the end the same does not hold: a parameter behind the last one takes its place. -/
example :
    let d : FuncDecl := { name := "F", params := [{ names := ["a"], shape := .ident "int" }] }
    let last : Policy := { typeName := "int", index := some (-1) }
    last.isMet (d.context "a.go" {}) = true ∧
      last.isMet ((d.addParams [{ names := ["b"], shape := .ident "bool" }]).context "a.go" {}) = false := by
  decide

end RequiredArgs
