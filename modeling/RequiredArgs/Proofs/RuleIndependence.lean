/-
# Rules do not interfere

What a rule finds at a declaration depends on the rule alone; its number only labels and orders the
finding (`Rule.check_eq_map`). So the rules of a list can be taken in any order and the list can be cut
anywhere: a permutation permutes what is found, and the findings of a list are those of its first part
and then those of its second, with the numbers moved on (`checkFunction_of_perm`). What changes with the
place of a rule is its number, and its label if that is `rule #n`; a rule with a name of its own keeps
its label.
-/

import RequiredArgs.Proofs.ReportContents

namespace RequiredArgs

namespace Rule

/-- The rule has a name that labels it wherever it stands. -/
def isNamed (r : Rule) : Bool := r.name.any (!·.isEmpty)

/-- A rule with a name has the same label wherever it stands. -/
theorem label_of_isNamed {r : Rule} (h : r.isNamed = true) (i j : Nat) : r.label i = r.label j := by
  obtain ⟨name, hname, hne⟩ := (Option.any_eq_true ..).1 h
  have hfalse : name.isEmpty = false := by simpa using hne
  simp only [label, hname, hfalse, Bool.false_eq_true, if_false]

/-- A rule without one is labelled by its number, counted from one. -/
theorem label_of_not_isNamed {r : Rule} (h : r.isNamed = false) (i : Nat) :
    r.label i = s!"rule #{i + 1}" := by
  cases hname : r.name with
  | none => simp only [label, hname]
  | some name =>
    have htrue : name.isEmpty = true := by simpa [isNamed, hname] using h
    simp only [label, hname, htrue, if_true]

end Rule

namespace Diagnostic

/-- The diagnostic as the finding of the rule that stands at number `i`. -/
def placed (d : Diagnostic) (r : Rule) (i : Nat) : Diagnostic :=
  { d with rule := r.label i, ruleIndex := i }

/-- The diagnostic comes from a rule with a name of its own. -/
def isNamed (rules : List Rule) (d : Diagnostic) : Bool := rules[d.ruleIndex]?.any Rule.isNamed

/-- The diagnostic without the number of its rule, and without a label that is made of the number. -/
def unnumbered (rules : List Rule) (d : Diagnostic) : Diagnostic :=
  { d with rule := if d.isNamed rules then d.rule else "", ruleIndex := 0 }

/-- The diagnostic of one of the rules, behind `n` more rules. -/
def movedBy (n : Nat) (rules : List Rule) (d : Diagnostic) : Diagnostic :=
  { d with
    rule := if d.isNamed rules then d.rule else s!"rule #{n + d.ruleIndex + 1}"
    ruleIndex := n + d.ruleIndex }

/-- A finding of the rule at a number has a name if the rule has one. -/
theorem isNamed_placed {rules : List Rule} {r : Rule} {i : Nat} (h : rules[i]? = some r)
    (d : Diagnostic) : (d.placed r i).isNamed rules = r.isNamed := by
  show rules[i]?.any Rule.isNamed = r.isNamed
  rw [h, Option.any_some]

/-- Without its number, the finding of a rule is the same at every place. -/
theorem unnumbered_placed {rules : List Rule} {r : Rule} {i : Nat} (h : rules[i]? = some r)
    (d : Diagnostic) : (d.placed r i).unnumbered rules =
      { d with rule := if r.isNamed then r.label 0 else "", ruleIndex := 0 } := by
  rw [unnumbered, isNamed_placed h]
  cases hnamed : r.isNamed with
  | false => rfl
  | true => simp only [placed, Rule.label_of_isNamed hnamed i 0]

/-- Behind more rules a finding is that of the same rule at its new number. -/
theorem movedBy_placed {rules : List Rule} {r : Rule} {i : Nat} (h : rules[i]? = some r) (n : Nat)
    (d : Diagnostic) : (d.placed r i).movedBy n rules = d.placed r (n + i) := by
  rw [movedBy, isNamed_placed h]
  cases hnamed : r.isNamed with
  | false => simp only [placed, Bool.false_eq_true, if_false, Rule.label_of_not_isNamed hnamed]
  | true => simp only [placed, if_true, Rule.label_of_isNamed hnamed i (n + i)]

end Diagnostic

/-- The number of a rule only labels and orders what it finds. -/
theorem Rule.check_eq_map (r : Rule) (i : Nat) (c : Context) (site : Site) :
    r.check i c site = (r.check 0 c site).map fun d => d.placed r i := by
  unfold Rule.check
  split
  · rfl
  · rfl
  · split <;> rfl

/-- The findings of a list of rules, each placed at its number. -/
theorem checkFunction_eq_filterMap {rules : List Rule} {c : Context} (hook : c.isLifecycleHook = false)
    (site : Site) : checkFunction rules c site =
      rules.zipIdx.filterMap fun (r, i) => (r.check 0 c site).map fun d => d.placed r i := by
  rw [checkFunction, hook]
  exact List.filterMap_congr fun x _ => x.1.check_eq_map x.2 c site

/-- Of `init` and `main` nothing is reported. -/
theorem checkFunction_of_hook {c : Context} (hook : c.isLifecycleHook = true) (rules : List Rule)
    (site : Site) : checkFunction rules c site = [] := by
  rw [checkFunction, if_pos hook]

/-- Without their numbers, the findings are those of each rule put first. -/
theorem checkFunction_map_unnumbered {rules : List Rule} {c : Context}
    (hook : c.isLifecycleHook = false) (site : Site) :
    (checkFunction rules c site).map (Diagnostic.unnumbered rules) =
      rules.filterMap fun r => (r.check 0 c site).map fun d =>
        { d with rule := if r.isNamed then r.label 0 else "", ruleIndex := 0 } := by
  rw [checkFunction_eq_filterMap hook, List.map_filterMap]
  conv_rhs => rw [← List.zipIdx_map_fst 0 rules, List.filterMap_map]
  refine List.filterMap_congr fun ⟨r, i⟩ hr => ?_
  have hget : rules[i]? = some r := List.mem_zipIdx_iff_getElem?.1 hr
  simp only [Option.map_map, Function.comp_def, Diagnostic.unnumbered_placed hget]

/-- A diagnostic carries the number of its rule and the label that the rule has there. -/
theorem exists_rule_of_mem_checkFunction {rules : List Rule} {c : Context} {site : Site}
    {d : Diagnostic} (h : d ∈ checkFunction rules c site) :
    ∃ r, rules[d.ruleIndex]? = some r ∧ d.rule = r.label d.ruleIndex := by
  cases hook : c.isLifecycleHook with
  | true =>
    rw [checkFunction_of_hook hook] at h
    cases h
  | false =>
    rw [checkFunction_eq_filterMap hook, List.mem_filterMap] at h
    obtain ⟨⟨r, i⟩, hr, h⟩ := h
    obtain ⟨d, -, rfl⟩ := Option.map_eq_some_iff.1 h
    exact ⟨r, List.mem_zipIdx_iff_getElem?.1 hr, rfl⟩

/-- The findings at a declaration stand in the order of the rules, one at most for each. -/
theorem checkFunction_ruleIndex_pairwise (rules : List Rule) (c : Context) (site : Site) :
    (checkFunction rules c site).Pairwise fun d d' => d.ruleIndex < d'.ruleIndex := by
  cases hook : c.isLifecycleHook with
  | true =>
    rw [checkFunction_of_hook hook]
    exact List.Pairwise.nil
  | false =>
    have hnumbers : rules.zipIdx.Pairwise fun x y => x.2 < y.2 := by
      rw [← List.pairwise_map (f := Prod.snd) (R := (· < ·)), List.zipIdx_map_snd]
      exact List.pairwise_lt_range'
    rw [checkFunction_eq_filterMap hook, List.pairwise_filterMap]
    refine hnumbers.imp fun {x y} hlt d hd d' hd' => ?_
    obtain ⟨_, -, rfl⟩ := Option.map_eq_some_iff.1 hd
    obtain ⟨_, -, rfl⟩ := Option.map_eq_some_iff.1 hd'
    exact hlt

/-- The findings of two lists of rules, of which the second is moved behind the first. -/
theorem checkFunction_append (rules rules' : List Rule) (c : Context) (site : Site) :
    checkFunction (rules ++ rules') c site = checkFunction rules c site ++
      (checkFunction rules' c site).map (Diagnostic.movedBy rules.length rules') := by
  cases hook : c.isLifecycleHook with
  | true => simp only [checkFunction_of_hook hook, List.map_nil, List.append_nil]
  | false =>
    simp only [checkFunction_eq_filterMap hook]
    rw [List.zipIdx_append, List.filterMap_append, Nat.zero_add, List.zipIdx_eq_map_add (l := rules'),
      List.filterMap_map, List.map_filterMap]
    congr 1
    refine List.filterMap_congr fun ⟨r, i⟩ hr => ?_
    have hget : rules'[i]? = some r := List.mem_zipIdx_iff_getElem?.1 hr
    simp only [Function.comp_def, Option.map_map, Diagnostic.movedBy_placed hget]

/-- Rules do not interfere. Another order of the rules gives the same findings, as often, but for the
numbers of the rules and the labels made of them. In a list of findings the numbers increase, and each
is the number of the rule that the finding is labelled with. Two lists of rules one behind the other
find what each finds, the second with its numbers moved on. -/
theorem checkFunction_of_perm {rules rules' : List Rule} (perm : rules.Perm rules') (c : Context)
    (site : Site) :
    ((checkFunction rules c site).map (Diagnostic.unnumbered rules)).Perm
      ((checkFunction rules' c site).map (Diagnostic.unnumbered rules')) ∧
    (∀ d ∈ checkFunction rules c site,
      ∃ r, rules[d.ruleIndex]? = some r ∧ d.rule = r.label d.ruleIndex) ∧
    ((checkFunction rules c site).Pairwise fun d d' => d.ruleIndex < d'.ruleIndex) ∧
    ∀ first second : List Rule, checkFunction (first ++ second) c site =
      checkFunction first c site ++
        (checkFunction second c site).map (Diagnostic.movedBy first.length second) := by
  refine ⟨?_, fun d => exists_rule_of_mem_checkFunction,
    checkFunction_ruleIndex_pairwise rules c site, fun first second =>
      checkFunction_append first second c site⟩
  cases hook : c.isLifecycleHook with
  | true => simp only [checkFunction_of_hook hook, List.map_nil, List.Perm.refl]
  | false =>
    rw [checkFunction_map_unnumbered hook, checkFunction_map_unnumbered hook]
    exact perm.filterMap _

/-- A rule that is unmet, one that is met and one with a broken pattern, in two orders. -/
theorem checkFunction_of_perm_reverse :
    let unmet : Rule := { name := some "tenant", args := [{ typeName := "T" }] }
    let broken : Rule := { funcPatterns := ["("] }
    let rules := [unmet, {}, broken]
    let c : Context := { fileName := "a.go", funcName := "F", receiver := "", descriptors := [] }
    rules.Perm rules.reverse ∧
    (checkFunction rules c {}).map (·.rule) = ["tenant", "rule #3"] ∧
    (checkFunction rules.reverse c {}).map (·.rule) = ["rule #1", "tenant"] ∧
    ((checkFunction rules c {}).map (Diagnostic.unnumbered rules)).Perm
      ((checkFunction rules.reverse c {}).map (Diagnostic.unnumbered rules.reverse)) := by
  intro unmet broken rules c
  have perm : rules.Perm rules.reverse := rules.reverse_perm.symm
  exact ⟨perm, by decide, by decide, (checkFunction_of_perm perm c {}).1⟩

end RequiredArgs
