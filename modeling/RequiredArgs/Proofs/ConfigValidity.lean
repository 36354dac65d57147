/-
# Valid configurations

Validation goes through the rules and, within a rule, through the policies, and stops at the first policy
that fails one of three checks. `Policy.WellFormed` is what the checks ask for together, and
`Policy.FirstFault` which of them fails first. Validation accepts the configurations whose policies are
well-formed, and of any other it reports the first policy that is not (`Config.validate_eq_ok_iff`,
`Config.validate_eq_error_iff`).

Matching relies on it. It looks at the alias that a policy names only if the policy also names a package,
so without validation an alias could stand in a configuration and have no effect. In a well-formed policy
it always has one: the path and the alias are compared each for itself
(`Policy.WellFormed.namespaceMatches_iff`). A configuration is only ever read with validation, hence
`Config.validate_exact`.
-/

import RequiredArgs.Matching
import RequiredArgs.Proofs.RunInputs

namespace RequiredArgs

/-- What a search finds in a numbered list comes from the first member for which it finds anything. -/
theorem findSome?_zipIdx_eq_some_iff {α β : Type} {l : List α} {n : Nat} {f : α × Nat → Option β}
    {b : β} : (l.zipIdx n).findSome? f = some b ↔ ∃ i a, l[i]? = some a ∧ f (a, n + i) = some b ∧
      ∀ i' a', i' < i → l[i']? = some a' → f (a', n + i') = none := by
  induction l generalizing n with
  | nil => simp
  | cons x l ih =>
    rw [List.zipIdx_cons, List.findSome?_cons]
    cases hx : f (x, n) with
    | some y =>
      constructor
      · intro h
        exact ⟨0, x, rfl, hx.trans h, fun i' a' hlt => absurd hlt (Nat.not_lt_zero i')⟩
      · rintro ⟨i, a, ha, hfa, hfirst⟩
        cases i with
        | zero =>
          obtain rfl := Option.some.inj ha
          exact hx.symm.trans hfa
        | succ i => cases hx.symm.trans (hfirst 0 x (Nat.zero_lt_succ i) rfl)
    | none =>
      -- the search goes on in the tail, whose member `i` is number `i + 1` of the whole list
      have hnext : ∀ i, n + 1 + i = n + (i + 1) := fun i => by omega
      simp only [ih, hnext]
      constructor
      · rintro ⟨i, a, ha, hfa, hfirst⟩
        refine ⟨i + 1, a, ha, hfa, fun i' a' hlt ha' => ?_⟩
        cases i' with
        | zero =>
          obtain rfl := Option.some.inj ha'
          exact hx
        | succ i' => exact hfirst i' a' (Nat.lt_of_succ_lt_succ hlt) ha'
      · rintro ⟨i, a, ha, hfa, hfirst⟩
        cases i with
        | zero =>
          obtain rfl := Option.some.inj ha
          cases hx.symm.trans hfa
        | succ i =>
          exact ⟨i, a, ha, hfa, fun i' a' hlt ha' =>
            hfirst (i' + 1) a' (Nat.succ_lt_succ hlt) ha'⟩

/-- The text has a character that is not white space. -/
def Text.HasVisible (s : String) : Prop := ∃ ch ∈ s.toList, isBlank ch = false

/-- A text is blank if no character of it can be seen. -/
theorem Text.allBlank_iff {s : String} : allBlank s = true ↔ ¬HasVisible s := by
  simp only [allBlank, List.all_eq_true, HasVisible, not_exists, not_and, Bool.not_eq_false]

namespace Policy

/-! ### One policy -/

/-- A policy that can be asked for as it is written. -/
structure WellFormed (p : Policy) : Prop where
  visible : Text.HasVisible p.typeName
  /-- An alias comes with the path that it stands for. -/
  aliased : p.pkgName ≠ none → p.pkg ≠ none
  path : p.pkg ≠ some ""

/-- The first of the checks that a policy fails: those in front of it pass. -/
inductive FirstFault (p : Policy) : Fault → Prop
  | emptyType (blank : ¬Text.HasVisible p.typeName) : FirstFault p .emptyType
  | aliasWithoutPath (visible : Text.HasVisible p.typeName) (named : p.pkgName ≠ none)
      (missing : p.pkg = none) : FirstFault p .aliasWithoutPath
  | emptyPath (visible : Text.HasVisible p.typeName) (aliased : p.pkgName ≠ none → p.pkg ≠ none)
      (empty : p.pkg = some "") : FirstFault p .emptyPath

variable {p : Policy} {f : Fault}

/-- The check on the alias, as a condition: an alias goes with a package. -/
theorem aliased_iff : ¬(p.pkgName.isSome && p.pkg.isNone) = true ↔ (p.pkgName ≠ none → p.pkg ≠ none) := by
  simp only [Bool.and_eq_true, Option.isSome_iff_ne_none, Option.isNone_iff_eq_none, not_and, ne_eq]

/-- A policy that is well formed passes all three checks. -/
theorem WellFormed.fault?_eq (h : p.WellFormed) : p.fault? = none := by
  rw [fault?, if_neg fun hblank => Text.allBlank_iff.1 hblank h.visible, if_neg (aliased_iff.2 h.aliased),
    if_neg h.path]

/-- The first fault of a policy is the one that is reported. -/
theorem FirstFault.fault?_eq (h : p.FirstFault f) : p.fault? = some f := by
  cases h with
  | emptyType blank => rw [fault?, if_pos (Text.allBlank_iff.2 blank)]
  | aliasWithoutPath visible named missing =>
    have halias : ¬¬(p.pkgName.isSome && p.pkg.isNone) = true := fun h =>
      aliased_iff.1 h named missing
    rw [fault?, if_neg fun hblank => Text.allBlank_iff.1 hblank visible, if_pos (not_not.1 halias)]
  | emptyPath visible aliased empty =>
    rw [fault?, if_neg fun hblank => Text.allBlank_iff.1 hblank visible, if_neg (aliased_iff.2 aliased),
      if_pos empty]

/-- A policy is well formed or has a first fault: the checks are made in one order, and the first
that fails decides. -/
theorem wellFormed_or_firstFault (p : Policy) : p.WellFormed ∨ ∃ f, p.FirstFault f := by
  by_cases hvisible : Text.HasVisible p.typeName
  · by_cases haliased : p.pkgName ≠ none → p.pkg ≠ none
    · by_cases hpath : p.pkg = some ""
      · exact .inr ⟨_, .emptyPath hvisible haliased hpath⟩
      · exact .inl ⟨hvisible, haliased, hpath⟩
    · obtain ⟨hnamed, hmissing⟩ := Classical.not_imp.1 haliased
      exact .inr ⟨_, .aliasWithoutPath hvisible hnamed (not_not.1 hmissing)⟩
  · exact .inr ⟨_, .emptyType hvisible⟩

/-- Nothing is reported of exactly the well-formed policies. -/
theorem fault?_eq_none_iff : p.fault? = none ↔ p.WellFormed := by
  refine ⟨fun h => ?_, WellFormed.fault?_eq⟩
  rcases p.wellFormed_or_firstFault with hp | ⟨f, hf⟩
  · exact hp
  · cases h.symm.trans hf.fault?_eq

/-- What is reported of a policy is its first fault and nothing else. -/
theorem fault?_eq_some_iff : p.fault? = some f ↔ p.FirstFault f := by
  refine ⟨fun h => ?_, FirstFault.fault?_eq⟩
  rcases p.wellFormed_or_firstFault with hp | ⟨f', hf⟩
  · cases h.symm.trans hp.fault?_eq
  · obtain rfl := Option.some.inj (h.symm.trans hf.fault?_eq)
    exact hf

/-- In a well-formed policy the path and the alias are asked for each for itself. -/
theorem WellFormed.namespaceMatches_iff (h : p.WellFormed) (x : Descriptor) :
    p.namespaceMatches x = true ↔
      (p.pkg = none ∨ x.namespacePath = p.pkg) ∧ (p.pkgName = none ∨ x.namespaceAlias = p.pkgName) := by
  unfold namespaceMatches
  cases hpkg : p.pkg with
  | none =>
    have hname : p.pkgName = none := by
      by_contra hnamed
      exact h.aliased hnamed hpkg
    simp [hname]
  | some path => cases hname : p.pkgName <;> simp

end Policy

namespace Config

/-! ### All policies of a configuration -/

/-- All policies of all rules are well-formed. -/
def WellFormed (c : Config) : Prop := ∀ r ∈ c.rules, ∀ p ∈ r.args, p.WellFormed

/-- Policy number `j` of rule number `i`. -/
def PolicyAt (c : Config) (i j : Nat) (r : Rule) (p : Policy) : Prop :=
  c.rules[i]? = some r ∧ r.args[j]? = some p

/-- The report of the first policy that is not well-formed, rule by rule and policy by policy. It gives the
label of the rule, the number of the policy in it and the first check that the policy fails. -/
def FirstInvalid (c : Config) (e : Invalid) : Prop :=
  ∃ i j r p, c.PolicyAt i j r p ∧ p.FirstFault e.fault ∧
    (∀ i' j' r' p', c.PolicyAt i' j' r' p' → i' < i ∨ i' = i ∧ j' < j → p'.WellFormed) ∧
    e.rule = r.label i ∧ e.policy = j

/-- The configuration was read from a text, or from a file. -/
inductive Loaded (c : Config) : Prop
  | text {text : String} (h : ofYaml text = .ok c) : Loaded c
  | file {t : Files.Tree} {base : List String} {path : String} (h : load t base path = .ok c) : Loaded c

/-- Nothing is reported of a rule exactly if all of its policies are well formed. -/
theorem ruleFault?_eq_none_iff {r : Rule} : ruleFault? r = none ↔ ∀ p ∈ r.args, p.WellFormed := by
  rw [ruleFault?, List.findSome?_eq_none_iff]
  conv_rhs => rw [← List.zipIdx_map_fst 0 r.args, List.forall_mem_map]
  simp only [Option.map_eq_none_iff, Policy.fault?_eq_none_iff]

/-- What is reported of a rule is the first fault of the first policy that has one, with the number
of that policy. -/
theorem ruleFault?_eq_some_iff {r : Rule} {j : Nat} {f : Policy.Fault} :
    ruleFault? r = some (j, f) ↔ ∃ p, r.args[j]? = some p ∧ p.FirstFault f ∧
      ∀ j' p', j' < j → r.args[j']? = some p' → p'.WellFormed := by
  simp only [ruleFault?, findSome?_zipIdx_eq_some_iff, Option.map_eq_some_iff, Option.map_eq_none_iff,
    Policy.fault?_eq_none_iff, Policy.fault?_eq_some_iff, Nat.zero_add, Prod.mk.injEq]
  constructor
  · rintro ⟨j, p, hp, ⟨f, hf, rfl, rfl⟩, hfirst⟩
    exact ⟨p, hp, hf, hfirst⟩
  · rintro ⟨p, hp, hf, hfirst⟩
    exact ⟨j, p, hp, ⟨f, hf, rfl, rfl⟩, hfirst⟩

/-- Nothing is reported of exactly the well-formed configurations. -/
theorem invalid?_eq_none_iff {c : Config} : c.invalid? = none ↔ c.WellFormed := by
  rw [invalid?, List.findSome?_eq_none_iff, WellFormed]
  conv_rhs => rw [← List.zipIdx_map_fst 0 c.rules, List.forall_mem_map]
  simp only [Option.map_eq_none_iff, ruleFault?_eq_none_iff]

/-- What is reported of a configuration is the fault of the first rule that has one. -/
theorem invalid?_eq_some_iff {c : Config} {e : Invalid} :
    c.invalid? = some e ↔ c.FirstInvalid e := by
  simp only [invalid?, findSome?_zipIdx_eq_some_iff, Option.map_eq_some_iff, Option.map_eq_none_iff,
    ruleFault?_eq_none_iff, Nat.zero_add, Prod.exists, ruleFault?_eq_some_iff]
  constructor
  · rintro ⟨i, r, hr, ⟨j, f, ⟨p, hp, hf, hbefore⟩, rfl⟩, hearlier⟩
    refine ⟨i, j, r, p, ⟨hr, hp⟩, hf, ?_, rfl, rfl⟩
    rintro i' j' r' p' ⟨hr', hp'⟩ (hlt | ⟨rfl, hlt⟩)
    · exact hearlier i' r' hlt hr' p' (List.mem_of_getElem? hp')
    · obtain rfl := Option.some.inj (hr.symm.trans hr')
      exact hbefore j' p' hlt hp'
  · rintro ⟨i, j, r, p, ⟨hr, hp⟩, hf, hfirst, hrule, hpolicy⟩
    refine ⟨i, r, hr, ⟨j, e.fault, ⟨p, hp, hf, ?_⟩, ?_⟩, ?_⟩
    · intro j' p' hlt hp'
      exact hfirst i j' r p' ⟨hr, hp'⟩ (.inr ⟨rfl, hlt⟩)
    · rw [← hrule, ← hpolicy]
    · intro i' r' hlt hr' p' hp'
      obtain ⟨j', hj'⟩ := List.getElem?_of_mem hp'
      exact hfirst i' j' r' p' ⟨hr', hj'⟩ (.inl hlt)

/-- Validation passes a well-formed configuration on, and accepts no other. -/
theorem validate_eq_ok_iff {c c' : Config} : c.validate = .ok c' ↔ c' = c ∧ c.WellFormed := by
  rw [← invalid?_eq_none_iff, validate]
  cases c.invalid? <;> simp [eq_comm]

/-- A configuration is refused with its first fault. -/
theorem validate_eq_error_iff {c : Config} {e : Invalid} :
    c.validate = .error e ↔ c.FirstInvalid e := by
  rw [← invalid?_eq_some_iff, validate]
  cases c.invalid? <;> simp

/-- What is read is valid. -/
theorem Loaded.wellFormed {c : Config} (h : c.Loaded) : c.WellFormed := by
  have hyaml : ∀ {text : String}, ofYaml text = .ok c → c.WellFormed := by
    intro text htext
    rcases ofYaml_eq_ok_iff.1 htext with ⟨-, rfl⟩ | ⟨-, -, hvalid⟩
    · intro r hr
      cases hr
    · exact invalid?_eq_none_iff.1 hvalid
  cases h with
  | text h => exact hyaml h
  | file h =>
    unfold load at h
    split at h
    · cases h
    · exact hyaml h

/-- Validation is exact. It passes a configuration on if every policy has a type that is not blank, a path
wherever it has an alias, and no empty path; otherwise it reports the first policy that does not, by the
label of its rule, its number and the first of the three checks that fails. What is read from a text or
a file is well-formed, and there no alias is ignored: a descriptor comes from the package of a policy
exactly if it has the path, where the policy gives one, and the alias, where the policy gives one. -/
theorem validate_exact (c : Config) :
    (∀ c', c.validate = .ok c' ↔ c' = c ∧ c.WellFormed) ∧
    (¬c.WellFormed → ∃ e, c.validate = .error e) ∧
    (∀ e, c.validate = .error e ↔ c.FirstInvalid e) ∧
    (∀ e : Invalid, e.detail = "args[" ++ toString e.policy ++ "]: " ++ e.fault.message) ∧
    (c.Loaded → c.WellFormed) ∧
    (c.WellFormed → ∀ r ∈ c.rules, ∀ p ∈ r.args, ∀ x : Descriptor,
      (p.namespaceMatches x = true ↔ (p.pkg = none ∨ x.namespacePath = p.pkg) ∧
        (p.pkgName = none ∨ x.namespaceAlias = p.pkgName))) := by
  refine ⟨fun c' => validate_eq_ok_iff, ?_, fun e => validate_eq_error_iff, fun e => rfl,
    Loaded.wellFormed, fun h r hr p hp x => (h r hr p hp).namespaceMatches_iff x⟩
  intro hnot
  cases hv : c.validate with
  | ok c' => exact absurd (validate_eq_ok_iff.1 hv).2 hnot
  | error e => exact ⟨e, rfl⟩

/-- A text with an alias for `os`, which a parameter `os.File` of the same package does not have; and a
configuration whose second rule has an alias without a path before a blank type. -/
theorem validate_exact_stdos :
    let p : Policy := { typeName := "File", pkg := some "os", pkgName := some "stdos" }
    let good : Config := { rules := [{ args := [p] }] }
    let bad : Config := { rules := [{ args := [p] }, { args := [{ typeName := "T" },
      { typeName := "File", pkgName := some "stdos" }, { typeName := " " }] }] }
    let x : Descriptor :=
      { position := 0, typeName := "File", namespacePath := some "os", namespaceAlias := some "os" }
    let e : Invalid := { rule := "rule #2", policy := 1, fault := .aliasWithoutPath }
    (good.Loaded ∧ good.WellFormed ∧ p.namespaceMatches x = false) ∧
    (¬ bad.WellFormed ∧ ∃ e, bad.validate = .error e) ∧
    bad.FirstInvalid e ∧ e.detail = "args[1]: `pkg_name` requires `pkg`" := by
  intro p good bad x e
  have hread : (ofYaml "rules:\n- args:\n  - type: File\n    pkg: os\n    pkg_name: stdos\n").toOption =
      some good := by
    decide +kernel
  have hgood : good.Loaded := by
    cases hyaml : ofYaml "rules:\n- args:\n  - type: File\n    pkg: os\n    pkg_name: stdos\n" with
    | error e => cases (congrArg Except.toOption hyaml).symm.trans hread
    | ok c =>
      obtain rfl : c = good := Option.some.inj ((congrArg Except.toOption hyaml).symm.trans hread)
      exact .text hyaml
  obtain ⟨-, -, -, -, loaded, clauses⟩ := validate_exact good
  obtain ⟨accepts, faulty, reports, -, -, -⟩ := validate_exact bad
  have hinvalid : bad.invalid? = some e := by decide
  have hbad : bad.validate = .error e := by rw [validate, hinvalid]
  have hnot : ¬bad.WellFormed := fun h => by
    cases hbad.symm.trans ((accepts bad).2 ⟨rfl, h⟩)
  refine ⟨⟨hgood, loaded hgood, ?_⟩, ⟨hnot, faulty hnot⟩, (reports e).1 hbad, by decide⟩
  have hp := clauses (loaded hgood) { args := [p] } List.mem_cons_self p List.mem_cons_self x
  rw [Bool.eq_false_iff, Ne, hp]
  decide

end Config
end RequiredArgs
