/-
# Files do not interfere

A run reads each file on its own, and its report can be taken apart by file. Restricted to some paths,
the diagnostics of a run are those of a run over the sources with these paths alone
(`checkSources_filter`): leaving entries out commutes with the stable sort of a report
(`filter_mergeSort`), and every diagnostic names the file it was found in. So a run over two sets of
sources without a common path reports what two runs report (`checkSources_append`), and another text
for one file leaves the reports on all other files as they are.
-/

import RequiredArgs.Proofs.SourceOrder

namespace RequiredArgs

open Go (SourceFile FuncDecl)

section StableSort

variable {α : Type} {le : α → α → Bool}

/-- Members that tie with a given one still do after others are left out. -/
theorem ties_filter (p : α → Bool) (a : α) (l : List α) :
    ties le a (l.filter p) = (ties le a l).filter p := by
  rw [ties, ties, List.filter_filter, List.filter_filter]
  simp only [Bool.and_comm]

/-- Leaving members out of a sorted list gives what sorting the others gives. -/
theorem filter_mergeSort (trans : ∀ a b c, le a b → le b c → le a c)
    (total : ∀ a b, le a b || le b a) (p : α → Bool) (l : List α) :
    (l.mergeSort le).filter p = (l.filter p).mergeSort le := by
  apply eq_of_pairwise_of_ties total
  · exact (List.pairwise_mergeSort trans total l).filter p
  · exact List.pairwise_mergeSort trans total (l.filter p)
  · intro a
    rw [ties_filter, ties_mergeSort trans total, ties_mergeSort trans total, ties_filter]

end StableSort

/-- Merging two sorted lists of texts sorts their members together. -/
theorem merge_mergeSort (l l' : List String) :
    (l.mergeSort fun a b => decide (a ≤ b)).merge (l'.mergeSort fun a b => decide (a ≤ b))
        (fun a b => decide (a ≤ b)) =
      (l ++ l').mergeSort fun a b => decide (a ≤ b) := by
  let le : String → String → Bool := fun a b => decide (a ≤ b)
  have trans : ∀ a b c : String, le a b → le b c → le a c := fun a b c hab hbc =>
    decide_eq_true ((of_decide_eq_true hab).trans (of_decide_eq_true hbc))
  have total : ∀ a b : String, le a b || le b a := fun a b => by
    simpa [le] using le_total a b
  have hmerge : ((l.mergeSort le).merge (l'.mergeSort le) le).Pairwise (le · ·) :=
    List.pairwise_merge trans total _ _ (List.pairwise_mergeSort trans total l)
      (List.pairwise_mergeSort trans total l')
  have hperm : ((l.mergeSort le).merge (l'.mergeSort le) le).Perm (l ++ l') :=
    (List.merge_perm_append le).trans
      ((List.mergeSort_perm l le).append (List.mergeSort_perm l' le))
  refine List.Perm.eq_of_pairwise ?_ hmerge (List.pairwise_mergeSort trans total (l ++ l'))
    (hperm.trans (List.mergeSort_perm (l ++ l') le).symm)
  exact fun a b _ _ hab hba => le_antisymm (of_decide_eq_true hab) (of_decide_eq_true hba)

/-- Restricted to some paths, the diagnostics of a run are those of a run over the sources with these
paths. -/
theorem checkSources_filter (rules : List Rule) (p : String → Bool)
    (sources : List (String × String)) :
    (checkSources rules sources).diagnostics.filter (fun diag => p diag.file) =
      (checkSources rules (sources.filter fun s => p s.1)).diagnostics := by
  show ((_ : List Diagnostic).mergeSort Diagnostic.precedes).filter _ =
    (_ : List Diagnostic).mergeSort Diagnostic.precedes
  rw [filter_mergeSort Diagnostic.precedes_trans Diagnostic.precedes_total, filter_found,
    List.filter_map]
  rfl

/-- A run is clean exactly if nothing is found in any of its sources. -/
theorem checkSources_isClean_iff (rules : List Rule) (sources : List (String × String)) :
    (checkSources rules sources).isClean = true ↔
      ∀ s ∈ sources, checkFile rules (SourceFile.parse s.1 s.2) = [] := by
  rw [Report.isClean, List.isEmpty_iff]
  show (_ : List Diagnostic).mergeSort Diagnostic.precedes = [] ↔ _
  rw [← List.length_eq_zero_iff, List.length_mergeSort, List.length_eq_zero_iff,
    List.flatMap_eq_nil_iff, List.forall_mem_map]

/-- The counters that grow with the sources. -/
def Report.Info.counters : List (Report.Info → UInt32) :=
  [functionsAnalyzed, functionsSkipped, parseFailures]

/-- Each counter of a run over two sets of sources is the sum of the counters of two runs, as words. -/
theorem counters_append (rules : List Rule) (sources sources' : List (String × String)) :
    ∀ counter ∈ Report.Info.counters, counter (checkSources rules (sources ++ sources')).info =
      counter (checkSources rules sources).info + counter (checkSources rules sources').info := by
  have hcount : ∀ (p : FuncDecl → Bool) (files files' : List SourceFile),
      ((declarations (files ++ files')).countP p).toUInt32 =
        ((declarations files).countP p).toUInt32 + ((declarations files').countP p).toUInt32 := by
    intro p files files'
    rw [declarations, List.flatMap_append, List.countP_append]
    exact UInt32.ofNat_add _ _
  have hfiles : ((sources ++ sources').map fun s => SourceFile.parse s.1 s.2) =
      (sources.map fun s => SourceFile.parse s.1 s.2) ++
        sources'.map fun s => SourceFile.parse s.1 s.2 := List.map_append
  simp only [Report.Info.counters, List.forall_mem_cons, List.not_mem_nil, false_implies,
    implies_true, and_true, checkSources, checkParsed, hfiles]
  exact ⟨hcount _ _ _, hcount _ _ _, rfl⟩

/-- The sum of two words that fits into a word is the sum of the numbers. -/
theorem toNat_add_of_lt {a b : UInt32} (h : a.toNat + b.toNat < 2 ^ 32) :
    (a + b).toNat = a.toNat + b.toNat := by
  rw [UInt32.toNat_add, Nat.mod_eq_of_lt h]

/-- Every source has one of the paths of the sources. -/
theorem filter_mem_paths_self (sources : List (String × String)) :
    sources.filter (fun s => s.1 ∈ sources.map Prod.fst) = sources :=
  List.filter_eq_self.2 fun _ hs => decide_eq_true (List.mem_map_of_mem hs)

/-- Sources whose paths are apart from the others are left out with the others' paths. -/
theorem filter_mem_paths_of_apart {sources others : List (String × String)}
    (apart : ∀ s ∈ sources, ∀ o ∈ others, s.1 ≠ o.1) :
    sources.filter (fun s => s.1 ∈ others.map Prod.fst) = [] := by
  refine List.filter_eq_nil_iff.2 fun s hs hmem => ?_
  obtain ⟨o, ho, hpath⟩ := List.mem_map.1 (of_decide_eq_true hmem)
  exact apart s hs o ho hpath.symm

/-- Files do not interfere. A run over two sets of sources without a common path reports under the
paths of each set what a run over that set reports, in the same order, and nothing else. The files
analyzed are merged, the counters are added, the number of rules stays, and the run is clean if both
are. Hence another text for one file leaves all that is reported on other files as it is. -/
theorem checkSources_append (rules : List Rule) {first second : List (String × String)}
    (apart : ∀ a ∈ first, ∀ b ∈ second, a.1 ≠ b.1) :
    let union := checkSources rules (first ++ second)
    let one := checkSources rules first
    let two := checkSources rules second
    union.diagnostics.filter (fun diag => diag.file ∈ first.map Prod.fst) = one.diagnostics ∧
    union.diagnostics.filter (fun diag => diag.file ∈ second.map Prod.fst) = two.diagnostics ∧
    union.diagnostics.Perm (one.diagnostics ++ two.diagnostics) ∧
    union.filesAnalyzed =
      one.filesAnalyzed.merge two.filesAnalyzed (fun a b => decide (a ≤ b)) ∧
    (∀ counter ∈ Report.Info.counters,
      counter union.info = counter one.info + counter two.info ∧
      ((counter one.info).toNat + (counter two.info).toNat < 2 ^ 32 →
        (counter union.info).toNat = (counter one.info).toNat + (counter two.info).toNat)) ∧
    union.info.rules = one.info.rules ∧ union.info.rules = two.info.rules ∧
    (union.isClean = true ↔ one.isClean = true ∧ two.isClean = true) ∧
    ∀ (before after : List (String × String)) (path text text' : String),
      (checkSources rules (before ++ (path, text) :: after)).diagnostics.filter (·.file != path) =
        (checkSources rules (before ++ (path, text') :: after)).diagnostics.filter
          (·.file != path) := by
  intro union one two
  have apart' : ∀ b ∈ second, ∀ a ∈ first, b.1 ≠ a.1 := fun b hb a ha => (apart a ha b hb).symm
  have hperm : ∀ files : List SourceFile, (checkParsed rules files).diagnostics.Perm
      (files.flatMap (checkFile rules)) := fun files => List.mergeSort_perm _ _
  refine ⟨?_, ?_, ?_, ?_, ?_, rfl, rfl, ?_, ?_⟩
  · rw [checkSources_filter rules (fun path => path ∈ first.map Prod.fst), List.filter_append,
      filter_mem_paths_self, filter_mem_paths_of_apart apart', List.append_nil]
  · rw [checkSources_filter rules (fun path => path ∈ second.map Prod.fst), List.filter_append,
      filter_mem_paths_self, filter_mem_paths_of_apart apart, List.nil_append]
  · refine (hperm _).trans ?_
    rw [List.map_append, List.flatMap_append]
    exact (hperm _).symm.append (hperm _).symm
  · show ((_ : List SourceFile).map (·.path)).mergeSort _ = _
    rw [List.map_append, List.map_append]
    exact (merge_mergeSort _ _).symm
  · intro counter hc
    have hsum := counters_append rules first second counter hc
    exact ⟨hsum, fun hlt => by rw [hsum, toNat_add_of_lt hlt]⟩
  · simp only [union, one, two, checkSources_isClean_iff, List.forall_mem_append]
  · intro before after path text text'
    rw [checkSources_filter rules (· != path), checkSources_filter rules (· != path)]
    simp only [List.filter_append, List.filter_cons, bne_self_eq_false, Bool.false_eq_true,
      if_false]

/-- Two sets of sources whose files declare functions of one name at one place. -/
theorem checkSources_append_pair :
    let first := [("b.go", "package b\nfunc F(n int) \x7b\x7d\n")]
    let second := [("a.go", "package a\nfunc F(n int) \x7b\x7d\n"), ("c.go", "package c\n")]
    let rules : List Rule := [{ args := [{ typeName := "string" }] }]
    (∀ a ∈ first, ∀ b ∈ second, a.1 ≠ b.1) ∧
      (checkSources rules (first ++ second)).diagnostics.filter
          (fun diag => diag.file ∈ first.map Prod.fst) =
        (checkSources rules first).diagnostics := by
  intro first second rules
  have apart : ∀ a ∈ first, ∀ b ∈ second, a.1 ≠ b.1 := by decide
  exact ⟨apart, (checkSources_append rules apart).1⟩

end RequiredArgs
