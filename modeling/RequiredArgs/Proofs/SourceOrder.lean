/-
# The order of the sources

Sources are handed to the checker in some order, and its report does not show which. Every diagnostic
names the file it was found in, so what a run finds under one path comes from the files with that path
(`filter_file_flatMap`). If no two files share a path there is at most one of them, the same in every
order of the files, and the order of a report is fixed by what was found in each file
(`Diagnostic.mergeSort_precedes_eq`). The other parts of a report are counts and a sorted list of
paths.
-/

import RequiredArgs.Proofs.ReportContents

namespace RequiredArgs

open Go (SourceFile FuncDecl)

/-- What a rule finds at a declaration carries the name of its file. -/
theorem Rule.Finds.file_eq {r : Rule} {i : Nat} {c : Context} {site : Site} {diag : Diagnostic}
    (h : r.Finds i c site diag) : diag.file = c.fileName := by
  cases h <;> rfl

/-- Every diagnostic of a file names the file. -/
theorem file_of_mem_checkFile {rules : List Rule} {f : SourceFile} {diag : Diagnostic}
    (h : diag ∈ checkFile rules f) : diag.file = f.path := by
  obtain ⟨d, -, h⟩ := List.mem_flatMap.1 h
  rw [checkFunction] at h
  split at h
  · cases h
  · obtain ⟨⟨r, i⟩, -, h⟩ := List.mem_filterMap.1 h
    exact (Rule.check_eq_some_iff.1 h).file_eq

/-- What is found under some paths comes from the files with those paths. -/
theorem filter_found (rules : List Rule) (p : String → Bool) (files : List SourceFile) :
    (files.flatMap (checkFile rules)).filter (fun diag => p diag.file) =
      (files.filter fun f => p f.path).flatMap (checkFile rules) := by
  induction files with
  | nil => rfl
  | cons f files ih =>
    rw [List.flatMap_cons, List.filter_append, ih, List.filter_cons]
    by_cases hf : p f.path = true
    · have hkeep : (checkFile rules f).filter (fun diag => p diag.file) = checkFile rules f := by
        rw [List.filter_eq_self]
        intro diag hd
        rw [file_of_mem_checkFile hd, hf]
      rw [hkeep, if_pos hf, List.flatMap_cons]
    · have hdrop : (checkFile rules f).filter (fun diag => p diag.file) = [] := by
        rw [List.filter_eq_nil_iff]
        intro diag hd
        rw [file_of_mem_checkFile hd]
        exact hf
      rw [hdrop, if_neg hf, List.nil_append]

/-- What is found under a path comes from the files with that path. -/
theorem filter_file_flatMap (rules : List Rule) (path : String) (files : List SourceFile) :
    (files.flatMap (checkFile rules)).filter (·.file == path) =
      (files.filter (·.path == path)).flatMap (checkFile rules) :=
  filter_found rules (· == path) files

/-- Files with different paths: those with a given path are the same in every order. -/
theorem filter_path_eq_of_perm {files files' : List SourceFile} (h : files.Perm files')
    (distinct : (files.map (·.path)).Nodup) (path : String) :
    files.filter (·.path == path) = files'.filter (·.path == path) := by
  have hne : ∀ l : List SourceFile, (l.map (·.path)).Nodup →
      (l.filter (·.path == path)).Pairwise (·.path ≠ ·.path) := fun l hl =>
    (List.pairwise_map.1 hl).sublist List.filter_sublist
  refine List.Perm.eq_of_pairwise ?_ (hne files distinct)
    (hne files' ((h.map _).nodup_iff.1 distinct)) (h.filter _)
  -- two files that are kept have the path, so they are never different in it
  intro f f' hf hf' hdiff
  have hp := beq_iff_eq.1 (List.mem_filter.1 hf).2
  have hp' := beq_iff_eq.1 (List.mem_filter.1 hf').2
  exact absurd (hp.trans hp'.symm) hdiff

/-- Sorting texts does not see the order that they come in. -/
theorem mergeSort_eq_of_perm {l l' : List String} (h : l.Perm l') :
    l.mergeSort (fun a b => decide (a ≤ b)) = l'.mergeSort (fun a b => decide (a ≤ b)) := by
  refine List.Perm.eq_of_pairwise (fun a b _ _ hab hba => le_antisymm hab hba)
    (List.pairwise_mergeSort' (· ≤ ·) l) (List.pairwise_mergeSort' (· ≤ ·) l') ?_
  exact (List.mergeSort_perm l _).trans (h.trans (List.mergeSort_perm l' _).symm)

/-- The report on files with different paths is the same in every order of the files. -/
theorem checkParsed_perm (rules : List Rule) {files files' : List SourceFile}
    (h : files.Perm files') (distinct : (files.map (·.path)).Nodup) :
    checkParsed rules files = checkParsed rules files' := by
  have hfound : (files.flatMap (checkFile rules)).Perm (files'.flatMap (checkFile rules)) :=
    h.flatMap_right _
  have hdecls : (declarations files).Perm (declarations files') := h.flatMap_right _
  have hdiag : (files.flatMap (checkFile rules)).mergeSort Diagnostic.precedes =
      (files'.flatMap (checkFile rules)).mergeSort Diagnostic.precedes := by
    refine Diagnostic.mergeSort_precedes_eq fun path => ?_
    rw [filter_file_flatMap, filter_file_flatMap, filter_path_eq_of_perm h distinct path]
  have hempty : (files.flatMap (checkFile rules)).isEmpty =
      (files'.flatMap (checkFile rules)).isEmpty := hfound.isEmpty_eq
  simp only [checkParsed, hdiag, hempty, mergeSort_eq_of_perm (h.map _), hdecls.countP_eq]

/-- Sources with different paths give the same report in every order, also where diagnostics of one
file agree in their place and rule. -/
theorem checkSources_eq_of_perm (rules : List Rule) {sources sources' : List (String × String)}
    (h : sources.Perm sources') (distinct : (sources.map Prod.fst).Nodup) :
    checkSources rules sources = checkSources rules sources' := by
  refine checkParsed_perm rules (h.map _) ?_
  rw [List.map_map]
  exact distinct

/-- Two sources that arrive in either order, with two declarations on one line and a rule whose
pattern is broken. -/
theorem checkSources_eq_of_perm_pair :
    let a := ("a.go", "package a\nfunc F(n int) \x7b\x7d; func G() \x7b\x7d\n")
    let b := ("b.go", "package b\nfunc F(n int) \x7b\x7d\n")
    let rules : List Rule := [{ args := [{ typeName := "string" }] }, { funcPatterns := ["("] }]
    [b, a].Perm [a, b] ∧ ([b, a].map Prod.fst).Nodup ∧
      checkSources rules [b, a] = checkSources rules [a, b] := by
  intro a b rules
  have h : [b, a].Perm [a, b] := .swap a b []
  have distinct : ([b, a].map Prod.fst).Nodup := by decide
  exact ⟨h, distinct, checkSources_eq_of_perm rules h distinct⟩

end RequiredArgs
