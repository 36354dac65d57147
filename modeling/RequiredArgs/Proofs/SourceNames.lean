/-
# The names of the sources

A source is found under a path that starts with its root, and reported under that path without a
leading `./`. Found paths differ in their components, and the name of a path keeps all of them but a
leading `.` (`components_withoutCurrent`). So two sources share a name only if one of them is found
with a leading `./` and its name is the path of the other, which happens where some roots are written
with `./` and some without (`sourceNames_nodup_iff`, `sourceNames_nodup_of_uniform`).

Sources with different names give diagnostics that differ in file, offset or rule
(`diagnostics_distinct`).
-/

import RequiredArgs.Proofs.DeclarationSites
import RequiredArgs.Proofs.PathOrder
import RequiredArgs.Proofs.RunOutcome
import RequiredArgs.Proofs.SourceOrder

namespace RequiredArgs
namespace Files

/-- The path starts at the current directory, which is written out. -/
def isFromCurrent (path : String) : Bool := (components path).head? == some .current

/-- A path that does not start at the current directory is reported as it is. -/
theorem withoutCurrent_of_not {path : String} (h : isFromCurrent path = false) :
    withoutCurrent path = path := by
  unfold withoutCurrent
  split
  · rename_i rest hrest
    rw [isFromCurrent, hrest] at h
    cases h
  · rfl

/-- The components that the segments of a text stand for. -/
def names (cs : List Char) : List Component :=
  ((segments cs).map String.ofList).filterMap Component.ofSegment?

/-- A segment stands for a name or for the directory above, never for a start. -/
theorem mem_names {cs : List Char} {c : Component} (h : c ∈ names cs) :
    c = .parent ∨ ∃ text, c = .name text := by
  obtain ⟨s, -, hs⟩ := List.mem_filterMap.1 h
  unfold Component.ofSegment? at hs
  split at hs
  · cases hs
  · cases hs
  · exact .inl (Option.some.inj hs).symm
  · exact .inr ⟨_, (Option.some.inj hs).symm⟩

/-- The first segment is what stands in front of the first slash. -/
theorem segments_head? (cs : List Char) :
    (segments cs).head? = some (cs.takeWhile (· != '/')) := by
  induction cs with
  | nil => rfl
  | cons c cs ih =>
    rw [segments]
    by_cases hc : c = '/'
    · subst hc
      rfl
    · rw [if_neg (by simpa using hc), List.takeWhile_cons_of_pos (by simpa using hc)]
      cases hs : segments cs with
      | nil => rw [hs] at ih; cases ih
      | cons s ss =>
        rw [hs] at ih
        rw [List.head?_cons, Option.some.inj ih]

/-- The components of a path: those of its segments, behind a mark for where it starts. -/
theorem components_eq (path : String) : components path =
    (if isAbsolute path then [.root]
      else if path.toList.takeWhile (· != '/') = ['.'] then [.current] else []) ++
      names path.toList := by
  have hhead : (segmentTexts path).head? = some (.ofList (path.toList.takeWhile (· != '/'))) := by
    rw [segmentTexts, List.head?_map, segments_head?]
    rfl
  have hdot : (segmentTexts path).head? = some "." ↔
      path.toList.takeWhile (· != '/') = ['.'] := by
    rw [hhead, Option.some.injEq, ← String.toList_inj, String.toList_ofList]
    rfl
  simp only [components, beq_iff_eq, hdot]
  rfl

/-- An absolute path starts with a slash. -/
theorem isAbsolute_iff {path : String} : isAbsolute path = true ↔ path.toList.head? = some '/' := by
  rw [isAbsolute, beq_iff_eq]

/-- A path starts at the current directory if its first segment is a single point. -/
theorem isFromCurrent_iff {path : String} :
    isFromCurrent path = true ↔ path.toList.takeWhile (· != '/') = ['.'] := by
  rw [isFromCurrent, components_eq, beq_iff_eq]
  split
  · rename_i habs
    obtain ⟨rest, hrest⟩ := List.head?_eq_some_iff.1 (isAbsolute_iff.1 habs)
    simp [hrest]
  · split
    · exact iff_of_true rfl ‹_›
    · refine iff_of_false (fun hhead => ?_) ‹_›
      have hmem : Component.current ∈ names path.toList :=
        List.mem_of_mem_head? (by rw [List.nil_append] at hhead; exact hhead)
      rcases mem_names hmem with h | ⟨_, h⟩ <;> cases h

/-- Slashes and points in front stand for no name. -/
theorem names_dropCurrent (n : Nat) (cs : List Char) : names (dropCurrent n cs) = names cs := by
  fun_induction dropCurrent n cs with
  | case1 => rfl
  | case2 fuel rest ih => exact ih
  | case3 => rfl
  | case4 fuel rest ih => exact ih
  | case5 => rfl

/-- With enough fuel nothing is left in front that could be dropped. -/
theorem dropCurrent_start {n : Nat} {cs : List Char} (h : cs.length ≤ n) :
    (dropCurrent n cs).head? ≠ some '/' ∧ (dropCurrent n cs).takeWhile (· != '/') ≠ ['.'] := by
  fun_induction dropCurrent n cs with
  | case1 cs =>
    obtain rfl : cs = [] := List.eq_nil_of_length_eq_zero (Nat.le_zero.1 h)
    decide
  | case2 fuel rest ih => exact ih (by simpa using h)
  | case3 => decide
  | case4 fuel rest ih => exact ih (by simp only [List.length_cons] at h; omega)
  | case5 fuel cs hslash hdot hcurrent =>
    cases cs with
    | nil => decide
    | cons c rest =>
      refine ⟨fun hhead => hslash rest (congrArg (· :: rest) (Option.some.inj hhead)), fun htake => ?_⟩
      by_cases hc : c = '/'
      · exact hslash rest (congrArg (· :: rest) hc)
      · rw [List.takeWhile_cons_of_pos (by simpa using hc)] at htake
        obtain ⟨rfl, htake⟩ := List.cons.inj htake
        cases rest with
        | nil => exact hdot rfl
        | cons d rest =>
          have hd : d = '/' := by
            by_contra hd
            rw [List.takeWhile_cons_of_pos (by simpa using hd)] at htake
            cases htake
          exact hcurrent rest (by rw [hd])

/-- The name of a path that starts at the current directory has all components but that start. -/
theorem components_withoutCurrent {path : String} (h : isFromCurrent path = true) :
    components path = .current :: components (withoutCurrent path) ∧
      isAbsolute (withoutCurrent path) = false ∧ isFromCurrent (withoutCurrent path) = false := by
  have htake := isFromCurrent_iff.1 h
  have habs : isAbsolute path = false := by
    cases hslash : isAbsolute path with
    | false => rfl
    | true =>
      obtain ⟨rest, hrest⟩ := List.head?_eq_some_iff.1 (isAbsolute_iff.1 hslash)
      simp [hrest] at htake
  have hcomponents : components path = .current :: names path.toList := by
    rw [components_eq, habs, htake]
    rfl
  have hname : (withoutCurrent path).toList = dropCurrent path.length path.toList := by
    rw [withoutCurrent, hcomponents, String.toList_ofList]
  obtain ⟨hslash, hdot⟩ := dropCurrent_start (String.length_toList (s := path)).le
  rw [← hname] at hslash hdot
  have habs' : isAbsolute (withoutCurrent path) = false := by
    rw [← Bool.not_eq_true, isAbsolute_iff]
    exact hslash
  have hfrom' : isFromCurrent (withoutCurrent path) = false := by
    rw [← Bool.not_eq_true, isFromCurrent_iff]
    exact hdot
  refine ⟨?_, habs', hfrom'⟩
  rw [hcomponents, components_eq (withoutCurrent path), habs', if_neg hdot, hname,
    names_dropCurrent]
  rfl

/-- Different paths get the same name only if one is the name of the other. -/
theorem samePath_of_withoutCurrent_eq {a b : String} (h : withoutCurrent a = withoutCurrent b) :
    samePath a b = true ∨ (isFromCurrent a = true ∧ withoutCurrent a = b) ∨
      (isFromCurrent b = true ∧ withoutCurrent b = a) := by
  cases ha : isFromCurrent a with
  | false =>
    rw [withoutCurrent_of_not ha] at h
    cases hb : isFromCurrent b with
    | false =>
      rw [withoutCurrent_of_not hb] at h
      exact .inl (samePath_iff.2 (by rw [h]))
    | true => exact .inr (.inr ⟨rfl, h.symm⟩)
  | true =>
    cases hb : isFromCurrent b with
    | false =>
      rw [withoutCurrent_of_not hb] at h
      exact .inr (.inl ⟨rfl, h⟩)
    | true =>
      refine .inl (samePath_iff.2 ?_)
      rw [(components_withoutCurrent ha).1, (components_withoutCurrent hb).1, h]

/-- The first segment of a longer path is that of the path in front of a slash. -/
theorem takeWhile_append_slash (cs rest : List Char) :
    (cs ++ '/' :: rest).takeWhile (· != '/') = cs.takeWhile (· != '/') := by
  rw [List.takeWhile_append]
  split
  · rename_i hall
    rw [List.takeWhile_cons_of_neg (by decide), List.append_nil]
    exact ((List.takeWhile_prefix _).eq_of_length hall).symm
  · rfl

/-- A path below a root starts at the current directory if the root does, unless it is absolute. -/
theorem joinPath_start {root entry : String} (hroot : root.isEmpty = false) :
    isAbsolute (joinPath root entry) = true ∨
      isFromCurrent (joinPath root entry) = isFromCurrent root := by
  unfold joinPath
  rw [hroot, Bool.or_false]
  cases hentry : isAbsolute entry with
  | true => exact .inl hentry
  | false =>
    refine .inr (Bool.eq_iff_iff.2 ?_)
    rw [isFromCurrent_iff, isFromCurrent_iff, if_neg Bool.false_ne_true]
    split
    · rename_i hlast
      obtain ⟨front, hfront⟩ := List.getLast?_eq_some_iff.1 (beq_iff_eq.1 hlast)
      rw [String.toList_append, hfront, List.append_assoc, List.singleton_append,
        takeWhile_append_slash, takeWhile_append_slash]
    · have hslash : "/".toList = ['/'] := rfl
      rw [String.toList_append, String.toList_append, hslash, List.append_assoc,
        List.singleton_append, takeWhile_append_slash]

namespace Tree

/-- A source under a root starts at the current directory if the root does, unless it is absolute. -/
theorem isFromCurrent_of_mem_sourcesUnder {t : Tree} {base : List String} {root path : String}
    (h : path ∈ t.sourcesUnder base root) :
    isAbsolute path = true ∨ isFromCurrent path = isFromCurrent root := by
  unfold sourcesUnder at h
  split at h
  · cases h
  · rename_i p hresolve
    have hroot : root.isEmpty = false := by
      cases hempty : root.isEmpty with
      | false => rfl
      | true => simp [resolve, hempty] at hresolve
    split at h
    · obtain rfl := List.mem_singleton.1 (List.mem_of_mem_filter h)
      exact .inr rfl
    · split at h
      · cases h
      · obtain ⟨f, -, rfl⟩ := List.mem_map.1 (List.mem_of_mem_filter h)
        exact joinPath_start hroot

/-- The names under which the sources of a walk are reported. -/
def sourceNames (t : Tree) (base roots : List String) : List String :=
  (t.walk base roots).map withoutCurrent

/-- Two sources share a name exactly if the name of one that is found with a leading `./` is the path
with which another is found. -/
theorem sourceNames_nodup_iff {t : Tree} {base roots : List String} :
    (t.sourceNames base roots).Nodup ↔
      ∀ path ∈ t.walk base roots, isFromCurrent path = true →
        withoutCurrent path ∉ t.walk base roots := by
  constructor
  · intro hnodup path hpath hfrom hname
    have hfixed : withoutCurrent (withoutCurrent path) = withoutCurrent path :=
      withoutCurrent_of_not (components_withoutCurrent hfrom).2.2
    have hsame : withoutCurrent path = path :=
      List.inj_on_of_nodup_map hnodup hname hpath hfixed
    have hnot := (components_withoutCurrent hfrom).2.2
    rw [hsame, hfrom] at hnot
    cases hnot
  · intro hfree
    refine List.pairwise_map.2 (List.Pairwise.imp_of_mem ?_ (t.walk_pairwise base roots))
    rintro a b ha hb ⟨-, hdiff⟩ hname
    rcases samePath_of_withoutCurrent_eq hname with hsame | ⟨hfrom, rfl⟩ | ⟨hfrom, rfl⟩
    · rw [hsame] at hdiff
      cases hdiff
    · exact hfree a ha hfrom hb
    · exact hfree b hb hfrom ha

/-- Roots that are all written with a leading `./`, or all without, give different names. -/
theorem sourceNames_nodup_of_uniform {t : Tree} {base roots : List String} {current : Bool}
    (uniform : ∀ root ∈ roots, isFromCurrent root = current) :
    (t.sourceNames base roots).Nodup := by
  rw [sourceNames_nodup_iff]
  intro path hpath hfrom hname
  obtain ⟨habs, hnot⟩ := (components_withoutCurrent hfrom).2
  obtain ⟨root, hroot, hunder⟩ := mem_sourcesUnder_of_mem_walk hname
  obtain ⟨root', hroot', hunder'⟩ := mem_sourcesUnder_of_mem_walk hpath
  -- the name is not absolute, so its root is written without `./`, and the root of the path is not
  rcases isFromCurrent_of_mem_sourcesUnder hunder with h | h
  · rw [habs] at h
    cases h
  rcases isFromCurrent_of_mem_sourcesUnder hunder' with h' | h'
  · obtain ⟨rest, hrest⟩ := List.head?_eq_some_iff.1 (isAbsolute_iff.1 h')
    have htake := isFromCurrent_iff.1 hfrom
    simp [hrest] at htake
  rw [hnot, uniform root hroot] at h
  rw [hfrom, uniform root' hroot', ← h] at h'
  cases h'

end Tree
end Files

open Go (SourceFile FuncDecl)

/-- The place of a diagnostic in a report: file, offset and rule. -/
def Diagnostic.place (diag : Diagnostic) : String × UInt64 × Nat :=
  (diag.file, diag.offset, diag.ruleIndex)

/-- What a rule finds at a declaration is placed by the file, the byte of the declaration and the
number of the rule. -/
theorem Rule.Finds.place_eq {r : Rule} {i : Nat} {c : Context} {site : Site} {diag : Diagnostic}
    (h : r.Finds i c site diag) : diag.place = (c.fileName, site.offset, i) := by
  cases h <;> rfl

/-- Where a key is different in all members of a list, it tells the number of a member. -/
theorem index_eq_of_map_nodup {α β : Type} {key : α → β} {l : List α} (h : (l.map key).Nodup)
    {i j : Nat} {a b : α} (ha : l[i]? = some a) (hb : l[j]? = some b) (hkey : key a = key b) :
    i = j := by
  have hi : i < (l.map key).length := by
    rw [List.length_map]
    exact (List.getElem?_eq_some_iff.1 ha).1
  refine (List.getElem?_inj hi h).1 ?_
  rw [List.getElem?_map, List.getElem?_map, ha, hb, Option.map_some, Option.map_some, hkey]

/-- Files with different paths, each of which has its declarations at different places, give
diagnostics at different places. -/
theorem diagnostics_distinct (rules : List Rule) {files : List SourceFile}
    (distinct : (files.map (·.path)).Nodup)
    (sites : ∀ f ∈ files, (f.functions.map (·.site.offset)).Nodup) :
    ((checkParsed rules files).diagnostics.map Diagnostic.place).Nodup := by
  have hfindings : ((findings rules files).map fun x => x.2.place).Nodup := by
    refine (List.Nodup.of_map _ (findings_nodup rules files)).map_on ?_
    rintro ⟨q, diag⟩ hx ⟨q', diag'⟩ hx' hplace
    have hyields := mem_findings_iff.1 hx
    have hyields' := mem_findings_iff.1 hx'
    obtain ⟨f, d, r, hf, hd, -, -, -, hfinds⟩ := id hyields
    obtain ⟨f', d', r', hf', hd', -, -, -, hfinds'⟩ := id hyields'
    simp only [hfinds.place_eq, hfinds'.place_eq, Prod.mk.injEq] at hplace
    obtain ⟨hpath, hoffset, hrule⟩ := hplace
    -- the place of a diagnostic tells the three numbers of its inquiry
    have hfile : q.file = q'.file := index_eq_of_map_nodup distinct hf hf' hpath
    rw [← hfile, hf] at hf'
    obtain rfl := Option.some.inj hf'
    have hdecl : q.declaration = q'.declaration :=
      index_eq_of_map_nodup (sites f (List.mem_of_getElem? hf)) hd hd' hoffset
    obtain rfl : q = q' := by
      cases q
      cases q'
      simp_all
    rw [hyields.unique hyields']
  have hperm : (checkParsed rules files).diagnostics.Perm ((findings rules files).map Prod.snd) := by
    rw [findings_map_snd]
    exact List.mergeSort_perm _ _
  refine (hperm.map Diagnostic.place).nodup_iff.2 ?_
  rw [List.map_map]
  exact hfindings

namespace Cli

open Files (isFromCurrent withoutCurrent)

/-- A run reports its sources under the names of the files that the walk found. -/
theorem Place.Reads.map_fst {p : Place} {roots : List String} {sources : List (String × String)}
    (h : p.Reads roots sources) : sources.map Prod.fst = p.tree.sourceNames p.base roots := by
  have hnames : List.Forall₂ Eq (p.tree.sourceNames p.base roots) (sources.map Prod.fst) := by
    rw [Files.Tree.sourceNames, List.forall₂_map_left_iff, List.forall₂_map_right_iff]
    exact h.2.imp fun _ _ hread => hread.1.symm
  rw [List.forall₂_eq_eq_eq] at hnames
  exact hnames.symm

/-- Every source that is read is the text of a file that the walk found. -/
theorem Place.Reads.exists_file {p : Place} {roots : List String}
    {sources : List (String × String)} (h : p.Reads roots sources) {s : String × String}
    (hs : s ∈ sources) :
    ∃ file ∈ p.tree.walk p.base roots, p.tree.readText p.base file = .ok s.2 := by
  obtain ⟨i, hi, rfl⟩ := List.mem_iff_getElem.1 hs
  have hfile : i < (p.tree.walk p.base roots).length := by rw [h.2.length_eq]; exact hi
  exact ⟨_, List.getElem_mem hfile, (h.2.get hfile hi).2⟩

/-- No file is listed twice exactly if no two sources have the same name. -/
theorem filesAnalyzed_nodup_iff (rules : List Rule) (sources : List (String × String)) :
    (checkSources rules sources).filesAnalyzed.Nodup ↔ (sources.map Prod.fst).Nodup := by
  have hpaths : (sources.map fun s => SourceFile.parse s.1 s.2).map (·.path) =
      sources.map Prod.fst := by
    rw [List.map_map]
    rfl
  rw [← hpaths]
  exact (List.mergeSort_perm _ _).nodup_iff

/-- No source is reported twice, as long as the roots are spelled alike. Let a check end with a report,
that of the rules it is configured with on the sources it reads. The report lists a name twice if and
only if a file is found with a leading `./` and its name is the path with which a file is found as
well. That cannot be if all roots start with `./` or none does, however they overlap. And if the report
lists no name twice and each source has its declarations at different bytes, then no two diagnostics
agree in file, offset and rule. -/
theorem check_lists_sources_once {p : Place} {json : Bool} {explicit : Option String}
    {paths : List String} (completes : (check p json explicit paths).code ≠ 2) :
    let found := p.tree.walk p.base (Place.rootsOr paths)
    ∃ c sources, p.Configured explicit c ∧ p.Reads (Place.rootsOr paths) sources ∧
      let report := checkSources c.rules sources
      p.report explicit paths = .ok report ∧
      (report.filesAnalyzed.Nodup ↔
        ∀ path ∈ found, isFromCurrent path = true → withoutCurrent path ∉ found) ∧
      (∀ current, (∀ root ∈ Place.rootsOr paths, isFromCurrent root = current) →
        report.filesAnalyzed.Nodup) ∧
      (report.filesAnalyzed.Nodup →
        (∀ s ∈ sources, ((SourceFile.parse s.1 s.2).functions.map (·.site.offset)).Nodup) →
        (report.diagnostics.map fun diag => (diag.file, diag.offset, diag.ruleIndex)).Nodup) := by
  intro found
  obtain ⟨report, hreport⟩ := exists_report completes
  obtain ⟨c, sources, hc, hs, rfl⟩ := Place.report_eq_ok_iff.1 hreport
  have hnames := filesAnalyzed_nodup_iff c.rules sources
  refine ⟨c, sources, hc, hs, hreport, ?_, ?_, ?_⟩
  · rw [hnames, hs.map_fst]
    exact Files.Tree.sourceNames_nodup_iff
  · intro current uniform
    rw [hnames, hs.map_fst]
    exact Files.Tree.sourceNames_nodup_of_uniform uniform
  · intro hnodup hsites
    refine diagnostics_distinct c.rules ?_ ?_
    · rw [List.map_map]
      exact hnames.1 hnodup
    · rintro f hf
      obtain ⟨s, hmem, rfl⟩ := List.mem_map.1 hf
      exact hsites s hmem

/-- A check ends with a report if there is a configuration, all roots exist and all sources under them
can be read. -/
theorem check_code_ne_two {p : Place} {json : Bool} {explicit : Option String} {paths : List String}
    {c : Config} (configured : p.config "check" explicit = .ok c)
    (exist : ∀ root ∈ Place.rootsOr paths, p.tree.pathExists p.base root = true)
    (read : ∀ root ∈ Place.rootsOr paths, ∀ file ∈ p.tree.sourcesUnder p.base root,
      (p.tree.readText p.base file).isOk = true) :
    (check p json explicit paths).code ≠ 2 := by
  rw [Ne, check_code_eq_two_iff]
  rintro (hfault | ⟨root, hroot, hmissing⟩ | ⟨file, hfile, e, hfault⟩)
  · obtain ⟨e, he⟩ := Place.config_eq_error_iff.2 hfault
    cases configured.symm.trans he
  · rw [exist root hroot] at hmissing
    cases hmissing
  · obtain ⟨root, hroot, hunder⟩ := Files.Tree.mem_sourcesUnder_of_mem_walk hfile
    have hok := read root hroot file hunder
    rw [hfault] at hok
    cases hok

/-- A place with one source, in a directory below the current one. -/
def Place.small : Place where
  tree := { files := [(["w", "argguard.yaml"], "".toUTF8),
    (["w", "pkg", "a.go"], "package a\nfunc F() \x7b\x7d\n".toUTF8)] }
  cwd := "/w"

/-- A directory and a file inside it as roots: the check ends, and reports the file once. -/
theorem check_lists_sources_once_overlap :
    (check Place.small false none ["pkg", "pkg/a.go"]).code ≠ 2 ∧
      ∃ report, Place.small.report none ["pkg", "pkg/a.go"] = .ok report ∧
        report.filesAnalyzed.Nodup ∧
        (report.diagnostics.map fun diag => (diag.file, diag.offset, diag.ruleIndex)).Nodup := by
  have configured : Place.small.config "check" none = .ok {} := by decide
  have completes : (check Place.small false none ["pkg", "pkg/a.go"]).code ≠ 2 :=
    check_code_ne_two configured (by decide) (by decide)
  obtain ⟨c, sources, -, hs, hreport, -, huniform, hdistinct⟩ := check_lists_sources_once completes
  have hnodup := huniform false (by decide)
  refine ⟨completes, _, hreport, hnodup, hdistinct hnodup fun s hmem => ?_⟩
  -- the only text that is read is short
  obtain ⟨file, hfile, htext⟩ := hs.exists_file hmem
  obtain ⟨root, hroot, hunder⟩ := Files.Tree.mem_sourcesUnder_of_mem_walk hfile
  have hshort : ∀ root ∈ ["pkg", "pkg/a.go"],
      ∀ file ∈ Place.small.tree.sourcesUnder Place.small.base root,
        Place.small.tree.readText Place.small.base file =
          .ok "package a\nfunc F() \x7b\x7d\n" := by decide
  rw [hshort root hroot file hunder] at htext
  rw [← Except.ok.inj htext]
  exact SourceFile.parse_offsets_nodup s.1 (by decide)

/-- One directory as two roots, with and without a leading `./`: the check ends, and lists the one
source twice. -/
theorem check_lists_source_twice :
    (check Place.small false none ["./pkg", "pkg"]).code ≠ 2 ∧
      ∃ report, Place.small.report none ["./pkg", "pkg"] = .ok report ∧
        ¬report.filesAnalyzed.Nodup := by
  have configured : Place.small.config "check" none = .ok {} := by decide
  have completes : (check Place.small false none ["./pkg", "pkg"]).code ≠ 2 :=
    check_code_ne_two configured (by decide) (by decide)
  have hunder : ["./pkg", "pkg"].flatMap (Place.small.tree.sourcesUnder Place.small.base) =
      ["./pkg/a.go", "pkg/a.go"] := by decide
  have hwalk : Place.small.tree.walk Place.small.base ["./pkg", "pkg"] =
      ["./pkg/a.go", "pkg/a.go"] := by
    rw [Files.Tree.walk, hunder, List.mergeSort_of_pairwise (by decide), Files.dropRepeated,
      if_neg (by decide), Files.dropRepeated]
  obtain ⟨report, hreport⟩ := exists_report completes
  obtain ⟨c, sources, -, hs, rfl⟩ := Place.report_eq_ok_iff.1 hreport
  refine ⟨completes, _, hreport, ?_⟩
  have hroots : Place.rootsOr ["./pkg", "pkg"] = ["./pkg", "pkg"] := rfl
  rw [filesAnalyzed_nodup_iff, hs.map_fst, Files.Tree.sourceNames, hroots, hwalk]
  decide

end Cli
end RequiredArgs
