/-
# The paths that a walk finds

A walk lists the sources under its roots in the order of paths, each path once. So the list is
determined, up to the spelling of its paths, by the set of paths that the roots contribute
(`forall₂_of_listed`), and that set is the union over the roots (`Tree.listed_walk`). Order and
repetition of the roots do not count.

The spelling of a root does not count either, as long as it leads somewhere: two texts of one path
that both lead somewhere lead to the same place (`Tree.resolve_eq`), and what is found below them are
texts of the same paths (`components_joinPath`). A text that leads nowhere finds nothing, and that can
differ between texts of one path: behind the name of a file, a slash at the end leads nowhere.
-/

import RequiredArgs.Proofs.SourceNames

namespace RequiredArgs
namespace Files

open Std (TransCmp OrientedCmp LawfulEqCmp ReflCmp)

/-- The path is among the listed ones, in this or another spelling. -/
def Listed (paths : List String) (path : String) : Prop := ∃ q ∈ paths, samePath q path = true

/-- The components come strictly before the other ones in the order of paths. -/
def ComponentsLt (as bs : List Component) : Prop := compareComponents as bs = .lt

instance : Std.Irrefl ComponentsLt where
  irrefl as h := by
    have hself : List.compareLex Component.cmp as as = .eq := ReflCmp.compare_self
    rw [ComponentsLt, compareComponents_eq, hself] at h
    cases h

instance : Std.Antisymm ComponentsLt where
  antisymm as bs h h' := by
    rw [ComponentsLt, compareComponents_eq] at h h'
    cases (OrientedCmp.gt_of_lt h).symm.trans h'

/-- The path comes strictly before the other one. -/
def pathLt (a b : String) : Prop := ComponentsLt (components a) (components b)

/-- A path is listed exactly if some listed path has its components. -/
theorem listed_iff {paths : List String} {path : String} :
    Listed paths path ↔ components path ∈ paths.map components := by
  simp only [Listed, samePath_iff, List.mem_map]

/-- A member of a list of paths is listed in it. -/
theorem Listed.of_mem {paths : List String} {path : String} (h : path ∈ paths) :
    Listed paths path :=
  ⟨path, h, samePath_iff.2 rfl⟩

/-- Dropping repeated paths drops no path. -/
theorem listed_dropRepeated {paths : List String} {path : String} :
    Listed (dropRepeated paths) path ↔ Listed paths path := by
  constructor
  · rintro ⟨q, hq, hsame⟩
    exact ⟨q, (dropRepeated_sublist paths).mem hq, hsame⟩
  · fun_induction dropRepeated paths with
    | case1 => exact id
    | case2 a => exact id
    | case3 a b rest hsame ih =>
      intro h
      refine ih ?_
      -- what stands for `b` stands for `a` as well
      rw [listed_iff] at h ⊢
      simp only [List.map_cons, List.mem_cons, samePath_iff.1 hsame] at h ⊢
      tauto
    | case4 a b rest hsame ih =>
      rintro ⟨q, hq, hpath⟩
      rcases List.mem_cons.1 hq with rfl | hq
      · exact ⟨q, List.mem_cons_self, hpath⟩
      · obtain ⟨q', hq', hpath'⟩ := ih ⟨q, hq, hpath⟩
        exact ⟨q', List.mem_cons_of_mem a hq', hpath'⟩

/-- Of two different paths, the one that is not behind the other comes strictly before it. -/
theorem pathLt_of_pathLe {a b : String} (hle : pathLe a b = true) (hdiff : samePath a b = false) :
    pathLt a b := by
  rw [pathLe_eq_isLE] at hle
  rw [samePath, beq_eq_false_iff_ne] at hdiff
  rw [pathLt, ComponentsLt, compareComponents_eq]
  cases h : List.compareLex Component.cmp (components a) (components b) with
  | lt => rfl
  | eq => exact absurd (LawfulEqCmp.eq_of_compare h) hdiff
  | gt =>
    rw [h] at hle
    cases hle

/-- Two lists of paths, each strictly in order, with the same paths are the same up to spelling. -/
theorem forall₂_of_listed {paths paths' : List String} (ordered : paths.Pairwise pathLt)
    (ordered' : paths'.Pairwise pathLt) (same : ∀ path, Listed paths path ↔ Listed paths' path) :
    List.Forall₂ (fun a b => samePath a b = true) paths paths' := by
  have hpaths : paths.map components = paths'.map components := by
    refine List.Pairwise.eq_of_mem_iff (r := ComponentsLt) (List.pairwise_map.2 ordered)
      (List.pairwise_map.2 ordered') fun as => ⟨fun has => ?_, fun has => ?_⟩
    · obtain ⟨path, hpath, rfl⟩ := List.mem_map.1 has
      exact listed_iff.1 ((same path).1 (.of_mem hpath))
    · obtain ⟨path, hpath, rfl⟩ := List.mem_map.1 has
      exact listed_iff.1 ((same path).2 (.of_mem hpath))
  have hforall : List.Forall₂ Eq (paths.map components) (paths'.map components) := by
    rw [hpaths, List.forall₂_eq_eq_eq]
  rw [List.forall₂_map_left_iff, List.forall₂_map_right_iff] at hforall
  exact hforall.imp fun _ _ h => samePath_iff.2 h

namespace Tree

/-- The paths that a walk finds are those under its roots. -/
theorem listed_walk {t : Tree} {base roots : List String} {path : String} :
    Listed (t.walk base roots) path ↔ ∃ root ∈ roots, Listed (t.sourcesUnder base root) path := by
  rw [walk, listed_dropRepeated]
  simp only [Listed, List.mem_mergeSort, List.mem_flatMap]
  constructor
  · rintro ⟨q, ⟨root, hroot, hq⟩, hsame⟩
    exact ⟨root, hroot, q, hq, hsame⟩
  · rintro ⟨root, hroot, q, hq, hsame⟩
    exact ⟨q, ⟨root, hroot, hq⟩, hsame⟩

/-- **The walk is strictly increasing**, so that no path comes twice. -/
theorem walk_pathLt (t : Tree) (base roots : List String) :
    (t.walk base roots).Pairwise pathLt :=
  (t.walk_pairwise base roots).imp fun h => pathLt_of_pathLe h.1 h.2

/-- A root that is a file gives itself if it is a Go source, and otherwise nothing. -/
theorem sourcesUnder_of_file {t : Tree} {base : List String} {root : String}
    (h : t.isFileAt base root = true) : t.sourcesUnder base root = [root].filter isGoSource := by
  unfold isFileAt at h
  unfold sourcesUnder
  split at h
  · rename_i p hresolve
    rw [hresolve]
    exact if_pos h
  · cases h

/-- Nothing but Go sources is found under a root. -/
theorem isGoSource_of_mem_sourcesUnder {t : Tree} {base : List String} {root path : String}
    (h : path ∈ t.sourcesUnder base root) : isGoSource path = true := by
  unfold sourcesUnder at h
  split at h
  · cases h
  · split at h
    · exact List.of_mem_filter h
    · split at h
      · cases h
      · exact List.of_mem_filter h

end Tree

/-! ### Texts of one path -/

/-- A slash separates the segments in front of it from those behind it. -/
theorem segments_append_slash (cs ds : List Char) :
    segments (cs ++ '/' :: ds) = segments cs ++ segments ds := by
  induction cs with
  | nil => rfl
  | cons c cs ih =>
    rw [List.cons_append, segments, segments, ih]
    split
    · rfl
    · cases hs : segments cs with
      | nil =>
        have hhead := segments_head? cs
        rw [hs] at hhead
        cases hhead
      | cons s ss => rfl

/-- A slash separates the names in front of it from those behind it. -/
theorem names_append_slash (cs ds : List Char) : names (cs ++ '/' :: ds) = names cs ++ names ds := by
  rw [names, segments_append_slash, List.map_append, List.filterMap_append]
  rfl

/-- What the front of a text says of where the path starts. -/
def startOf (cs : List Char) : List Component :=
  if cs.head? = some '/' then [.root]
  else if cs.takeWhile (· != '/') = ['.'] then [.current] else []

/-- The components of a path are where it starts and then its names. -/
theorem components_eq_startOf (path : String) :
    components path = startOf path.toList ++ names path.toList := by
  simp only [components_eq, startOf, isAbsolute_iff]

/-- Where a path starts is settled in front of any later slash. -/
theorem startOf_append_slash {cs : List Char} (hcs : cs ≠ []) (ds : List Char) :
    startOf (cs ++ '/' :: ds) = startOf cs := by
  rw [startOf, startOf, takeWhile_append_slash, List.head?_append_of_ne_nil _ hcs]

/-- The components of a path below a directory: those of the directory, and those of the entry. -/
theorem components_joinPath {dir entry : String} (hdir : dir.isEmpty = false)
    (hentry : isAbsolute entry = false) :
    components (joinPath dir entry) = components dir ++ names entry.toList := by
  have hne : dir.toList ≠ [] := by
    intro hnil
    rw [String.toList_eq_nil_iff.1 hnil] at hdir
    cases hdir
  rw [components_eq_startOf, components_eq_startOf, List.append_assoc]
  simp only [joinPath, hentry, hdir, Bool.or_self, Bool.false_eq_true, if_false]
  split
  · rename_i hlast
    obtain ⟨front, hfront⟩ := List.getLast?_eq_some_iff.1 (beq_iff_eq.1 hlast)
    have hstart : startOf (front ++ '/' :: entry.toList) = startOf (front ++ ['/']) := by
      cases front with
      | nil => rfl
      | cons c front =>
        rw [startOf_append_slash (List.cons_ne_nil c front),
          startOf_append_slash (List.cons_ne_nil c front)]
    rw [String.toList_append, hfront, List.append_assoc, List.singleton_append, hstart,
      names_append_slash, names_append_slash, List.append_assoc]
    rfl
  · have hslash : "/".toList = ['/'] := rfl
    rw [String.toList_append, String.toList_append, hslash, List.append_assoc,
      List.singleton_append, startOf_append_slash hne, names_append_slash]

/-- Below two texts of one directory an entry has texts of one path. -/
theorem components_joinPath_congr {dir dir' : String} (hdir : dir.isEmpty = false)
    (hdir' : dir'.isEmpty = false) (h : components dir = components dir') (entry : String) :
    components (joinPath dir entry) = components (joinPath dir' entry) := by
  cases hentry : isAbsolute entry with
  | true => rw [joinPath, joinPath, hentry, Bool.true_or, Bool.true_or, if_pos rfl, if_pos rfl]
  | false => rw [components_joinPath hdir hentry, components_joinPath hdir' hentry, h]

/-- Whether a path is a Go source depends on its components only. -/
theorem isGoSource_of_components_eq {a b : String} (h : components a = components b) :
    isGoSource a = isGoSource b := by
  rw [isGoSource, isGoSource, fileName?, fileName?, h]

/-- Two ways to spell the same paths leave the same components of Go sources. -/
theorem map_components_filter {α : Type} {f g : α → String} {l : List α}
    (h : ∀ x ∈ l, components (f x) = components (g x)) :
    ((l.map f).filter isGoSource).map components = ((l.map g).filter isGoSource).map components := by
  induction l with
  | nil => rfl
  | cons x l ih =>
    have hx := h x List.mem_cons_self
    have hl := ih fun y hy => h y (List.mem_cons_of_mem x hy)
    simp only [List.map_cons, List.filter_cons, isGoSource_of_components_eq hx]
    split
    · rw [List.map_cons, List.map_cons, hx, hl]
    · exact hl

/-- Where a component leads from a directory. -/
def Component.enter (here : List String) : Component → List String
  | root => []
  | current => here
  | parent => here.dropLast
  | name text => here ++ [text]

namespace Tree

/-- Following segments goes where the components do that they stand for. -/
theorem follow_eq_ok {t : Tree} {here segs p : List String} (h : t.follow here segs = .ok p) :
    p = (segs.filterMap Component.ofSegment?).foldl Component.enter here := by
  induction segs generalizing here with
  | nil => exact (Except.ok.inj h).symm
  | cons s segs ih =>
    rw [follow] at h
    split at h
    · cases h
    split at h
    · rename_i hskip
      have hnone : Component.ofSegment? s = none := by
        rcases Bool.or_eq_true_iff.1 hskip with hs | hs <;> rw [beq_iff_eq.1 hs] <;> rfl
      rw [List.filterMap_cons_none hnone]
      exact ih h
    rename_i hcounts
    split at h
    · rename_i hparent
      have hsome : Component.ofSegment? s = some .parent := by
        rw [beq_iff_eq.1 hparent]
        rfl
      rw [List.filterMap_cons_some hsome]
      exact ih h
    rename_i hname
    split at h
    · have hsome : Component.ofSegment? s = some (.name s) := by
        simp only [Bool.or_eq_true, beq_iff_eq, not_or] at hcounts hname
        unfold Component.ofSegment?
        split
        · exact absurd rfl hcounts.1
        · exact absurd rfl hcounts.2
        · exact absurd rfl hname
        · rfl
      rw [List.filterMap_cons_some hsome]
      exact ih h
    · cases h

/-- A path that leads somewhere leads where its components do. -/
theorem resolve_eq_ok {t : Tree} {base : List String} {path : String} {p : List String}
    (h : t.resolve base path = .ok p) : p = (components path).foldl Component.enter base := by
  unfold resolve at h
  split at h
  · cases h
  · rw [follow_eq_ok h, components_eq, List.foldl_append]
    split
    · rfl
    · split <;> rfl

/-- A path that exists is not empty and leads to a place. -/
theorem exists_resolve {t : Tree} {base : List String} {path : String}
    (h : t.pathExists base path = true) :
    path.isEmpty = false ∧ ∃ p, t.resolve base path = .ok p := by
  unfold pathExists at h
  cases hresolve : t.resolve base path with
  | error e =>
    rw [hresolve] at h
    cases h
  | ok p =>
    refine ⟨Bool.eq_false_iff.2 fun hempty => ?_, p, rfl⟩
    rw [resolve, if_pos hempty] at hresolve
    cases hresolve

/-- Two texts of one path that both lead somewhere find the same paths. -/
theorem map_components_sourcesUnder {t : Tree} {base : List String} {root root' : String}
    (same : samePath root root' = true) (leads : t.pathExists base root = true)
    (leads' : t.pathExists base root' = true) :
    (t.sourcesUnder base root).map components = (t.sourcesUnder base root').map components := by
  have hcomponents := samePath_iff.1 same
  obtain ⟨hroot, p, hp⟩ := exists_resolve leads
  obtain ⟨hroot', p', hp'⟩ := exists_resolve leads'
  obtain rfl : p = p' := by
    rw [resolve_eq_ok hp, resolve_eq_ok hp', hcomponents]
  have hdash : samePath root "-" = samePath root' "-" := by
    rw [samePath, samePath, hcomponents]
  simp only [sourcesUnder, hp, hp', hdash]
  split
  · rw [List.filter_singleton, List.filter_singleton, isGoSource_of_components_eq hcomponents]
    cases isGoSource root' with
    | true => exact congrArg (fun cs => [cs]) hcomponents
    | false => rfl
  · split
    · rfl
    · exact map_components_filter fun f _ => components_joinPath_congr hroot hroot' hcomponents _

/-- Roots that lead somewhere find the same paths as other spellings of them that do. -/
theorem listed_walk_of_listed {t : Tree} {base roots roots' : List String}
    (leads : ∀ root ∈ roots, t.pathExists base root = true)
    (leads' : ∀ root ∈ roots', t.pathExists base root = true)
    (spelled : ∀ root, Listed roots root → Listed roots' root) {path : String}
    (h : Listed (t.walk base roots) path) : Listed (t.walk base roots') path := by
  obtain ⟨root, hroot, hpath⟩ := listed_walk.1 h
  obtain ⟨root', hroot', hsame⟩ := spelled root (.of_mem hroot)
  refine listed_walk.2 ⟨root', hroot', ?_⟩
  rw [listed_iff] at hpath ⊢
  rwa [map_components_sourcesUnder hsame (leads' root' hroot') (leads root hroot)]

/-- A walk depends on the set of its roots only. Two root lists with the same members, in any order and
any number, find the same list up to the spelling of its paths; if the roots lead somewhere, it is
enough that the lists have the same members up to spelling. The list of a walk is strictly increasing
in the order of paths, so no path is in it twice; it holds Go sources only; a root that is a file and a
Go source is in it, whatever ignore files say and hidden or not; and what roots find together is what
they find apart. -/
theorem walk_depends_on_roots (t : Tree) (base roots roots' : List String) :
    ((∀ root, root ∈ roots ↔ root ∈ roots') →
      List.Forall₂ (fun a b => samePath a b = true) (t.walk base roots) (t.walk base roots')) ∧
    ((∀ root ∈ roots ++ roots', t.pathExists base root = true) →
      (∀ root, Listed roots root ↔ Listed roots' root) →
      List.Forall₂ (fun a b => samePath a b = true) (t.walk base roots) (t.walk base roots')) ∧
    ((t.walk base roots).Pairwise fun a b =>
      compareComponents (components a) (components b) = .lt) ∧
    (∀ path ∈ t.walk base roots, isGoSource path = true) ∧
    (∀ root ∈ roots, t.isFileAt base root = true → isGoSource root = true →
      Listed (t.walk base roots) root) ∧
    ∀ path, Listed (t.walk base (roots ++ roots')) path ↔
      Listed (t.walk base roots) path ∨ Listed (t.walk base roots') path := by
  have hordered := t.walk_pathLt base roots
  refine ⟨?_, ?_, hordered, ?_, ?_, ?_⟩
  · intro same
    refine forall₂_of_listed hordered (t.walk_pathLt base roots') fun path => ?_
    simp only [listed_walk, same]
  · intro leads spelled
    have hleads : ∀ root ∈ roots, t.pathExists base root = true := fun root h =>
      leads root (List.mem_append_left _ h)
    have hleads' : ∀ root ∈ roots', t.pathExists base root = true := fun root h =>
      leads root (List.mem_append_right _ h)
    refine forall₂_of_listed hordered (t.walk_pathLt base roots') fun path => ⟨?_, ?_⟩
    · exact listed_walk_of_listed hleads hleads' fun root => (spelled root).1
    · exact listed_walk_of_listed hleads' hleads fun root => (spelled root).2
  · intro path hpath
    obtain ⟨root, -, hunder⟩ := mem_sourcesUnder_of_mem_walk hpath
    exact isGoSource_of_mem_sourcesUnder hunder
  · intro root hroot hfile hgo
    refine listed_walk.2 ⟨root, hroot, .of_mem ?_⟩
    rw [sourcesUnder_of_file hfile]
    exact List.mem_filter.2 ⟨List.mem_singleton_self root, hgo⟩
  · intro path
    simp only [listed_walk, List.mem_append, or_and_right, exists_or]

/-- A tree with a hidden source and one in a directory. -/
def small : Tree where
  files := [([".x.go"], "".toUTF8), (["a", "b.go"], "".toUTF8)]

/-- The hidden source as a root, and the directory in two spellings: with and without repetition the
same is found, the hidden source among it. -/
theorem walk_depends_on_roots_hidden :
    let roots := [".x.go", "a//", "a", ".x.go"]
    let roots' := ["a", ".x.go"]
    (∀ root ∈ roots ++ roots', small.pathExists [] root = true) ∧
    (∀ root, Listed roots root ↔ Listed roots' root) ∧
    List.Forall₂ (fun a b => samePath a b = true) (small.walk [] roots) (small.walk [] roots') ∧
    small.isSkipped [".x.go"] false = true ∧ small.isFileAt [] ".x.go" = true ∧
    isGoSource ".x.go" = true ∧ Listed (small.walk [] roots) ".x.go" := by
  intro roots roots'
  obtain ⟨-, spelling, -, -, files, -⟩ := walk_depends_on_roots small [] roots roots'
  have leads : ∀ root ∈ roots ++ roots', small.pathExists [] root = true := by decide
  have spelled : ∀ root, Listed roots root ↔ Listed roots' root := by
    intro root
    have hroots : roots.map components =
        [[.name ".x.go"], [.name "a"], [.name "a"], [.name ".x.go"]] := by decide
    have hroots' : roots'.map components = [[.name "a"], [.name ".x.go"]] := by decide
    rw [listed_iff, listed_iff, hroots, hroots']
    simp only [List.mem_cons, List.not_mem_nil, or_false]
    tauto
  have hfile : small.isFileAt [] ".x.go" = true := by decide
  have hgo : isGoSource ".x.go" = true := by decide
  exact ⟨leads, spelled, spelling leads spelled, by decide, hfile, hgo,
    files ".x.go" List.mem_cons_self hfile hgo⟩

-- a text that leads nowhere finds nothing, though it spells a path that another text leads to
example : samePath ".x.go/" ".x.go" = true ∧ small.sourcesUnder [] ".x.go/" = [] ∧
    small.sourcesUnder [] ".x.go" = [".x.go"] := by
  decide

end Tree
end Files
end RequiredArgs
