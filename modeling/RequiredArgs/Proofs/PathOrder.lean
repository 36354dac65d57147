/-
# The order of paths

Paths are ordered by their components, and this order is lawful: it is total and transitive, and two
paths that stand neither before nor behind each other have the same components (`samePath_iff`). So in
a sorted list the texts of one path stand side by side, and dropping each text that is the same path
as the one before it leaves every path once (`dropRepeated_pairwise`).
-/

import Mathlib.Data.List.Sort
import RequiredArgs.Files.Walk

namespace RequiredArgs
namespace Files

open Std (TransCmp OrientedCmp LawfulEqCmp)

instance : TransCmp Component.cmp :=
  inferInstanceAs (TransCmp (compareLex (compareOn Component.rank) (compareOn Component.text)))

instance : LawfulEqCmp Component.cmp where
  eq_of_compare {a b} h := by
    obtain ⟨hrank, htext⟩ := Ordering.then_eq_eq.1 h
    have hrank : a.rank = b.rank := Std.LawfulEqOrd.eq_of_compare hrank
    have htext : a.text = b.text := Std.LawfulEqOrd.eq_of_compare htext
    cases a <;> cases b <;> first | rfl | exact congrArg Component.name htext | cases hrank

/-- Paths are compared component by component, the first difference deciding. -/
theorem compareComponents_eq : compareComponents = List.compareLex Component.cmp := by
  funext as bs
  induction as generalizing bs with
  | nil => cases bs <;> rfl
  | cons a as ih =>
    cases bs with
    | nil => rfl
    | cons b bs =>
      rw [compareComponents, ih, List.compareLex_cons_cons]

/-- Paths are compared like their components, word by word. -/
theorem pathLe_eq_isLE (a b : String) :
    pathLe a b = (List.compareLex Component.cmp (components a) (components b)).isLE := by
  rw [pathLe, compareComponents_eq]
  cases List.compareLex Component.cmp (components a) (components b) <;> rfl

/-- The order of paths is transitive. -/
theorem pathLe_trans (a b c : String) (hab : pathLe a b = true) (hbc : pathLe b c = true) :
    pathLe a c = true := by
  rw [pathLe_eq_isLE] at hab hbc ⊢
  exact TransCmp.isLE_trans hab hbc

/-- Any two paths are in order one way or the other. -/
theorem pathLe_total (a b : String) : pathLe a b || pathLe b a := by
  have hswap : List.compareLex Component.cmp (components a) (components b) =
      (List.compareLex Component.cmp (components b) (components a)).swap := OrientedCmp.eq_swap
  rw [pathLe_eq_isLE, pathLe_eq_isLE, hswap]
  cases List.compareLex Component.cmp (components b) (components a) <;> rfl

/-- Two paths are the same if they have the same components, however they are spelled. -/
theorem samePath_iff {a b : String} : samePath a b = true ↔ components a = components b := by
  rw [samePath, beq_iff_eq]

/-- Two texts that stand neither before nor behind each other are the same path. -/
theorem samePath_of_pathLe {a b : String} (hab : pathLe a b = true) (hba : pathLe b a = true) :
    samePath a b = true := by
  rw [pathLe_eq_isLE] at hab hba
  exact samePath_iff.2 (LawfulEqCmp.eq_of_compare (OrientedCmp.isLE_antisymm hab hba))

/-- The same path in two spellings is in order with itself. -/
theorem pathLe_of_samePath {a b : String} (h : samePath a b = true) : pathLe a b = true := by
  have hself : List.compareLex Component.cmp (components b) (components b) = .eq :=
    Std.ReflCmp.compare_self
  rw [pathLe_eq_isLE, samePath_iff.1 h, hself]
  rfl

/-- Nothing is added or moved when repetitions are dropped. -/
theorem dropRepeated_sublist (paths : List String) : (dropRepeated paths).Sublist paths := by
  fun_induction dropRepeated paths with
  | case1 => exact .slnil
  | case2 a => exact .refl _
  | case3 a b rest h ih => exact ih.trans ((List.sublist_cons_self b rest).cons_cons a)
  | case4 a b rest h ih => exact ih.cons_cons a

/-- In a sorted list of paths, dropping repeated ones leaves each path once. -/
theorem dropRepeated_pairwise {paths : List String} (sorted : paths.Pairwise (pathLe · ·)) :
    (dropRepeated paths).Pairwise fun a b => pathLe a b = true ∧ samePath a b = false := by
  fun_induction dropRepeated paths with
  | case1 => exact .nil
  | case2 a => exact List.pairwise_singleton _ a
  | case3 a b rest h ih =>
    exact ih (sorted.sublist ((List.sublist_cons_self b rest).cons_cons a))
  | case4 a b rest h ih =>
    have hb : pathLe a b = true := List.rel_of_pairwise_cons sorted List.mem_cons_self
    refine List.pairwise_cons.2 ⟨fun c hc => ?_, ih sorted.tail⟩
    have hc : c ∈ b :: rest := (dropRepeated_sublist (b :: rest)).mem hc
    refine ⟨List.rel_of_pairwise_cons sorted hc, ?_⟩
    -- `b` stands between `a` and `c`, so it would be the same path as well
    by_contra hsame
    have hca : pathLe c a = true := by
      refine pathLe_of_samePath (samePath_iff.2 ?_)
      exact (samePath_iff.1 ((Bool.not_eq_false _).mp hsame)).symm
    have hbc : pathLe b c = true := by
      rcases List.mem_cons.1 hc with rfl | hc
      · exact pathLe_of_samePath (samePath_iff.2 rfl)
      · exact List.rel_of_pairwise_cons sorted.tail hc
    exact h (samePath_of_pathLe hb (pathLe_trans b c a hbc hca))

/-- The sources that a walk finds stand in the order of paths, each path once. -/
theorem Tree.walk_pairwise (t : Tree) (base roots : List String) :
    (t.walk base roots).Pairwise fun a b => pathLe a b = true ∧ samePath a b = false :=
  dropRepeated_pairwise (List.pairwise_mergeSort pathLe_trans pathLe_total _)

/-- Every path of a walk was found under one of its roots. -/
theorem Tree.mem_sourcesUnder_of_mem_walk {t : Tree} {base roots : List String} {path : String}
    (h : path ∈ t.walk base roots) : ∃ root ∈ roots, path ∈ t.sourcesUnder base root := by
  have hsub := (dropRepeated_sublist _).mem h
  exact List.mem_flatMap.1 (List.mem_mergeSort.1 hsub)

end Files
end RequiredArgs
