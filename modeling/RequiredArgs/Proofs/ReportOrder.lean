/-
# The order of a report

A report lists its diagnostics by file, then by the place of the declaration, then by rule, and keeps
the order in which they were found where all three agree. `Diagnostic.precedes` is that order: it is
total and transitive, but not antisymmetric, because two diagnostics can agree on the three keys and
still differ.

What a stable sort by such an order returns is fixed by the runs of ties in its input
(`mergeSort_eq_of_ties`). In a report tied diagnostics belong to one file, so its order is fixed by
what was found in each file (`Diagnostic.mergeSort_precedes_eq`).
-/

import Mathlib.Data.List.Sort
import Mathlib.Data.String.Basic
import RequiredArgs.Check

namespace RequiredArgs

section StableSort

variable {α : Type} {le : α → α → Bool}

/-- The members of a list that the order puts neither before nor behind `a`, as they stand. -/
def ties (le : α → α → Bool) (a : α) (l : List α) : List α := l.filter fun b => le a b && le b a

/-- A member ties with itself. -/
theorem mem_ties_self (total : ∀ a b, le a b || le b a) {a : α} {l : List α} (h : a ∈ l) :
    a ∈ ties le a l := by
  have hr : le a a = true := by simpa using total a a
  exact List.mem_filter.2 ⟨h, by rw [hr]; rfl⟩

/-- A sorted list is known by its runs of ties. -/
theorem eq_of_pairwise_of_ties (total : ∀ a b, le a b || le b a) :
    ∀ {l₁ l₂ : List α}, l₁.Pairwise (le · ·) → l₂.Pairwise (le · ·) →
      (∀ a, ties le a l₁ = ties le a l₂) → l₁ = l₂
  | [], [], _, _, _ => rfl
  | [], y :: l₂, _, _, h => by
      have hy := mem_ties_self total (List.mem_cons_self (a := y) (l := l₂))
      rw [← h y] at hy
      exact absurd hy List.not_mem_nil
  | x :: l₁, [], _, _, h => by
      have hx := mem_ties_self total (List.mem_cons_self (a := x) (l := l₁))
      rw [h x] at hx
      exact absurd hx List.not_mem_nil
  | x :: l₁, y :: l₂, h₁, h₂, h => by
      have hxx : le x x = true := by simpa using total x x
      have hyy : le y y = true := by simpa using total y y
      -- each head occurs in the other list, so the heads are tied and lead the same run
      have hx : x ∈ y :: l₂ := by
        have := mem_ties_self total (List.mem_cons_self (a := x) (l := l₁))
        rw [h x] at this
        exact (List.mem_filter.1 this).1
      have hy : y ∈ x :: l₁ := by
        have := mem_ties_self total (List.mem_cons_self (a := y) (l := l₂))
        rw [← h y] at this
        exact (List.mem_filter.1 this).1
      have hxy : le x y = true := by
        rcases List.mem_cons.1 hy with rfl | hy
        · exact hyy
        · exact List.rel_of_pairwise_cons h₁ hy
      have hyx : le y x = true := by
        rcases List.mem_cons.1 hx with rfl | hx
        · exact hxx
        · exact List.rel_of_pairwise_cons h₂ hx
      have hhead := h x
      simp only [ties, List.filter_cons, hxx, hxy, hyx, Bool.and_self, if_true,
        List.cons.injEq] at hhead
      obtain ⟨rfl, -⟩ := hhead
      refine congrArg (x :: ·) (eq_of_pairwise_of_ties total h₁.tail h₂.tail fun a => ?_)
      have ha := h a
      simp only [ties, List.filter_cons] at ha
      split at ha
      · exact (List.cons.inj ha).2
      · exact ha

/-- Sorting keeps every run of ties as it stands. -/
theorem ties_mergeSort (trans : ∀ a b c, le a b → le b c → le a c)
    (total : ∀ a b, le a b || le b a) (a : α) (l : List α) :
    ties le a (l.mergeSort le) = ties le a l := by
  have htied : (ties le a l).Pairwise (le · ·) := by
    refine List.pairwise_of_forall_mem_list fun b hb c hc => ?_
    obtain ⟨-, hb⟩ := List.mem_filter.1 hb
    obtain ⟨-, hc⟩ := List.mem_filter.1 hc
    rw [Bool.and_eq_true] at hb hc
    exact trans b a c hb.2 hc.1
  have hsub : (ties le a l).Sublist (l.mergeSort le) :=
    List.sublist_mergeSort trans total htied List.filter_sublist
  have hsub' : (ties le a l).Sublist (ties le a (l.mergeSort le)) := by
    simpa [ties, List.filter_filter] using hsub.filter fun b => le a b && le b a
  have hlen : (ties le a l).length = (ties le a (l.mergeSort le)).length :=
    ((List.mergeSort_perm l le).filter _).length_eq.symm
  exact (hsub'.eq_of_length hlen).symm

/-- Two lists with the same runs of ties are sorted into the same list. -/
theorem mergeSort_eq_of_ties (trans : ∀ a b c, le a b → le b c → le a c)
    (total : ∀ a b, le a b || le b a) {l₁ l₂ : List α} (h : ∀ a, ties le a l₁ = ties le a l₂) :
    l₁.mergeSort le = l₂.mergeSort le := by
  apply eq_of_pairwise_of_ties total
  · exact List.pairwise_mergeSort trans total l₁
  · exact List.pairwise_mergeSort trans total l₂
  · intro a
    rw [ties_mergeSort trans total, ties_mergeSort trans total, h a]

end StableSort

namespace Diagnostic

/-- The order of a report, key by key. -/
theorem precedes_iff {a b : Diagnostic} :
    a.precedes b = true ↔ a.file < b.file ∨ (a.file = b.file ∧
      (a.offset < b.offset ∨ (a.offset = b.offset ∧ a.ruleIndex ≤ b.ruleIndex))) := by
  simp only [precedes, Bool.or_eq_true, Bool.and_eq_true, decide_eq_true_eq, beq_iff_eq]

/-- The order of a report is transitive. -/
theorem precedes_trans (a b c : Diagnostic) (hab : a.precedes b = true)
    (hbc : b.precedes c = true) : a.precedes c = true := by
  rw [precedes_iff] at hab hbc ⊢
  rcases hab with hab | ⟨hf, hab⟩
  · rcases hbc with hbc | ⟨hf', -⟩
    · exact .inl (hab.trans hbc)
    · exact .inl (hf' ▸ hab)
  rcases hbc with hbc | ⟨hf', hbc⟩
  · exact .inl (hf ▸ hbc)
  refine .inr ⟨hf.trans hf', ?_⟩
  rcases hab with hab | ⟨ho, hab⟩
  · rcases hbc with hbc | ⟨ho', -⟩
    · exact .inl (UInt64.lt_trans hab hbc)
    · exact .inl (ho' ▸ hab)
  rcases hbc with hbc | ⟨ho', hbc⟩
  · exact .inl (ho ▸ hbc)
  · exact .inr ⟨ho.trans ho', hab.trans hbc⟩

/-- Any two diagnostics are in order one way or the other. -/
theorem precedes_total (a b : Diagnostic) : a.precedes b || b.precedes a := by
  rw [Bool.or_eq_true, precedes_iff, precedes_iff]
  rcases lt_trichotomy a.file b.file with hf | hf | hf
  · exact .inl (.inl hf)
  · by_cases ho : a.offset = b.offset
    · rcases le_total a.ruleIndex b.ruleIndex with hr | hr
      · exact .inl (.inr ⟨hf, .inr ⟨ho, hr⟩⟩)
      · exact .inr (.inr ⟨hf.symm, .inr ⟨ho.symm, hr⟩⟩)
    · rcases UInt64.lt_or_lt_of_ne ho with ho | ho
      · exact .inl (.inr ⟨hf, .inl ho⟩)
      · exact .inr (.inr ⟨hf.symm, .inl ho⟩)
  · exact .inr (.inl hf)

/-- Diagnostics that the order ties belong to one file. -/
theorem file_eq_of_precedes {a b : Diagnostic} (hab : a.precedes b = true)
    (hba : b.precedes a = true) : a.file = b.file := by
  rw [precedes_iff] at hab hba
  rcases hab with hab | ⟨hf, -⟩
  · rcases hba with hba | ⟨hf, -⟩
    · exact absurd hba hab.asymm
    · exact hf.symm
  · exact hf

/-- The order of a report is fixed by what was found in each file. -/
theorem mergeSort_precedes_eq {l₁ l₂ : List Diagnostic}
    (h : ∀ path, l₁.filter (·.file == path) = l₂.filter (·.file == path)) :
    l₁.mergeSort precedes = l₂.mergeSort precedes := by
  apply mergeSort_eq_of_ties precedes_trans precedes_total
  intro a
  have hties : ∀ l : List Diagnostic,
      ties precedes a l = ties precedes a (l.filter (·.file == a.file)) := by
    intro l
    rw [ties, ties, List.filter_filter]
    refine List.filter_congr fun b _ => ?_
    by_cases hb : (a.precedes b && b.precedes a) = true
    · have hf := file_eq_of_precedes (Bool.and_eq_true_iff.1 hb).1 (Bool.and_eq_true_iff.1 hb).2
      rw [hb, hf, beq_self_eq_true, Bool.and_self]
    · rw [Bool.not_eq_true] at hb
      rw [hb, Bool.false_and]
  rw [hties l₁, hties l₂, h a.file]

end Diagnostic

end RequiredArgs
