/-
# The outcome of a scope

A declaration is put to the six gates of a rule in order, and to the patterns of a gate in order, and
both stop early: a list at the first pattern that matches or cannot be used, the gates at the first
one that is shut or broken. This file says what comes of it without running it.

`Pattern.Misses` is what lets a list go on, and `Reaches` says that a list gets as far as a pattern
with some property. With these a gate stands open (`Rule.Opens`), is shut (`Rule.Shuts`) or breaks on
a pattern (`Rule.Breaks`), and the three are the outcomes of `Rule.passes`. A run over gates ends at
the first one that is not open (`Rule.passesAll_eq_iff`), which gives the outcome of the whole scope.
-/

import RequiredArgs.Scope

namespace RequiredArgs

namespace Pattern

/-- The pattern can be used. -/
def Compiles (p : String) : Prop := ∃ e, compile p = .ok e

/-- The pattern can be used and matches the candidate. -/
def Matches (p candidate : String) : Prop := ∃ e, compile p = .ok e ∧ e.isMatch candidate = true

/-- The pattern can be used and does not match the candidate. -/
def Misses (p candidate : String) : Prop := Compiles p ∧ ¬Matches p candidate

/-- Only a pattern that can be used can match. -/
theorem Matches.compiles {p candidate : String} (h : Matches p candidate) : Compiles p := by
  obtain ⟨e, he, -⟩ := h
  exact ⟨e, he⟩

/-- A pattern that cannot be used has no expression. -/
theorem not_compiles {p : String} {cause : CompileError} (h : compile p = .error cause) :
    ¬Compiles p := by
  rintro ⟨e, he⟩
  rw [h] at he
  cases he

/-- A pattern cannot be used, or it matches, or it misses. -/
theorem error_or_matches_or_misses (p candidate : String) :
    (∃ cause, compile p = .error cause) ∨ Matches p candidate ∨ Misses p candidate := by
  cases hp : compile p with
  | error cause => exact .inl ⟨cause, rfl⟩
  | ok e =>
    by_cases hm : Matches p candidate
    · exact .inr (.inl hm)
    · exact .inr (.inr ⟨⟨e, hp⟩, hm⟩)

end Pattern

open Pattern (Compiles Matches Misses)

/-- The list is tried as far as a pattern with the property: those in front of it miss. -/
def Reaches (candidate : String) (P : String → Prop) (ps : List String) : Prop :=
  ∃ before p after, ps = before ++ p :: after ∧ (∀ q ∈ before, Misses q candidate) ∧ P p

/-- In an empty list nothing is reached. -/
theorem not_reaches_nil (candidate : String) (P : String → Prop) : ¬Reaches candidate P [] := by
  rintro ⟨before, p, after, h, -⟩
  exact absurd h.symm (List.append_ne_nil_of_right_ne_nil before (List.cons_ne_nil p after))

/-- One step along a list: the first pattern has the property, or it misses and the rest of the list
is tried. -/
theorem reaches_cons {candidate : String} {P : String → Prop} {p : String} {ps : List String} :
    Reaches candidate P (p :: ps) ↔ P p ∨ (Misses p candidate ∧ Reaches candidate P ps) := by
  constructor
  · rintro ⟨before, q, after, h, hmiss, hq⟩
    cases before with
    | nil =>
      obtain ⟨rfl, -⟩ := List.cons.inj h
      exact .inl hq
    | cons b before =>
      obtain ⟨rfl, rfl⟩ := List.cons.inj h
      rw [List.forall_mem_cons] at hmiss
      exact .inr ⟨hmiss.1, before, q, after, rfl, hmiss.2, hq⟩
  · rintro (hp | ⟨hmiss, before, q, after, rfl, hbefore, hq⟩)
    · exact ⟨[], p, ps, rfl, by simp, hp⟩
    · exact ⟨p :: before, q, after, rfl, List.forall_mem_cons.2 ⟨hmiss, hbefore⟩, hq⟩

namespace Gate

/-- A pattern that cannot be used ends the search with an error that names it and its gate. -/
theorem anyMatch_cons_of_error (g : Gate) (candidate : String) {p : String} (ps : List String)
    {cause : Pattern.CompileError} (h : Pattern.compile p = .error cause) :
    g.anyMatch candidate (p :: ps) = .error { gate := g, pattern := p, cause } := by
  rw [anyMatch, h]

/-- A match ends the search, and what stands behind it is not looked at. -/
theorem anyMatch_cons_of_matches (g : Gate) {candidate p : String} (ps : List String)
    (h : Matches p candidate) : g.anyMatch candidate (p :: ps) = .ok true := by
  obtain ⟨e, he, hm⟩ := h
  rw [anyMatch, he]
  exact if_pos hm

/-- A miss passes the search on to the rest of the list. -/
theorem anyMatch_cons_of_misses (g : Gate) {candidate p : String} (ps : List String)
    (h : Misses p candidate) : g.anyMatch candidate (p :: ps) = g.anyMatch candidate ps := by
  obtain ⟨⟨e, he⟩, hm⟩ := h
  rw [anyMatch, he]
  exact if_neg fun hmatch => hm ⟨e, he, hmatch⟩

/-- A search finds a match exactly if it reaches one. -/
theorem anyMatch_eq_true_iff (g : Gate) (candidate : String) (ps : List String) :
    g.anyMatch candidate ps = .ok true ↔ Reaches candidate (Matches · candidate) ps := by
  induction ps with
  | nil => simp [anyMatch, not_reaches_nil]
  | cons p ps ih =>
    rw [reaches_cons]
    rcases Pattern.error_or_matches_or_misses p candidate with ⟨cause, hp⟩ | hp | hp
    · have hc := Pattern.not_compiles hp
      rw [g.anyMatch_cons_of_error candidate ps hp]
      refine iff_of_false (by simp) ?_
      rintro (hm | ⟨hm, -⟩)
      · exact hc hm.compiles
      · exact hc hm.1
    · rw [g.anyMatch_cons_of_matches ps hp]
      exact iff_of_true rfl (.inl hp)
    · rw [g.anyMatch_cons_of_misses ps hp, ih, or_iff_right hp.2, and_iff_right hp]

/-- A search finds no match exactly if every pattern of the list can be used and misses. -/
theorem anyMatch_eq_false_iff (g : Gate) (candidate : String) (ps : List String) :
    g.anyMatch candidate ps = .ok false ↔ ∀ p ∈ ps, Misses p candidate := by
  induction ps with
  | nil => simp [anyMatch]
  | cons p ps ih =>
    rw [List.forall_mem_cons]
    rcases Pattern.error_or_matches_or_misses p candidate with ⟨cause, hp⟩ | hp | hp
    · rw [g.anyMatch_cons_of_error candidate ps hp]
      exact iff_of_false (by simp) fun hm => Pattern.not_compiles hp hm.1.1
    · rw [g.anyMatch_cons_of_matches ps hp]
      exact iff_of_false (by simp) fun hm => hm.1.2 hp
    · rw [g.anyMatch_cons_of_misses ps hp, ih, and_iff_right hp]

/-- A search fails on a pattern exactly if it reaches that pattern and the pattern cannot be used.
-/
theorem anyMatch_eq_error_iff (g : Gate) (candidate : String) (ps : List String) (e : ScopeError) :
    g.anyMatch candidate ps = .error e ↔ e.gate = g ∧
      Reaches candidate (fun p => p = e.pattern ∧ Pattern.compile p = .error e.cause) ps := by
  induction ps with
  | nil => simp [anyMatch, not_reaches_nil]
  | cons p ps ih =>
    rw [reaches_cons]
    rcases Pattern.error_or_matches_or_misses p candidate with ⟨cause, hp⟩ | hp | hp
    · rw [g.anyMatch_cons_of_error candidate ps hp, Except.error.injEq]
      constructor
      · rintro rfl
        exact ⟨rfl, .inl ⟨rfl, hp⟩⟩
      · rintro ⟨rfl, ⟨rfl, hc⟩ | ⟨hm, -⟩⟩
        · obtain rfl := Except.error.inj (hp.symm.trans hc)
          rfl
        · exact absurd hm.1 (Pattern.not_compiles hp)
    · rw [g.anyMatch_cons_of_matches ps hp]
      refine iff_of_false (by simp) ?_
      rintro ⟨-, ⟨-, hc⟩ | ⟨hm, -⟩⟩
      · exact Pattern.not_compiles hc hp.compiles
      · exact hm.2 hp
    · have hc : ¬(p = e.pattern ∧ Pattern.compile p = .error e.cause) := fun hc =>
        Pattern.not_compiles hc.2 hp.1
      rw [g.anyMatch_cons_of_misses ps hp, ih, or_iff_right hc, and_iff_right hp]

end Gate

namespace Rule

/-- The gate lets the declaration through. An including gate has no patterns or finds a match, an
excluding gate finds none; no pattern that is tried is one that cannot be used. -/
def Opens (r : Rule) (t : Target) (g : Gate) : Prop :=
  if g.isInclude then
    r.patterns g = [] ∨ Reaches (g.candidate t) (Matches · (g.candidate t)) (r.patterns g)
  else ∀ p ∈ r.patterns g, Misses p (g.candidate t)

/-- The gate turns the declaration away. An including gate has patterns and finds no match, an
excluding gate finds one; no pattern that is tried is one that cannot be used. -/
def Shuts (r : Rule) (t : Target) (g : Gate) : Prop :=
  if g.isInclude then r.patterns g ≠ [] ∧ ∀ p ∈ r.patterns g, Misses p (g.candidate t)
  else Reaches (g.candidate t) (Matches · (g.candidate t)) (r.patterns g)

/-- The pattern is the first of the gate that cannot be used, and none in front of it matches. -/
def Breaks (r : Rule) (t : Target) (g : Gate) (pattern : String) (cause : Pattern.CompileError) :
    Prop :=
  Reaches (g.candidate t) (fun p => p = pattern ∧ Pattern.compile p = .error cause) (r.patterns g)

variable {r : Rule} {t : Target} {g : Gate}

/-- A gate without patterns lets everything through, whether it includes or excludes. -/
theorem passes_of_nil (h : r.patterns g = []) : r.passes t g = .ok true := by
  rw [passes, h]

/-- A gate with patterns decides by its search: an including gate as the search says, an excluding
gate the other way. -/
theorem passes_eq_ok_iff (h : r.patterns g ≠ []) (b : Bool) : r.passes t g = .ok b ↔
    g.anyMatch (g.candidate t) (r.patterns g) = .ok (b == g.isInclude) := by
  rw [passes]
  split
  · contradiction
  · cases g.anyMatch (g.candidate t) (r.patterns g) with
    | error e => simp
    | ok found => cases found <;> cases b <;> cases g.isInclude <;> simp

/-- A gate lets a declaration through exactly if it stands open. -/
theorem passes_eq_true_iff : r.passes t g = .ok true ↔ r.Opens t g := by
  unfold Opens
  by_cases hps : r.patterns g = []
  · rw [passes_of_nil hps, hps]
    refine iff_of_true rfl ?_
    split
    · exact .inl rfl
    · simp
  · rw [passes_eq_ok_iff hps]
    cases g.isInclude with
    | true => rw [if_pos rfl, or_iff_right hps]; exact g.anyMatch_eq_true_iff _ _
    | false => rw [if_neg (by simp)]; exact g.anyMatch_eq_false_iff _ _

/-- A gate turns a declaration away exactly if it is shut. -/
theorem passes_eq_false_iff : r.passes t g = .ok false ↔ r.Shuts t g := by
  unfold Shuts
  by_cases hps : r.patterns g = []
  · rw [passes_of_nil hps, hps]
    refine iff_of_false (by simp) ?_
    split
    · exact fun h => h.1 rfl
    · exact not_reaches_nil _ _
  · rw [passes_eq_ok_iff hps]
    cases g.isInclude with
    | true => rw [if_pos rfl, and_iff_right hps]; exact g.anyMatch_eq_false_iff _ _
    | false => rw [if_neg (by simp)]; exact g.anyMatch_eq_true_iff _ _

/-- A gate fails exactly on the pattern that it breaks on, and the error names the gate. -/
theorem passes_eq_error_iff {e : ScopeError} :
    r.passes t g = .error e ↔ e.gate = g ∧ r.Breaks t g e.pattern e.cause := by
  rw [Breaks, ← g.anyMatch_eq_error_iff, passes]
  split
  · rename_i hps
    rw [hps]
    simp [Gate.anyMatch]
  · cases g.anyMatch (g.candidate t) (r.patterns g) <;> simp

/-- Behind an open gate the next gates decide. -/
theorem passesAll_cons_of_opens (h : r.Opens t g) (gs : List Gate) :
    r.passesAll t (g :: gs) = r.passesAll t gs := by
  rw [passesAll, passes_eq_true_iff.2 h]

/-- A gate that does not stand open decides, and the gates behind it are not asked. -/
theorem passesAll_cons_of_not_opens (h : ¬r.Opens t g) (gs : List Gate) :
    r.passesAll t (g :: gs) = r.passes t g := by
  rw [← passes_eq_true_iff] at h
  rw [passesAll]
  split
  · contradiction
  · rename_i hg
    exact hg.symm
  · rename_i hg
    exact hg.symm

/-- A run over gates lets a declaration through exactly if all of them stand open. -/
theorem passesAll_eq_true_iff (gs : List Gate) :
    r.passesAll t gs = .ok true ↔ ∀ g ∈ gs, r.Opens t g := by
  induction gs with
  | nil => simp [passesAll]
  | cons g gs ih =>
    rw [List.forall_mem_cons]
    by_cases hg : r.Opens t g
    · rw [passesAll_cons_of_opens hg, ih, and_iff_right hg]
    · rw [passesAll_cons_of_not_opens hg, passes_eq_true_iff]
      exact iff_of_false hg fun h => hg h.1

/-- Every other outcome is that of the first gate that does not stand open. -/
theorem passesAll_eq_iff {out : Except ScopeError Bool} (hout : out ≠ .ok true) (gs : List Gate) :
    r.passesAll t gs = out ↔ ∃ earlier g later, gs = earlier ++ g :: later ∧
      (∀ g' ∈ earlier, r.Opens t g') ∧ r.passes t g = out := by
  induction gs with
  | nil =>
    refine iff_of_false hout.symm ?_
    rintro ⟨earlier, g, later, h, -⟩
    exact absurd h.symm (List.append_ne_nil_of_right_ne_nil earlier (List.cons_ne_nil g later))
  | cons g gs ih =>
    by_cases hg : r.Opens t g
    · rw [passesAll_cons_of_opens hg, ih]
      constructor
      · rintro ⟨earlier, g', later, rfl, hopen, hp⟩
        exact ⟨g :: earlier, g', later, rfl, List.forall_mem_cons.2 ⟨hg, hopen⟩, hp⟩
      · rintro ⟨earlier, g', later, h, hopen, hp⟩
        cases earlier with
        | nil =>
          obtain ⟨rfl, -⟩ := List.cons.inj h
          exact absurd (hp.symm.trans (passes_eq_true_iff.2 hg)) hout
        | cons first earlier =>
          obtain ⟨rfl, rfl⟩ := List.cons.inj h
          exact ⟨earlier, g', later, rfl, (List.forall_mem_cons.1 hopen).2, hp⟩
    · rw [passesAll_cons_of_not_opens hg]
      constructor
      · exact fun hp => ⟨[], g, gs, rfl, by simp, hp⟩
      · rintro ⟨earlier, g', later, h, hopen, hp⟩
        cases earlier with
        | nil =>
          obtain ⟨rfl, -⟩ := List.cons.inj h
          exact hp
        | cons first earlier =>
          obtain ⟨rfl, -⟩ := List.cons.inj h
          exact absurd (List.forall_mem_cons.1 hopen).1 hg

/-- A gate whose patterns can all be used turns the declaration away: it includes, has patterns and
none of them matches, or it excludes and one of them does. -/
def Rejects (r : Rule) (t : Target) (g : Gate) : Prop :=
  (∀ p ∈ r.patterns g, Compiles p) ∧
    if g.isInclude then r.patterns g ≠ [] ∧ ∀ p ∈ r.patterns g, ¬Matches p (g.candidate t)
    else ∃ p ∈ r.patterns g, Matches p (g.candidate t)

/-- A gate that rejects a declaration does not stand open for it. -/
theorem Rejects.not_opens (h : r.Rejects t g) : ¬r.Opens t g := by
  obtain ⟨-, h⟩ := h
  unfold Opens
  split at h
  · rw [if_pos ‹_›]
    rintro (hnil | ⟨before, p, after, hps, -, hm⟩)
    · exact h.1 hnil
    · exact h.2 p (by rw [hps]; simp) hm
  · rw [if_neg ‹_›]
    obtain ⟨p, hp, hm⟩ := h
    exact fun hmiss => (hmiss p hp).2 hm

/-- **The outcome of a scope.** There are six gates, in the order of the table: each has its own list
of the rule, looks at one name of the declaration, and includes or excludes. The scope fails on a
pattern if that is the first of its gate that cannot be used, none in front of it matches and all gates
before stand open; it turns a declaration away if the first gate that does not stand open is shut; and
it lets a declaration through if all gates stand open. So what a gate with usable patterns rejects is
never in scope, whatever the other gates hold. -/
theorem applies_outcome (r : Rule) (t : Target) :
    Gate.all.map (fun g => (g.key, r.patterns g, g.candidate t, g.isInclude)) =
      [("file_patterns", r.filePatterns, t.file, true),
       ("ignore_file_patterns", r.ignoreFilePatterns, t.file, false),
       ("func_patterns", r.funcPatterns, t.func, true),
       ("ignore_func_patterns", r.ignoreFuncPatterns, t.func, false),
       ("recv_patterns", r.recvPatterns, t.recv, true),
       ("ignore_recv_patterns", r.ignoreRecvPatterns, t.recv, false)] ∧
    (∀ e, r.applies t = .error e ↔ ∃ earlier later, Gate.all = earlier ++ e.gate :: later ∧
      (∀ g ∈ earlier, r.Opens t g) ∧ r.Breaks t e.gate e.pattern e.cause) ∧
    (r.applies t = .ok false ↔ ∃ earlier g later, Gate.all = earlier ++ g :: later ∧
      (∀ g' ∈ earlier, r.Opens t g') ∧ r.Shuts t g) ∧
    (r.applies t = .ok true ↔ ∀ g, r.Opens t g) ∧
    ∀ g, ¬(r.Rejects t g ∧ r.applies t = .ok true) := by
  have hall : r.applies t = .ok true ↔ ∀ g, r.Opens t g := by
    rw [applies, passesAll_eq_true_iff]
    exact ⟨fun h g => h g (by cases g <;> decide), fun h g _ => h g⟩
  refine ⟨rfl, fun e => ?_, ?_, hall, fun g ⟨hr, ht⟩ => hr.not_opens (hall.1 ht g)⟩
  · rw [applies, passesAll_eq_iff (by simp)]
    constructor
    · rintro ⟨earlier, g, later, hgates, hopen, hp⟩
      obtain ⟨rfl, hbreak⟩ := passes_eq_error_iff.1 hp
      exact ⟨earlier, later, hgates, hopen, hbreak⟩
    · rintro ⟨earlier, later, hgates, hopen, hbreak⟩
      exact ⟨earlier, e.gate, later, hgates, hopen, passes_eq_error_iff.2 ⟨rfl, hbreak⟩⟩
  · rw [applies, passesAll_eq_iff (by simp)]
    simp only [passes_eq_false_iff]

/-- For `a_test.go`: a match to exclude is reached in front of a pattern that cannot be used, and the
gates behind are not asked; with the two the other way round, and the gate before open, the scope
fails. -/
theorem applies_outcome_test_file :
    let t : Target := { file := "a_test.go", func := "Get", recv := "" }
    let shut : Rule := { ignoreFilePatterns := ["_test", "(("], funcPatterns := ["("] }
    let broken : Rule := { filePatterns := ["go$"], ignoreFilePatterns := ["^b", "((", "_test"] }
    (shut.Shuts t .fileExclude ∧ shut.applies t = .ok false) ∧
    broken.Opens t .fileInclude ∧ ∃ cause,
      broken.Breaks t .fileExclude "((" cause ∧
      broken.applies t = .error { gate := .fileExclude, pattern := "((", cause } := by
  intro t shut broken
  have hunscoped : shut.Opens t .fileInclude := .inl rfl
  have hshut : shut.Shuts t .fileExclude := passes_eq_false_iff.1 (by unfold shut t; rfl)
  have hopen : broken.Opens t .fileInclude := passes_eq_true_iff.1 (by unfold broken t; rfl)
  obtain ⟨cause, hcause⟩ : ∃ cause, broken.passes t .fileExclude =
      .error { gate := .fileExclude, pattern := "((", cause } := by
    unfold broken t
    exact ⟨_, rfl⟩
  have hbreaks : broken.Breaks t .fileExclude "((" cause := (passes_eq_error_iff.1 hcause).2
  obtain ⟨-, -, shuts, -⟩ := applies_outcome shut t
  obtain ⟨-, fails, -⟩ := applies_outcome broken t
  refine ⟨⟨hshut, shuts.2 ⟨[.fileInclude], .fileExclude, _, rfl, ?_, hshut⟩⟩, hopen, cause, hbreaks,
    (fails { gate := .fileExclude, pattern := "((", cause }).2 ⟨[.fileInclude], _, rfl, ?_, hbreaks⟩⟩
  · exact List.forall_mem_singleton.2 hunscoped
  · exact List.forall_mem_singleton.2 hopen

end Rule

end RequiredArgs
