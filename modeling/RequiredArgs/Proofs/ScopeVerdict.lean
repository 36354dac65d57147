/-
# The verdict of a scope and the order of its patterns

A list of patterns is tried in order and only as far as needed, so another order can reach a pattern that
cannot be used, or no longer reach it: a verdict can become an error and an error a verdict. But it cannot
become the other verdict.

`Rule.Admits` says what a gate stands for when all of its patterns are looked at together. A gate that
stands open admits the declaration and one that is shut does not, in whatever order it came to that, so
that every verdict of a scope is the answer of `Admits` (`Rule.verdict_iff_admits`). What is true of the
patterns as sets is then true of the verdicts: their order and number do not matter, one more pattern to
include shuts out nothing and one more to exclude lets nothing in (`Rule.verdict_of_patterns`).
-/

import RequiredArgs.Proofs.ScopeOutcome

namespace RequiredArgs

open Pattern (Compiles Matches)

namespace Rule

/-- The patterns of the gate, taken together, are for the declaration: an including gate has none or has
one that matches, an excluding gate has none that matches. -/
def Admits (r : Rule) (t : Target) (g : Gate) : Prop :=
  if g.isInclude then r.patterns g = [] ∨ ∃ p ∈ r.patterns g, Matches p (g.candidate t)
  else ∀ p ∈ r.patterns g, ¬Matches p (g.candidate t)

/-- All patterns of the rule can be used. -/
def AllCompile (r : Rule) : Prop := ∀ g, ∀ p ∈ r.patterns g, Compiles p

/-- Each gate has the same patterns in both rules, in any order and any number of times. -/
def SamePatterns (r r' : Rule) : Prop := ∀ g p, p ∈ r.patterns g ↔ p ∈ r'.patterns g

/-- The second rule has one more pattern in the list of the gate, at any place, and else the lists of the
first. -/
structure Adds (r r' : Rule) (g : Gate) (p : String) : Prop where
  inserted : ∃ before after, r.patterns g = before ++ after ∧ r'.patterns g = before ++ p :: after
  elsewhere : ∀ g', g' ≠ g → r'.patterns g' = r.patterns g'

variable {r r' : Rule} {t : Target} {g : Gate}

/-! ### Verdicts -/

/-- An open gate admits the declaration, whichever of its patterns were tried. -/
theorem Opens.admits (h : r.Opens t g) : r.Admits t g := by
  unfold Opens at h
  unfold Admits
  split at h
  · rename_i hinc
    rw [if_pos hinc]
    rcases h with hnil | ⟨before, p, after, hps, -, hm⟩
    · exact .inl hnil
    · exact .inr ⟨p, by rw [hps]; simp, hm⟩
  · rename_i hinc
    rw [if_neg hinc]
    intro p hp
    exact (h p hp).2

/-- A shut gate does not admit the declaration. -/
theorem Shuts.not_admits (h : r.Shuts t g) : ¬r.Admits t g := by
  unfold Shuts at h
  unfold Admits
  split at h
  · rename_i hinc
    rw [if_pos hinc]
    rintro (hnil | ⟨p, hp, hm⟩)
    · exact h.1 hnil
    · exact (h.2 p hp).2 hm
  · rename_i hinc
    rw [if_neg hinc]
    obtain ⟨before, p, after, hps, -, hm⟩ := h
    exact fun hmiss => hmiss p (by rw [hps]; simp) hm

/-- If a scope comes to a verdict, it is that of the patterns taken together. -/
theorem verdict_iff_admits {b : Bool} (h : r.applies t = .ok b) :
    b = true ↔ ∀ g, r.Admits t g := by
  cases b with
  | true =>
    have hopen := (passesAll_eq_true_iff Gate.all).1 h
    have hall : ∀ g, g ∈ Gate.all := by
      intro g
      cases g <;> decide
    exact iff_of_true rfl fun g => (hopen g (hall g)).admits
  | false =>
    obtain ⟨earlier, g, later, -, -, hg⟩ := (passesAll_eq_iff (by simp) Gate.all).1 h
    exact iff_of_false Bool.false_ne_true fun hadmits =>
      (passes_eq_false_iff.1 hg).not_admits (hadmits g)

/-- Patterns that can all be used lead to a verdict. -/
theorem AllCompile.exists_verdict (h : r.AllCompile) (t : Target) : ∃ b, r.applies t = .ok b := by
  cases hout : r.applies t with
  | ok b => exact ⟨b, rfl⟩
  | error e =>
    obtain ⟨earlier, g, later, -, -, hg⟩ := (passesAll_eq_iff (by simp) Gate.all).1 hout
    obtain ⟨-, before, p, after, hps, -, -, hc⟩ := passes_eq_error_iff.1 hg
    have hp : p ∈ r.patterns g := by
      rw [hps]
      simp
    exact absurd (h g p hp) (Pattern.not_compiles hc)

/-- So among patterns that can all be used the verdict is that of the patterns taken together. -/
theorem AllCompile.applies_eq (h : r.AllCompile) {b : Bool}
    (hb : b = true ↔ ∀ g, r.Admits t g) : r.applies t = .ok b := by
  obtain ⟨b', hb'⟩ := h.exists_verdict t
  obtain rfl : b = b' := Bool.eq_iff_iff.2 (hb.trans (verdict_iff_admits hb').symm)
  exact hb'

/-! ### Patterns as sets -/

/-- What a gate admits depends on the set of its patterns only. -/
theorem SamePatterns.admits_iff (h : r.SamePatterns r') : r.Admits t g ↔ r'.Admits t g := by
  have hnil : r.patterns g = [] ↔ r'.patterns g = [] := by
    simp only [List.eq_nil_iff_forall_not_mem, h g]
  simp only [Admits, hnil, h g]

/-- Whether all patterns can be used depends on the set of patterns only. -/
theorem SamePatterns.allCompile (h : r.SamePatterns r') (hc : r.AllCompile) : r'.AllCompile :=
  fun g p hp => hc g p ((h g p).2 hp)

/-- An added pattern leaves the others where they were. -/
theorem Adds.mem_of_mem {p q : String} (h : r.Adds r' g p) (hq : q ∈ r.patterns g) :
    q ∈ r'.patterns g := by
  obtain ⟨before, after, hr, hr'⟩ := h.inserted
  rw [hr, List.mem_append] at hq
  rw [hr', List.mem_append, List.mem_cons]
  exact hq.imp_right .inr

/-- One more pattern to include, beside others, shuts nothing out. -/
theorem Adds.admits_include {p : String} (h : r.Adds r' g p) (hinc : g.isInclude = true)
    (hne : r.patterns g ≠ []) (hr : r.Admits t g) : r'.Admits t g := by
  rw [Admits, if_pos hinc] at hr ⊢
  rcases hr with hnil | ⟨q, hq, hm⟩
  · exact absurd hnil hne
  · exact .inr ⟨q, h.mem_of_mem hq, hm⟩

/-- One more pattern to exclude lets nothing in. -/
theorem Adds.admits_exclude {p : String} (h : r.Adds r' g p) (hexc : g.isInclude = false)
    (hr' : r'.Admits t g) : r.Admits t g := by
  have hnot : ¬g.isInclude = true := by simp [hexc]
  rw [Admits, if_neg hnot] at hr' ⊢
  exact fun q hq => hr' q (h.mem_of_mem hq)

/-- A change to the list of one gate matters at that gate only. -/
theorem forall_admits_of_gate (helse : ∀ g', g' ≠ g → r'.patterns g' = r.patterns g')
    (hgate : r.Admits t g → r'.Admits t g) (hr : ∀ g', r.Admits t g') (g' : Gate) :
    r'.Admits t g' := by
  by_cases hg : g' = g
  · subst hg
    exact hgate (hr g')
  · have hg' := hr g'
    rwa [Admits, ← helse g' hg] at hg'

/-- The verdict of a scope depends on which patterns its gates have, not on their order or number, even
if some of them cannot be used: two rules with the same patterns never come to different verdicts, and if
all patterns can be used, both come to the same. One more pattern in a list to include that has some
never turns a declaration away that was let through, and one more in a list to exclude never lets one
through that was turned away; if all patterns can be used, the verdict stays. -/
theorem verdict_of_patterns (r r' : Rule) (t : Target) :
    (r.SamePatterns r' → ∀ b b', r.applies t = .ok b → r'.applies t = .ok b' → b = b') ∧
    (r.SamePatterns r' → r.AllCompile → ∃ b, r.applies t = .ok b ∧ r'.applies t = .ok b) ∧
    (∀ g p, r.Adds r' g p → g.isInclude = true → r.patterns g ≠ [] → r.applies t = .ok true →
      r'.applies t ≠ .ok false ∧ (r'.AllCompile → r'.applies t = .ok true)) ∧
    ∀ g p, r.Adds r' g p → g.isInclude = false → r.applies t = .ok false →
      r'.applies t ≠ .ok true ∧ (r'.AllCompile → r'.applies t = .ok false) := by
  have hsame : r.SamePatterns r' → ((∀ g, r.Admits t g) ↔ ∀ g, r'.Admits t g) := fun h =>
    forall_congr' fun g => h.admits_iff
  refine ⟨?_, ?_, ?_, ?_⟩
  · intro h b b' hb hb'
    exact Bool.eq_iff_iff.2
      ((verdict_iff_admits hb).trans ((hsame h).trans (verdict_iff_admits hb').symm))
  · intro h hc
    obtain ⟨b, hb⟩ := hc.exists_verdict t
    exact ⟨b, hb, (h.allCompile hc).applies_eq ((verdict_iff_admits hb).trans (hsame h))⟩
  · intro g p h hinc hne hb
    have hadmits : ∀ g', r'.Admits t g' :=
      forall_admits_of_gate h.elsewhere (h.admits_include hinc hne) ((verdict_iff_admits hb).1 rfl)
    refine ⟨fun hb' => ?_, fun hc => hc.applies_eq (iff_of_true rfl hadmits)⟩
    exact absurd ((verdict_iff_admits hb').2 hadmits) Bool.false_ne_true
  · intro g p h hexc hb
    have hback : (∀ g', r'.Admits t g') → ∀ g', r.Admits t g' :=
      forall_admits_of_gate (fun g' hg => (h.elsewhere g' hg).symm) (h.admits_exclude hexc)
    have hnot : ¬∀ g', r'.Admits t g' := fun hadmits =>
      absurd ((verdict_iff_admits hb).2 (hback hadmits)) Bool.false_ne_true
    refine ⟨fun hb' => hnot ((verdict_iff_admits hb').1 rfl), fun hc => ?_⟩
    exact hc.applies_eq (iff_of_false Bool.false_ne_true hnot)

/-- For `GetPost`: a pattern that cannot be used behind one that matches, with and without a repetition; one
more name to include, and one more to exclude. -/
theorem verdict_of_patterns_get :
    let t : Target := { file := "post.go", func := "GetPost", recv := "" }
    let broken : Rule := { funcPatterns := ["^Get", "("] }
    let repeated : Rule := { funcPatterns := ["^Get", "(", "^Get"] }
    let get : Rule := { funcPatterns := ["^Get"] }
    let putGet : Rule := { funcPatterns := ["^Put", "^Get"] }
    let getPut : Rule := { funcPatterns := ["^Get", "^Put"] }
    let noGet : Rule := { ignoreFuncPatterns := ["^Get"] }
    let noGetPost : Rule := { ignoreFuncPatterns := ["^Get", "Post$"] }
    (broken.SamePatterns repeated ∧ broken.applies t = .ok true ∧ repeated.applies t ≠ .ok false) ∧
    (putGet.SamePatterns getPut ∧ putGet.AllCompile ∧
      ∃ b, putGet.applies t = .ok b ∧ getPut.applies t = .ok b) ∧
    (get.Adds putGet .funcInclude "^Put" ∧ get.applies t = .ok true ∧ putGet.applies t = .ok true) ∧
    noGet.Adds noGetPost .funcExclude "Post$" ∧ noGet.applies t = .ok false ∧
      noGetPost.applies t = .ok false := by
  intro t broken repeated get putGet getPut noGet noGetPost
  have hrepeated : broken.SamePatterns repeated := by
    intro g p
    cases g with
    | funcInclude => simp only [patterns, broken, repeated, List.mem_cons, List.not_mem_nil]; grind
    | _ => exact Iff.rfl
  have hswapped : putGet.SamePatterns getPut := by
    intro g p
    cases g with
    | funcInclude => exact (List.Perm.swap "^Get" "^Put" []).mem_iff
    | _ => exact Iff.rfl
  have hputGet : putGet.AllCompile := by
    intro g
    cases g with
    | funcInclude => exact List.forall_mem_cons.2 ⟨⟨_, rfl⟩, List.forall_mem_singleton.2 ⟨_, rfl⟩⟩
    | _ => exact List.forall_mem_nil _
  have hnoGetPost : noGetPost.AllCompile := by
    intro g
    cases g with
    | funcExclude => exact List.forall_mem_cons.2 ⟨⟨_, rfl⟩, List.forall_mem_singleton.2 ⟨_, rfl⟩⟩
    | _ => exact List.forall_mem_nil _
  have hput : get.Adds putGet .funcInclude "^Put" := by
    refine ⟨⟨[], ["^Get"], rfl, rfl⟩, fun g hg => ?_⟩
    cases g with
    | funcInclude => exact absurd rfl hg
    | _ => rfl
  have hpost : noGet.Adds noGetPost .funcExclude "Post$" := by
    refine ⟨⟨["^Get"], [], rfl, rfl⟩, fun g hg => ?_⟩
    cases g with
    | funcExclude => exact absurd rfl hg
    | _ => rfl
  have hbroken : broken.applies t = .ok true := by unfold broken t; rfl
  have hget : get.applies t = .ok true := by unfold get t; rfl
  have hnoGet : noGet.applies t = .ok false := by unfold noGet t; rfl
  obtain ⟨same, -, -, -⟩ := verdict_of_patterns broken repeated t
  obtain ⟨-, both, -, -⟩ := verdict_of_patterns putGet getPut t
  obtain ⟨-, -, more, -⟩ := verdict_of_patterns get putGet t
  obtain ⟨-, -, -, less⟩ := verdict_of_patterns noGet noGetPost t
  refine ⟨⟨hrepeated, hbroken, ?_⟩, ⟨hswapped, hputGet, both hswapped hputGet⟩, ⟨hput, hget, ?_⟩, hpost,
    hnoGet, ?_⟩
  · intro hfalse
    cases same hrepeated true false hbroken hfalse
  · exact (more .funcInclude "^Put" hput rfl (by simp [patterns, get]) hget).2 hputGet
  · exact (less .funcExclude "Post$" hpost rfl hnoGet).2 hnoGetPost

/-- An error is not a verdict: in another order the pattern that cannot be used is reached first. -/
example : ∃ e, Rule.applies { funcPatterns := ["(", "^Get"] }
    { file := "post.go", func := "GetPost", recv := "" } = .error e := ⟨_, rfl⟩

end Rule
end RequiredArgs
