/-
# Indices that count from the end

A negative index `-k` stands for the slot `n - k`, where `n` is the number of descriptors. So it is a
second name for the index `n - k`, whatever slots the descriptors come from, and an index below `-n`
stands for no slot; the sum is taken in 64-bit words, and below `2 ^ 63` descriptors it is the sum of
the numbers (`Policy.isMet_negative_index`).

Slots are counted over all declared parameters and descriptors over the supported ones only. The
descriptor number `j` stands in a slot that is as far behind `j` as there are unsupported slots before it
(`FuncDecl.position_eq_add_unsupported`). Hence `-k` designates the `k`-th descriptor from the end exactly
if no unsupported slot comes before that descriptor, and otherwise a descriptor before it or none
(`FuncDecl.negative_index_designates`).
-/

import RequiredArgs.Proofs.ExtractedSlots

namespace RequiredArgs

open Go (FuncDecl ImportTable Shape SlotIn)

/-! ### The slot of an index in 64-bit words -/

/-- The test of an index on words: the count is read as a signed word, and the slot, if it is not
negative, as an unsigned one. -/
def indexMatchesWords (i : Int64) (position count : UInt64) : Bool :=
  let target := if 0 ≤ i then i else count.toInt64 + i
  decide (0 ≤ target) && target.toUInt64 == position

/-- The sign of a word is that of its number. -/
theorem not_nonneg_of_toInt_neg {i : Int64} (h : i.toInt < 0) : ¬ 0 ≤ i := by
  rw [Int64.le_iff_toInt_le, Int64.toInt_zero]
  omega

/-- The test of the sign adds nothing, since no slot is negative. -/
theorem indexMatches_some_iff (i : Int64) (position count : Nat) :
    indexMatches (some i) position count = true ↔ (targetSlot i count).toInt = position := by
  simp only [indexMatches, Bool.and_eq_true, decide_eq_true_eq, beq_iff_eq, Int64.le_iff_toInt_le,
    Int64.toInt_zero]
  omega

/-- An unsigned count read as a signed word is the word of its number. -/
theorem toInt64_eq_ofNat (count : UInt64) : count.toInt64 = Int64.ofNat count.toNat := by
  rw [← UInt64.toInt64_ofNat', UInt64.ofNat_toNat]

/-- A word that is not negative is the same number with and without a sign. -/
theorem toNat_toUInt64 {t : Int64} (h : 0 ≤ t) : (t.toUInt64.toNat : Int) = t.toInt := by
  rw [Int64.toNat_toUInt64_of_le h, ← Int64.toNat_toInt]
  rw [Int64.le_iff_toInt_le, Int64.toInt_zero] at h
  omega

/-- The test on numbers is the test on words, for all words. -/
theorem indexMatchesWords_eq (i : Int64) (position count : UInt64) :
    indexMatchesWords i position count = indexMatches (some i) position.toNat count.toNat := by
  have htarget : (if 0 ≤ i then i else count.toInt64 + i) = targetSlot i count.toNat := by
    rw [targetSlot, toInt64_eq_ofNat]
  simp only [indexMatchesWords, htarget, indexMatches]
  rw [Bool.eq_iff_iff]
  simp only [Bool.and_eq_true, decide_eq_true_eq, beq_iff_eq]
  refine and_congr_right fun h => ?_
  rw [← UInt64.toNat_inj, ← toNat_toUInt64 h]
  omega

/-- The index `-k` and the index `count - k` stand for one slot. -/
theorem targetSlot_mirror {i j : Int64} {k count : Nat} (hk : 1 ≤ k) (hle : k ≤ count)
    (hi : i.toInt = -(k : Int)) (hj : j.toInt = (count : Int) - k) :
    targetSlot i count = targetSlot j count := by
  have hneg : ¬ 0 ≤ i := not_nonneg_of_toInt_neg (by omega)
  have hpos : 0 ≤ j := by
    rw [Int64.le_iff_toInt_le, Int64.toInt_zero]
    omega
  -- both words are `count - k` modulo the number of words, and `j` is in range
  have hhigh := j.toInt_lt
  have hsize : Int64.size = 2 ^ 64 := rfl
  rw [targetSlot, if_neg hneg, targetSlot, if_pos hpos, ← Int64.toInt_inj, Int64.toInt_add,
    Int64.toInt_ofNat', hsize, Int.bmod_add_bmod, hi, hj]
  exact Int.bmod_eq_of_le (by omega) (by omega)

/-- An index below `-count` stands for no slot. -/
theorem indexMatches_of_lt_neg {i : Int64} {count : Nat} (hi : i.toInt < -(count : Int))
    (position : Nat) : indexMatches (some i) position count = false := by
  have hlow := i.le_toInt
  have hcount : count < 2 ^ 63 := by omega
  have hneg : ¬ 0 ≤ i := not_nonneg_of_toInt_neg (by omega)
  rw [Bool.eq_false_iff, Ne, indexMatches_some_iff, toInt_targetSlot i hcount, if_neg hneg]
  omega

namespace Policy

/-- The index only chooses among the descriptors that agree with the policy on everything else. -/
theorem isMet_with_index (p : Policy) (index : Option Int64) (c : Context) :
    { p with index }.isMet c = c.descriptors.any fun x =>
      indexMatches index x.position c.descriptors.length && p.matchesType x := rfl

/-- A negative index mirrors one that is not negative, for descriptors in any slots: `-k` and `n - k`
are met alike among `n` descriptors, and an index below `-n` is never met. For words below `2 ^ 63`
as counts and all words as slots, neither the count read with a sign nor its sum with a negative index
nor the slot read without a sign wraps, and the test on words gives the answer of the numbers. -/
theorem isMet_negative_index (p : Policy) (c : Context) :
    (∀ k : Nat, 1 ≤ k → k ≤ c.descriptors.length → ∀ i j : Int64, i.toInt = -(k : Int) →
      j.toInt = (c.descriptors.length : Int) - k →
      { p with index := some i }.isMet c = { p with index := some j }.isMet c) ∧
    (∀ i : Int64, i.toInt < -(c.descriptors.length : Int) →
      { p with index := some i }.isMet c = false) ∧
    ∀ (i : Int64) (position count : UInt64), count.toNat < 2 ^ 63 →
      count.toInt64.toInt = count.toNat ∧
      (i < 0 → (count.toInt64 + i).toInt = count.toNat + i.toInt) ∧
      (0 ≤ targetSlot i count.toNat →
        ((targetSlot i count.toNat).toUInt64.toNat : Int) = (targetSlot i count.toNat).toInt) ∧
      indexMatchesWords i position count = indexMatches (some i) position.toNat count.toNat ∧
      (indexMatches (some i) position.toNat count.toNat = true ↔
        (position.toNat : Int) = if 0 ≤ i then i.toInt else count.toNat + i.toInt) := by
  refine ⟨?_, ?_, ?_⟩
  · intro k hk hle i j hi hj
    have hslot := targetSlot_mirror hk hle hi hj
    simp only [isMet_with_index, indexMatches, hslot]
  · intro i hi
    rw [isMet_with_index, List.any_eq_false]
    intro x _
    rw [indexMatches_of_lt_neg hi, Bool.false_and]
    exact Bool.false_ne_true
  · intro i position count hcount
    have hcast : count.toInt64.toInt = count.toNat := by
      rw [toInt64_eq_ofNat, Int64.toInt_ofNat_of_lt hcount]
    refine ⟨hcast, ?_, toNat_toUInt64, indexMatchesWords_eq i position count, ?_⟩
    · intro hneg
      have hsum := toInt_targetSlot i hcount
      have hnot : ¬ 0 ≤ i := Int64.not_le.2 hneg
      rwa [targetSlot, if_neg hnot, if_neg hnot, ← toInt64_eq_ofNat] at hsum
    · rw [indexMatches_some_iff, toInt_targetSlot i hcount, eq_comm]

/-- Three descriptors in the slots 0, 2 and 3: `-1` is the index 2, the least word is met by none, and
its sum with the greatest count does not wrap. -/
theorem isMet_negative_index_gaps :
    let c : Context := { fileName := "a.go", funcName := "F", receiver := "", descriptors :=
      [{ position := 0, typeName := "int" }, { position := 2, typeName := "string" },
        { position := 3, typeName := "bool" }] }
    let p : Policy := { typeName := "string" }
    let count : UInt64 := 9223372036854775807
    (1 ≤ c.descriptors.length ∧
      { p with index := some (-1) }.isMet c = { p with index := some 2 }.isMet c ∧
      { p with index := some 2 }.isMet c = true) ∧
    (Int64.minValue.toInt < -(c.descriptors.length : Int) ∧
      { p with index := some Int64.minValue }.isMet c = false) ∧
    count.toNat < 2 ^ 63 ∧ (count.toInt64 + Int64.minValue).toInt = -1 := by
  intro c p count
  obtain ⟨mirror, below, words⟩ := isMet_negative_index p c
  have hbelow : Int64.minValue.toInt < -(c.descriptors.length : Int) := by decide
  have hcount : count.toNat < 2 ^ 63 := by decide
  have hone : 1 ≤ c.descriptors.length := by decide
  have hmirror := mirror 1 (Nat.le_refl 1) hone (-1) 2 (by decide) (by decide)
  refine ⟨⟨hone, hmirror, by decide⟩, ⟨hbelow, below _ hbelow⟩, hcount, ?_⟩
  exact (words Int64.minValue 0 count hcount).2.1 (by decide)

/-- The descriptor is what the policy asks for, its slot included. -/
def IsMetBy (p : Policy) (c : Context) (x : Descriptor) : Prop :=
  indexMatches p.index x.position c.descriptors.length = true ∧ p.matchesType x = true

/-- A policy is met by a declaration exactly if one of its descriptors meets it. -/
theorem isMet_iff_exists (p : Policy) (c : Context) :
    p.isMet c = true ↔ ∃ x ∈ c.descriptors, p.IsMetBy c x := by
  simp only [isMet, List.any_eq_true, Bool.and_eq_true, IsMetBy]

end Policy

/-! ### What a negative index designates -/

/-- The descriptor meets some policy with the given index. -/
def Context.CanMeet (c : Context) (i : Int64) (x : Descriptor) : Prop :=
  ∃ p : Policy, p.index = some i ∧ p.IsMetBy c x

/-- Every type is asked for by some policy, so that only the slot matters. -/
theorem Context.canMeet_iff (c : Context) (i : Int64) (x : Descriptor) :
    c.CanMeet i x ↔ indexMatches (some i) x.position c.descriptors.length = true := by
  constructor
  · rintro ⟨p, hp, hmet, -⟩
    rwa [hp] at hmet
  · intro h
    refine ⟨{ typeName := x.typeName, isPtr := x.isPointer, isArray := x.isArray, index := some i },
      rfl, h, ?_⟩
    simp [Policy.matchesType, Policy.namespaceMatches]

/-- Among `n` descriptors the index `-k` designates the slot `n - k`. -/
theorem Context.canMeet_neg_iff {c : Context} {k : Nat} {i : Int64}
    (hn : c.descriptors.length < 2 ^ 63) (hk : 1 ≤ k) (hle : k ≤ c.descriptors.length)
    (hi : i.toInt = -(k : Int)) (x : Descriptor) :
    c.CanMeet i x ↔ x.position = c.descriptors.length - k := by
  have hneg : ¬ 0 ≤ i := not_nonneg_of_toInt_neg (by omega)
  rw [canMeet_iff, indexMatches_some_iff, toInt_targetSlot i hn, if_neg hneg]
  omega

/-- If only one descriptor can meet a policy with the given index, such a policy is met exactly if that
descriptor has the type it asks for. -/
theorem Policy.isMet_iff_matchesType {c : Context} {i : Int64} {e : Descriptor}
    (he : e ∈ c.descriptors) (hmeet : c.CanMeet i e)
    (honly : ∀ x ∈ c.descriptors, c.CanMeet i x → x = e) {p : Policy} (hp : p.index = some i) :
    p.isMet c = true ↔ p.matchesType e = true := by
  rw [p.isMet_iff_exists]
  constructor
  · rintro ⟨x, hx, hmet⟩
    obtain rfl := honly x hx ⟨p, hp, hmet⟩
    exact hmet.2
  · intro htype
    refine ⟨e, he, ?_, htype⟩
    rw [hp]
    exact (c.canMeet_iff i e).1 hmeet

namespace Go.FuncDecl

/-- The number of unsupported slots before slot `s`. -/
def unsupportedBefore (d : FuncDecl) (s : Nat) : Nat :=
  (d.slotShapes.take s).countP fun shape => !shape.isSupported

/-- No unsupported slot comes before slot `s`. -/
def SupportedBefore (d : FuncDecl) (s : Nat) : Prop :=
  ∀ s' shape, SlotIn d.params s' shape → s' < s → shape.isSupported = true

/-- Behind an unsupported slot all slots are unsupported. -/
def TrailingUnsupported (d : FuncDecl) : Prop :=
  ∀ s shape, SlotIn d.params s shape → shape.isSupported = false →
    ∀ s' shape', SlotIn d.params s' shape' → s < s' → shape'.isSupported = false

/-- No slot before `s` is unsupported exactly if all slots before it are supported. -/
theorem unsupportedBefore_eq_zero_iff (d : FuncDecl) (s : Nat) :
    d.unsupportedBefore s = 0 ↔ d.SupportedBefore s := by
  rw [unsupportedBefore, List.countP_eq_zero]
  constructor
  · intro h s' shape hs' hlt
    rw [← slotShapes_getElem?_iff] at hs'
    have hmem : shape ∈ d.slotShapes.take s := by
      refine List.mem_of_getElem? (i := s') ?_
      rwa [List.getElem?_take_of_lt hlt]
    simpa using h shape hmem
  · intro h shape hshape
    obtain ⟨s', hs'⟩ := List.getElem?_of_mem hshape
    rw [List.getElem?_take] at hs'
    split at hs'
    · rename_i hlt
      simpa using h s' shape ((d.slotShapes_getElem?_iff s' shape).1 hs') hlt
    · cases hs'

/-- The slot of descriptor number `j` among slots that are numbered from `n`: it is `m` slots behind
the first, of which those that are supported are the `j` descriptors before it. -/
theorem position_of_getElem? (imports : ImportTable) {shapes : List Shape} {n j : Nat} {x : Descriptor}
    (h : ((shapes.zipIdx n).filterMap fun (shape, slot) =>
      shape.reduce?.map fun r => r.toDescriptor slot imports)[j]? = some x) :
    ∃ m, x.position = n + m ∧ m = j + (shapes.take m).countP fun shape => !shape.isSupported := by
  induction shapes generalizing n j with
  | nil => simp at h
  | cons shape shapes ih =>
    rw [List.zipIdx_cons, List.filterMap_cons] at h
    cases hr : shape.reduce? with
    | none =>
      -- the slot is passed over: one more unsupported slot before every later descriptor
      have hun : (!shape.isSupported) = true := by simp [Shape.isSupported, hr]
      simp only [hr, Option.map_none] at h
      obtain ⟨m, hpos, hm⟩ := ih h
      refine ⟨m + 1, by omega, ?_⟩
      rw [List.take_succ_cons, List.countP_cons, if_pos hun]
      omega
    | some r =>
      have hsup : ¬ (!shape.isSupported) = true := by simp [Shape.isSupported, hr]
      simp only [hr, Option.map_some] at h
      cases j with
      | zero =>
        obtain rfl := Option.some.inj h
        exact ⟨0, rfl, rfl⟩
      | succ j =>
        obtain ⟨m, hpos, hm⟩ := ih h
        refine ⟨m + 1, by omega, ?_⟩
        rw [List.take_succ_cons, List.countP_cons, if_neg hsup]
        omega

/-- A descriptor stands in the slot that is as far behind its number as there are unsupported slots
before it. -/
theorem position_eq_add_unsupported {d : FuncDecl} {imports : ImportTable} {j : Nat} {x : Descriptor}
    (h : (d.descriptors imports)[j]? = some x) : x.position = j + d.unsupportedBefore x.position := by
  obtain ⟨m, hpos, hm⟩ := position_of_getElem? imports h
  rw [Nat.zero_add] at hpos
  rwa [unsupportedBefore, hpos]

/-- The slots of the descriptors increase with their numbers. -/
theorem position_lt_iff {d : FuncDecl} {imports : ImportTable} {j j' : Nat} {x x' : Descriptor}
    (h : (d.descriptors imports)[j]? = some x) (h' : (d.descriptors imports)[j']? = some x') :
    x.position < x'.position ↔ j < j' := by
  have hincr : ∀ {a b : Nat} {y z : Descriptor}, (d.descriptors imports)[a]? = some y →
      (d.descriptors imports)[b]? = some z → a < b → y.position < z.position := by
    intro a b y z hy hz hlt
    obtain ⟨ha, rfl⟩ := List.getElem?_eq_some_iff.1 hy
    obtain ⟨hb, rfl⟩ := List.getElem?_eq_some_iff.1 hz
    exact List.pairwise_iff_getElem.1 (d.descriptors_pairwise imports) a b ha hb hlt
  constructor
  · intro hlt
    rcases Nat.lt_trichotomy j j' with hj | rfl | hj
    · exact hj
    · obtain rfl := Option.some.inj (h.symm.trans h')
      omega
    · have := hincr h' h hj
      omega
  · exact hincr h h'

/-- If the unsupported slots are at the end, none comes before a descriptor. -/
theorem TrailingUnsupported.supportedBefore {d : FuncDecl} (h : d.TrailingUnsupported)
    {imports : ImportTable} {x : Descriptor} (hx : x ∈ d.descriptors imports) :
    d.SupportedBefore x.position := by
  obtain ⟨s, shape, hs, hdesc⟩ := mem_descriptors_iff_describes.1 hx
  rw [hdesc.position]
  intro s' shape' hs' hlt
  cases hsup : shape'.isSupported with
  | true => rfl
  | false =>
    have hfalse := h s' shape' hs' hsup s shape hs hlt
    rw [hdesc.isSupported] at hfalse
    cases hfalse

/-- What a negative index designates. Let `e` be the `k`-th of `n` descriptors from the end. It stands
in slot `n - k` or behind it, and in that slot exactly if no unsupported slot comes before it; exactly
then it can meet a policy with index `-k`. Otherwise at most one descriptor can, and it stands before
`e`. If the unsupported slots are at the end, `e` alone can, so that a policy with index `-k` is met
exactly if `e` has the type it asks for. A list in memory has fewer than `2 ^ 63` members. -/
theorem negative_index_designates (d : FuncDecl) (fileName : String) (imports : ImportTable) :
    let c := d.context fileName imports
    let n := c.descriptors.length
    n < 2 ^ 63 → ∀ k : Nat, 1 ≤ k → k ≤ n → ∀ i : Int64, i.toInt = -(k : Int) →
      ∃ e, c.descriptors[n - k]? = some e ∧
        n - k ≤ e.position ∧
        (e.position = n - k ↔ d.SupportedBefore e.position) ∧
        (c.CanMeet i e ↔ d.SupportedBefore e.position) ∧
        (¬ d.SupportedBefore e.position → ∀ j x, c.descriptors[j]? = some x → c.CanMeet i x →
          j < n - k ∧ ∀ j' x', c.descriptors[j']? = some x' → c.CanMeet i x' → j' = j) ∧
        (d.TrailingUnsupported →
          (∀ j x, c.descriptors[j]? = some x → (c.CanMeet i x ↔ j = n - k)) ∧
          ∀ p : Policy, p.index = some i → (p.isMet c = true ↔ p.matchesType e = true)) := by
  intro c n hn k hk hle i hi
  have hlt : n - k < n := by omega
  obtain ⟨e, he⟩ : ∃ e, c.descriptors[n - k]? = some e := ⟨_, List.getElem?_eq_getElem hlt⟩
  have hpos : e.position = (n - k) + d.unsupportedBefore e.position := position_eq_add_unsupported he
  have heq : e.position = n - k ↔ d.SupportedBefore e.position := by
    rw [← unsupportedBefore_eq_zero_iff]
    omega
  have hmeet : ∀ x, c.CanMeet i x ↔ x.position = n - k := Context.canMeet_neg_iff hn hk hle hi
  -- descriptors that can meet the policy stand in one slot, so they are one
  have hsame : ∀ {j j' : Nat} {x x' : Descriptor}, c.descriptors[j]? = some x → c.CanMeet i x →
      c.descriptors[j']? = some x' → c.CanMeet i x' → j' = j := by
    intro j j' x x' hx hmx hx' hmx'
    have hlt' := position_lt_iff hx hx'
    have hgt' := position_lt_iff hx' hx
    rw [hmeet] at hmx hmx'
    omega
  refine ⟨e, he, by omega, heq, (hmeet e).trans heq, ?_, ?_⟩
  · intro hgap j x hx hmx
    refine ⟨?_, fun j' x' hx' hmx' => hsame hx hmx hx' hmx'⟩
    rw [← heq] at hgap
    rw [← position_lt_iff hx he, (hmeet x).1 hmx]
    omega
  · intro htrail
    have hmem : e ∈ c.descriptors := List.mem_of_getElem? he
    have hme : c.CanMeet i e := ((hmeet e).trans heq).2 (htrail.supportedBefore hmem)
    have honly : ∀ j x, c.descriptors[j]? = some x → (c.CanMeet i x ↔ j = n - k) := by
      intro j x hx
      constructor
      · intro hmx
        exact hsame he hme hx hmx
      · rintro rfl
        obtain rfl := Option.some.inj (he.symm.trans hx)
        exact hme
    refine ⟨honly, fun p hp => Policy.isMet_iff_matchesType hmem hme ?_ hp⟩
    intro x hx hmx
    obtain ⟨j, hj⟩ := List.getElem?_of_mem hx
    obtain rfl := (honly j x hj).1 hmx
    exact Option.some.inj (hj.symm.trans he)

/-- In `F(a int, m map[string]int, b string, c bool)` the index `-1` designates `b`, since the map comes
before `c`; in `F(n int, opts ...string)` it designates `n`. -/
theorem negative_index_designates_gap :
    let gap : FuncDecl := { name := "F", params := [{ names := ["a"], shape := .ident "int" },
      { names := ["m"], shape := .unsupported .map }, { names := ["b"], shape := .ident "string" },
      { names := ["c"], shape := .ident "bool" }] }
    let trail : FuncDecl := { name := "F", params := [{ names := ["n"], shape := .ident "int" },
      { names := ["opts"], shape := .unsupported .variadic }] }
    let c := gap.context "a.go" {}
    let c' := trail.context "a.go" {}
    let p : Policy := { typeName := "int", index := some (-1) }
    (c.descriptors.length = 3 ∧ ∃ e, c.descriptors[2]? = some e ∧ e.position = 3 ∧
      ¬ gap.SupportedBefore e.position ∧ ¬ c.CanMeet (-1) e ∧
      ∃ x, c.descriptors[1]? = some x ∧ c.CanMeet (-1) x) ∧
    c'.descriptors.length = 1 ∧ trail.TrailingUnsupported ∧ p.isMet c' = true := by
  intro gap trail c c' p
  refine ⟨⟨rfl, ?_⟩, rfl, ?_⟩
  · obtain ⟨e, he, -, heq, hmeet, -, -⟩ :=
      negative_index_designates gap "a.go" {} (by decide) 1 (by decide) (by decide) (-1) (by decide)
    obtain rfl := Option.some.inj he
    have hgap : ¬ gap.SupportedBefore 3 := fun h => absurd (heq.2 h) (by decide)
    exact ⟨_, rfl, rfl, hgap, fun h => hgap (hmeet.1 h), _, rfl, (c.canMeet_iff _ _).2 (by decide)⟩
  · have htrail : trail.TrailingUnsupported := by
      intro s shape hs hun s' shape' hs' hlt
      have hs'' : s' < 2 := (trail.exists_slotIn_iff s').1 ⟨shape', hs'⟩
      cases hs with
      | first h => cases hun
      | later h =>
        -- behind the slot of `n` there is only one more
        change 1 + _ < s' at hlt
        omega
    obtain ⟨e, he, -, -, -, -, hdes⟩ :=
      negative_index_designates trail "a.go" {} (by decide) 1 (by decide) (by decide) (-1) (by decide)
    obtain rfl := Option.some.inj he
    exact ⟨htrail, ((hdes htrail).2 p rfl).2 (by decide)⟩

end Go.FuncDecl

end RequiredArgs
