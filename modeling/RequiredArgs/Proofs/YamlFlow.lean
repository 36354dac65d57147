/-
# The layout of a value, read as a flow node

The indented layout of a JSON value is a flow node of YAML that writes the value
(`run_flowNode_layout`). `Writes` leaves the marks of nodes open, which matter to messages only.

| part | layout | reader | statement |
| --- | --- | --- | --- |
| string | `quote` | `flowNode` | `run_flowNode_quote` |
| word, integer | `layout` | `flowNode` | `run_flowNode_ofWord` |
| array | `layoutItems` | `flowItems` | `run_flowItems_layout` |
| object | `layoutMembers` | `flowEntries` | `run_flowEntries_layout` |

What a reader leaves matters to the next one only from the first sign on, so that the statements compare
the rests of the text behind their gaps. The readers pass one fuel on to each other, and the length of the
layout is enough of it: every step from one reader to another is paid for by a sign of the text.
-/

import Mathlib.Data.List.DropRight
import RequiredArgs.Proofs.YamlScalars

namespace RequiredArgs
namespace Yaml

open Json (Value skipGap isGap lineBreak escapeChar quote intDigits)

/-! ## What is to be read -/

mutual

/-- The node writes the value: a string is quoted, any other value without parts is a word, and arrays
and objects are sequences and mappings. Nothing has a tag or an anchor. -/
inductive Writes : Node → Value → Prop
  | null (m : Mark) : Writes (.scalar m {} .plain "null") .null
  | bool (m : Mark) (b : Bool) : Writes (.scalar m {} .plain (if b then "true" else "false")) (.bool b)
  | int (m : Mark) (n : Int) : Writes (.scalar m {} .plain (.ofList (intDigits n))) (.int n)
  | str (m : Mark) (s : String) : Writes (.scalar m {} .doubleQuoted s) (.str s)
  | arr (m : Mark) {ns : List Node} {vs : List Value} (items : WritesItems ns vs) :
      Writes (.seq m {} ns) (.arr vs)
  | obj (m : Mark) {es : List (Node × Node)} {ms : List (String × Value)}
      (members : WritesMembers es ms) : Writes (.map m {} es) (.obj ms)

/-- The nodes write the items one by one. -/
inductive WritesItems : List Node → List Value → Prop
  | nil : WritesItems [] []
  | cons {n : Node} {v : Value} {ns : List Node} {vs : List Value} (head : Writes n v)
      (tail : WritesItems ns vs) : WritesItems (n :: ns) (v :: vs)

/-- The entries write the members one by one. -/
inductive WritesMembers : List (Node × Node) → List (String × Value) → Prop
  | nil : WritesMembers [] []
  | cons (m : Mark) {n : Node} {k : String} {v : Value} {es : List (Node × Node)}
      {ms : List (String × Value)} (head : Writes n v) (tail : WritesMembers es ms) :
      WritesMembers ((.scalar m {} .doubleQuoted k, n) :: es) ((k, v) :: ms)

end

/-- A node writes the same value at another mark. -/
theorem Writes.withProps {n : Node} {v : Value} (h : Writes n v) (m : Mark) :
    Writes (n.withProps m {}) v := by
  cases h with
  | null => exact .null m
  | bool _ b => exact .bool m b
  | int _ n => exact .int m n
  | str _ s => exact .str m s
  | arr _ items => exact .arr m items
  | obj _ members => exact .obj m members

/-- A value of at most `depth` levels that holds printable characters and integers only, and no key that
is too long for an implicit one. -/
def Printable : Nat → Value → Prop
  | _, .null | _, .bool _ | _, .int _ => True
  | _, .str s => ∀ c ∈ s.toList, isPrintable c = true
  | _, .real _ => False
  | 0, .arr _ | 0, .obj _ => False
  | depth + 1, .arr vs => ∀ v ∈ vs, Printable depth v
  | depth + 1, .obj ms => ∀ m ∈ ms, (∀ c ∈ m.1.toList, isPrintable c = true) ∧
      (quote m.1).length ≤ maxKeyLength ∧ Printable depth m.2

/-- A printable value is no number with a fraction. -/
theorem Printable.ne_real {depth : Nat} {v : Value} (h : Printable depth v) (lexeme : String) :
    v ≠ .real lexeme := by
  rintro rfl
  cases depth <;> exact h

namespace Reads

/-! ## Scalars in flow context -/

/-- Where neither an anchor nor a tag comes next, no property is read. -/
theorem run_props {inFlow : Bool} {c : Cursor} (h : ∀ x ∈ c.rest.head?, x ≠ '&' ∧ x ≠ '!') (n : Nat)
    (p : Props) : (props inFlow n p).run c = .ok (p, c) := by
  cases n with
  | zero => rfl
  | succ n =>
    rw [props]
    simp only [StateT.run_bind, run_next?, ok_bind]
    split
    · rename_i heq
      exact absurd rfl (h _ heq).1
    · rename_i heq
      exact absurd rfl (h _ heq).2
    · rfl

/-- No properties are none. -/
theorem hasProps_empty : hasProps {} = false := rfl

/-- Escaping makes no text shorter, so that the fuel for the written text is enough for the read
one. -/
theorem length_le_escaped (s : List Char) : s.length ≤ (s.flatMap escapeChar).length := by
  induction s with
  | nil => exact Nat.le_refl 0
  | cons x s ih =>
    have hx : 1 ≤ (escapeChar x).length := by
      rw [escapeChar]
      split_ifs <;> simp
    rw [List.flatMap_cons, List.length_append, List.length_cons]
    omega

/-- A quoted text in front of others starts with its quotation mark and ends at the second one. -/
theorem quote_append (s : String) (cs : List Char) :
    quote s ++ cs = '"' :: (s.toList.flatMap escapeChar ++ '"' :: cs) := by
  rw [quote, List.cons_append, List.append_assoc]
  rfl

/-- A string is read from between its quotation marks, and the reader stops right behind them. -/
theorem run_flowNode_quote {s : String} (hs : ∀ x ∈ s.toList, isPrintable x = true) {c : Cursor}
    {rest : List Char} (hc : c.rest = quote s ++ rest) (least n : Nat) :
    (flowNode least (n + 1)).run c =
      .ok (.scalar c.mark {} .doubleQuoted s, c.along (quote s)) := by
  have hc : c.rest = ['"'] ++ (s.toList.flatMap escapeChar ++ '"' :: rest) := by
    rw [hc, quote_append]
    rfl
  have hnext : c.next = c.along ['"'] := Cursor.next_eq_along hc rfl
  have hafter := Cursor.along_rest hc
  have hread : (doubleQuoted ((c.along ['"']).rest.length + 1)).run (c.along ['"']) =
      .ok (s.toList, (c.along ['"']).along (s.toList.flatMap escapeChar ++ ['"'])) := by
    refine run_doubleQuoted hs ?_ hafter (by simp)
    have hlength := length_le_escaped s.toList
    rw [hafter, List.length_append]
    omega
  have hprops : ∀ n, (props true n {}).run c = .ok ({}, c) := fun n =>
    run_props (by simp [hc]) n {}
  rw [flowNode]
  refine run_orCut ?_
  simp only [StateT.run_bind, run_mark, run_fuel, ok_bind, hprops, hasProps_empty,
    Bool.false_eq_true, if_false, run_get, hc, List.cons_append, List.nil_append, run_bump, hnext,
    hread, run_pure, String.ofList_toList]
  rw [← Cursor.along_append]
  rfl

/-- A word is read as a plain scalar. -/
theorem run_flowNode_word {w : List Char} (hw : IsWord w) {c : Cursor} {rest : List Char}
    (hc : c.rest = w ++ rest) (hrest : FollowsValue rest) (least n : Nat) :
    ∃ c', (flowNode least (n + 1)).run c = .ok (.scalar c.mark {} .plain (.ofList w), c') ∧
      c'.rest = skipGap rest ∧ c'.fault = c.fault := by
  obtain ⟨c', hread, hafter, hfault⟩ := run_plain hw least hc hrest
  refine ⟨c', ?_, hafter, hfault⟩
  have hmarker := hw.atAnyMarker hc
  have hstart := hw.startsPlain rest
  obtain ⟨x, cs, rfl, hx⟩ := hw.exists_cons
  have hc : c.rest = x :: (cs ++ rest) := hc
  have hne : ∀ y ∈ ['&', '!', '*', '[', '\x7b', '"', '\''], x ≠ y :=
    forall_ne_of_class (p := fun x => x.isAlphanum || x == '-') hx (by decide)
  have hprops : ∀ n, (props true n {}).run c = .ok ({}, c) := fun n =>
    run_props (by simp [hc, hne]) n {}
  rw [flowNode]
  refine run_orCut ?_
  simp only [StateT.run_bind, run_mark, run_fuel, ok_bind, hprops, hasProps_empty,
    Bool.false_eq_true, if_false, run_get, hc]
  split
  · exact absurd (List.cons.inj ‹_›).1 (hne _ (by simp))
  · exact absurd (List.cons.inj ‹_›).1 (hne _ (by simp))
  · exact absurd (List.cons.inj ‹_›).1 (hne _ (by simp))
  · exact absurd (List.cons.inj ‹_›).1 (hne _ (by simp))
  · exact absurd (List.cons.inj ‹_›).1 (hne _ (by simp))
  · rw [List.cons_append] at hstart
    simp only [hmarker, hstart, Bool.false_eq_true, if_false, if_true, StateT.run_bind, hread,
      ok_bind, run_pure]

/-! ## Collections in flow context -/

/-- A part of a collection starts here: no gap, no comment, no closing sign, and no explicit key. -/
def StartsPart (cs : List Char) : Prop :=
  ∃ x rest, cs = x :: rest ∧ isGap x = false ∧ isBreak x = false ∧
    ['#', '?', ',', ']', '\x7d'].contains x = false

/-- No gap is in front of the start of a part. -/
theorem StartsPart.skipGap {cs : List Char} (h : StartsPart cs) : skipGap cs = cs := by
  obtain ⟨x, rest, rfl, hgap, -⟩ := h
  exact Json.skipGap_cons hgap rest

/-- A quoted text starts a part of a collection. -/
theorem startsPart_quote (s : String) (rest : List Char) : StartsPart (quote s ++ rest) :=
  ⟨_, _, quote_append s rest, rfl, rfl, rfl⟩

/-- A laid out printable value starts a part of a collection. -/
theorem startsPart_layout {depth : Nat} {v : Value} (h : Printable depth v) (level : Nat)
    (rest : List Char) : StartsPart (v.layout level ++ rest) := by
  obtain ⟨x, cs, hcs, hx⟩ := Json.exists_layout_cons h.ne_real level
  have hne : ∀ y ∈ ['#', '?', ',', ']', '\x7d', '\n', '\r', '\u0085', '\u2028', '\u2029'], x ≠ y :=
    forall_ne_of_class hx (by decide)
  refine ⟨x, cs ++ rest, by rw [hcs, List.cons_append], Json.isGap_eq_false_of_isValueStart hx, ?_, ?_⟩
  · simp [isBreak, hne]
  · simp [hne]

/-- At the start of a part none of the signs comes next that would end the collection or start a
key. -/
theorem StartsPart.run_atSign {c : Cursor} (h : StartsPart c.rest) {signs : List Char}
    (hsigns : signs ⊆ ['#', '?', ',', ']', '\x7d']) : (atSign signs).run c = .ok (false, c) := by
  obtain ⟨x, rest, hc, -, -, hx⟩ := h
  have hsign : signs.contains x = false := by
    rw [Bool.eq_false_iff] at hx ⊢
    intro hmem
    exact hx (List.contains_iff_mem.2 (hsigns (List.contains_iff_mem.1 hmem)))
  rw [Reads.run_atSign, hc, List.head?_cons, Option.any_some, hsign]

/-- The sign that comes next is found if it is among those looked for. -/
theorem run_atSign_cons {c : Cursor} {x : Char} {rest : List Char} (hc : c.rest = x :: rest)
    (signs : List Char) : (atSign signs).run c = .ok (signs.contains x, c) := by
  rw [run_atSign, hc]
  rfl

/-- Skipping ends behind the gap, in front of a character that is neither a comment nor a line
break. -/
theorem run_skipFlow_cons {c : Cursor} {x : Char} {rest : List Char} (hx : x ≠ '#' ∧ isBreak x = false)
    (hc : skipGap c.rest = x :: rest) :
    ∃ c', skipFlow.run c = .ok ((), c') ∧ c'.rest = x :: rest ∧ c'.fault = c.fault := by
  have hhead : ∀ y ∈ (skipGap c.rest).head?, y ≠ '#' ∧ isBreak y = false := by
    intro y hy
    rw [hc] at hy
    rw [← Option.some.inj hy]
    exact hx
  obtain ⟨c', hrun, hrest, hfault⟩ := run_skipFlow hhead
  exact ⟨c', hrun, hrest.trans hc, hfault⟩

/-- Skipping ends at the start of a part. -/
theorem StartsPart.run_skipFlow {cs : List Char} (h : StartsPart cs) {c : Cursor}
    (hc : Json.skipGap c.rest = cs) :
    ∃ c', skipFlow.run c = .ok ((), c') ∧ c'.rest = cs ∧ c'.fault = c.fault := by
  obtain ⟨x, rest, rfl, -, hbreak, hx⟩ := h
  refine run_skipFlow_cons ⟨?_, hbreak⟩ hc
  rintro rfl
  cases hx

/-- The closing sign ends a collection. -/
theorem run_flowClosed_close {c : Cursor} {sign : Char} (isSign : sign = ']' ∨ sign = '\x7d')
    {rest : List Char} (hc : skipGap c.rest = sign :: rest) (isFirst : Bool) :
    ∃ c', (flowClosed sign isFirst).run c = .ok (true, c') ∧ c'.rest = rest ∧ c'.fault = c.fault := by
  have hsign : sign ≠ '#' ∧ isBreak sign = false := by rcases isSign with rfl | rfl <;> decide
  obtain ⟨c₁, hskip, hc₁, hfault⟩ := run_skipFlow_cons hsign hc
  have hnext : c₁.next = c₁.along [sign] := Cursor.next_eq_along hc₁ hsign.2
  have hat : [sign].contains sign = true := by simp
  refine ⟨c₁.along [sign], ?_, Cursor.along_rest hc₁, hfault⟩
  rw [flowClosed]
  simp only [StateT.run_bind, hskip, ok_bind, run_atSign_cons hc₁, hat, Bool.not_true, Bool.and_false,
    Bool.false_eq_true, if_false, if_true, run_bump, hnext, run_pure]

/-- The first part stands behind a gap. -/
theorem run_flowClosed_first {c : Cursor} {sign : Char} (isSign : sign = ']' ∨ sign = '\x7d')
    {part : List Char} (hpart : StartsPart part) (hc : skipGap c.rest = part) :
    ∃ c', (flowClosed sign true).run c = .ok (false, c') ∧ c'.rest = part ∧ c'.fault = c.fault := by
  obtain ⟨c', hskip, hc', hfault⟩ := hpart.run_skipFlow hc
  have hat : (atSign [sign]).run c' = .ok (false, c') := by
    refine StartsPart.run_atSign (hc' ▸ hpart) ?_
    rcases isSign with rfl | rfl <;> simp
  refine ⟨c', ?_, hc', hfault⟩
  rw [flowClosed]
  simp only [StateT.run_bind, hskip, ok_bind, hat, Bool.not_true, Bool.false_and,
    Bool.false_eq_true, if_false, run_pure]

/-- A part that is not the first stands behind a comma. -/
theorem run_flowClosed_comma {c : Cursor} {sign : Char} (isSign : sign = ']' ∨ sign = '\x7d')
    {cs part : List Char} (hpart : StartsPart part) (hc : skipGap c.rest = ',' :: cs)
    (hcs : skipGap cs = part) :
    ∃ c', (flowClosed sign false).run c = .ok (false, c') ∧ c'.rest = part ∧ c'.fault = c.fault := by
  obtain ⟨c₁, hskip₁, hc₁, hfault₁⟩ := run_skipFlow_cons (by decide) hc
  have hnext : c₁.next = c₁.along [','] := Cursor.next_eq_along hc₁ rfl
  have hafter : skipGap (c₁.along [',']).rest = part := by rw [Cursor.along_singleton_rest hc₁, hcs]
  obtain ⟨c₂, hskip₂, hc₂, hfault₂⟩ := hpart.run_skipFlow hafter
  have hcomma : [sign].contains ',' = false ∧ [','].contains ',' = true := by
    rcases isSign with rfl | rfl <;> decide
  have hat : (atSign [sign]).run c₂ = .ok (false, c₂) := by
    refine StartsPart.run_atSign (hc₂ ▸ hpart) ?_
    rcases isSign with rfl | rfl <;> simp
  refine ⟨c₂, ?_, hc₂, hfault₂.trans hfault₁⟩
  rw [flowClosed]
  simp only [StateT.run_bind, hskip₁, ok_bind, run_atSign_cons hc₁, hcomma, Bool.not_false,
    Bool.not_true, Bool.and_self, Bool.false_eq_true, if_true, if_false, run_bump, hnext, hskip₂,
    hat, run_pure]

/-- What is no key has no colon behind it. -/
theorem run_atColon_of_not {c : Cursor} (h : (skipGap c.rest).head? ≠ some ':') (inFlow : Bool)
    (start : Mark) : (atColon inFlow start).run c = .ok (false, c) := by
  rw [atColon]
  simp only [StateT.run_bind, run_get, ok_bind]
  split
  · rename_i cs hcolon
    have hrest : c.rest.takeWhile isBlank ++ ':' :: cs = c.rest := by
      rw [← hcolon]
      exact List.prefix_iff_eq_append.1 (List.takeWhile_prefix isBlank)
    have hgap : ∀ x ∈ c.rest.takeWhile isBlank, isGap x = true := by
      intro x hx
      have hx : x = ' ' ∨ x = '\t' := by simpa [isBlank] using List.mem_takeWhile_imp hx
      rcases hx with rfl | rfl <;> rfl
    have hskip : skipGap c.rest = ':' :: cs := by
      rw [← hrest, skipGap, List.dropWhile_append_of_pos hgap]
      rfl
    rw [hskip] at h
    exact absurd rfl h
  · rfl

/-- A colon right behind a key is seen. -/
theorem run_atColon_key {c : Cursor} {key rest : List Char} (hc : c.rest = key ++ ':' :: rest)
    (hkey : key.length ≤ maxKeyLength) :
    (atColon true c.mark).run (c.along key) = .ok (true, c.along key) := by
  have hrest : (c.along key).rest = ':' :: rest := Cursor.along_rest hc
  have hblanks : (':' :: rest).takeWhile isBlank = [] := rfl
  have hline : ((c.along key).mark.line == c.mark.line) = true := by simp [Cursor.along]
  have hnear : (c.along key).mark.index ≤ c.mark.index + maxKeyLength := by
    simpa [Cursor.along] using hkey
  rw [atColon]
  simp only [StateT.run_bind, run_get, ok_bind, hrest, hblanks, List.length_nil, List.drop_zero,
    Nat.add_zero, hline, hnear, decide_true, Bool.and_self, Bool.true_or, run_pure]

/-- The colon behind a key is passed. -/
theorem run_passColon {c : Cursor} {rest : List Char} (hc : c.rest = ':' :: rest) :
    passColon.run c = .ok ((), c.along [':']) := by
  have hblanks : (takeWhile isBlank).run c = .ok ([], c) :=
    run_takeWhile_of_not (by simp [hc, isBlank])
  have hnext : c.next = c.along [':'] := Cursor.next_eq_along hc rfl
  rw [passColon]
  simp only [StateT.run_bind, hblanks, ok_bind, run_bump, hnext]

/-- The value of an entry is read behind a gap. -/
theorem run_flowValue {c : Cursor} {part : List Char} (hpart : StartsPart part)
    (hc : skipGap c.rest = part) (least n : Nat) :
    ∃ c', (flowValue least (n + 1)).run c = (flowNode least n).run c' ∧ c'.rest = part ∧
      c'.fault = c.fault := by
  obtain ⟨c', hskip, hc', hfault⟩ := hpart.run_skipFlow hc
  have hat : (atSign flowEnds).run c' = .ok (false, c') :=
    StartsPart.run_atSign (hc' ▸ hpart) (by simp [flowEnds])
  refine ⟨c', ?_, hc', hfault⟩
  rw [flowValue]
  simp only [StateT.run_bind, run_mark, ok_bind, hskip, hat, Bool.false_eq_true, if_false]

/-- A member is read as an entry: its key is quoted, and its value stands behind the colon. -/
theorem run_flowEntry {k : String} (hk : ∀ x ∈ k.toList, isPrintable x = true)
    (hkey : (quote k).length ≤ maxKeyLength) {c : Cursor} {cs part : List Char}
    (hc : c.rest = quote k ++ ':' :: cs) (hfault : c.fault = none) (hpart : StartsPart part)
    (hcs : skipGap cs = part) (least n : Nat) :
    ∃ c', c'.rest = part ∧ c'.fault = none ∧ ∀ v c'',
      (flowNode least n).run c' = .ok (v, c'') →
      (flowEntry least (n + 2)).run c = .ok ((.scalar c.mark {} .doubleQuoted k, v), c'') := by
  -- the key ends on its line and within reach of the colon, since the cursor behind it is known
  have hcolon : (c.along (quote k)).rest = ':' :: cs := Cursor.along_rest hc
  have hafter : skipGap ((c.along (quote k)).along [':']).rest = part := by
    rw [Cursor.along_singleton_rest hcolon, hcs]
  obtain ⟨c', hvalue, hc', hfault'⟩ := run_flowValue hpart hafter least n
  refine ⟨c', hc', hfault'.trans hfault, fun v c'' hv => ?_⟩
  rw [flowEntry]
  simp only [StateT.run_bind, run_mark, ok_bind, run_flowNode_quote hk hc least n, run_isCut,
    Cursor.along_fault, hfault, Option.isSome_none, Bool.false_eq_true, if_false,
    run_atColon_key hc hkey, if_true, run_passColon hcolon, hvalue, hv, run_pure]

/-! The readers of collections and of their parts call each other: one lemma for each way that they go
on. -/

/-- An opening bracket and the items behind it are read as a sequence. -/
theorem run_flowNode_seq {c c' : Cursor} {rest : List Char} (hc : c.rest = '[' :: rest)
    {least n : Nat} {ns : List Node} (h : (flowItems least n true).run (c.along ['[']) = .ok (ns, c')) :
    (flowNode least (n + 1)).run c = .ok (.seq c.mark {} ns, c') := by
  have hprops : ∀ n, (props true n {}).run c = .ok ({}, c) := fun n =>
    run_props (by simp [hc]) n {}
  have hnext : c.next = c.along ['['] := Cursor.next_eq_along hc rfl
  rw [flowNode]
  refine run_orCut ?_
  simp only [StateT.run_bind, run_mark, run_fuel, ok_bind, hprops, hasProps_empty,
    Bool.false_eq_true, if_false, run_get, hc, run_bump, hnext, h, run_pure]

/-- An opening brace and the entries behind it are read as a mapping. -/
theorem run_flowNode_map {c c' : Cursor} {rest : List Char} (hc : c.rest = '\x7b' :: rest)
    {least n : Nat} {es : List (Node × Node)}
    (h : (flowEntries least n true).run (c.along ['\x7b']) = .ok (es, c')) :
    (flowNode least (n + 1)).run c = .ok (.map c.mark {} es, c') := by
  have hprops : ∀ n, (props true n {}).run c = .ok ({}, c) := fun n =>
    run_props (by simp [hc]) n {}
  have hnext : c.next = c.along ['\x7b'] := Cursor.next_eq_along hc rfl
  rw [flowNode]
  refine run_orCut ?_
  simp only [StateT.run_bind, run_mark, run_fuel, ok_bind, hprops, hasProps_empty,
    Bool.false_eq_true, if_false, run_get, hc, run_bump, hnext, h, run_pure]

/-- The items end at the closing bracket, whatever gap is in front of it. -/
theorem run_flowItems_nil {c : Cursor} {rest : List Char} (hc : skipGap c.rest = ']' :: rest)
    (least n : Nat) (isFirst : Bool) :
    ∃ c', (flowItems least (n + 1) isFirst).run c = .ok ([], c') ∧ c'.rest = rest ∧
      c'.fault = c.fault := by
  obtain ⟨c', hclosed, hc', hfault⟩ := run_flowClosed_close (.inl rfl) hc isFirst
  refine ⟨c', ?_, hc', hfault⟩
  rw [flowItems]
  refine run_orCut ?_
  simp only [StateT.run_bind, hclosed, ok_bind, if_true, run_pure]

/-- An item that is no key of a single pair is read, and then the items behind it. -/
theorem run_flowItems_cons {least n : Nat} {isFirst : Bool} {c c₁ c₂ c₃ : Cursor} {item : Node}
    {items : List Node} (hclosed : (flowClosed ']' isFirst).run c = .ok (false, c₁))
    (hc₁ : StartsPart c₁.rest) (hitem : (flowNode least n).run c₁ = .ok (item, c₂))
    (hfault : c₂.fault = none) (hcolon : (skipGap c₂.rest).head? ≠ some ':')
    (hitems : (flowItems least n false).run c₂ = .ok (items, c₃)) :
    (flowItems least (n + 1) isFirst).run c = .ok (item :: items, c₃) := by
  have hpair : (atSign ['?']).run c₁ = .ok (false, c₁) := hc₁.run_atSign (by simp)
  rw [flowItems]
  refine run_orCut ?_
  simp only [StateT.run_bind, hclosed, ok_bind, Bool.false_eq_true, if_false, run_mark, hpair, hitem,
    run_isCut, hfault, Option.isSome_none, run_atColon_of_not hcolon true, Bool.not_false,
    Bool.and_false, run_pure, hitems]

/-- The entries end at the closing brace, whatever gap is in front of it. -/
theorem run_flowEntries_nil {c : Cursor} {rest : List Char} (hc : skipGap c.rest = '\x7d' :: rest)
    (least n : Nat) (isFirst : Bool) :
    ∃ c', (flowEntries least (n + 1) isFirst).run c = .ok ([], c') ∧ c'.rest = rest ∧
      c'.fault = c.fault := by
  obtain ⟨c', hclosed, hc', hfault⟩ := run_flowClosed_close (.inr rfl) hc isFirst
  refine ⟨c', ?_, hc', hfault⟩
  rw [flowEntries]
  refine run_orCut ?_
  simp only [StateT.run_bind, hclosed, ok_bind, if_true, run_pure]

/-- An entry is read, and then the entries behind it. -/
theorem run_flowEntries_cons {least n : Nat} {isFirst : Bool} {c c₁ c₂ c₃ : Cursor}
    {entry : Node × Node} {entries : List (Node × Node)}
    (hclosed : (flowClosed '\x7d' isFirst).run c = .ok (false, c₁)) (hc₁ : StartsPart c₁.rest)
    (hentry : (flowEntry least n).run c₁ = .ok (entry, c₂)) (hfault : c₂.fault = none)
    (hentries : (flowEntries least n false).run c₂ = .ok (entries, c₃)) :
    (flowEntries least (n + 1) isFirst).run c = .ok (entry :: entries, c₃) := by
  have hpair : (atSign ['?']).run c₁ = .ok (false, c₁) := hc₁.run_atSign (by simp)
  rw [flowEntries]
  refine run_orCut ?_
  simp only [StateT.run_bind, hclosed, ok_bind, Bool.false_eq_true, if_false, hpair, hentry,
    run_isCut, hfault, Option.isSome_none, run_pure, hentries]

/-! ## Values -/

/-- The digits of an integer are a word, with or without a sign. -/
theorem isWord_intDigits (n : Int) : IsWord (intDigits n) := by
  have hdigits : ∀ n, ∃ x cs, Json.natDigits n = x :: cs ∧ ∀ y ∈ x :: cs, y.isAlphanum = true := by
    intro n
    obtain ⟨x, cs, hcs⟩ := List.exists_cons_of_ne_nil (Json.natDigits_ne_nil n)
    refine ⟨x, cs, hcs, fun y hy => ?_⟩
    rw [Char.isAlphanum, Json.isDigit_of_mem_natDigits (hcs ▸ hy), Bool.or_true]
  cases n with
  | ofNat n =>
    obtain ⟨x, cs, hcs, halpha⟩ := hdigits n
    rw [intDigits, hcs]
    exact .letters halpha
  | negSucc n =>
    obtain ⟨x, cs, hcs, halpha⟩ := hdigits (n + 1)
    rw [intDigits, hcs]
    exact .signed halpha

/-- Behind an item comes what ends a value: a comma, or the closing bracket on a line of its own. -/
theorem followsValue_layoutItems (level outer : Nat) (vs : List Value) (rest : List Char) :
    FollowsValue (Value.layoutItems level vs ++ (lineBreak outer ++ ']' :: rest)) := by
  cases vs with
  | nil => exact .close outer (.inl rfl) rest
  | cons v vs =>
    rw [Value.layoutItems]
    exact .comma _

/-- Behind a member comes what ends a value: a comma, or the closing brace on a line of its own. -/
theorem followsValue_layoutMembers (level outer : Nat) (ms : List (String × Value))
    (rest : List Char) :
    FollowsValue (Value.layoutMembers level ms ++ (lineBreak outer ++ '\x7d' :: rest)) := by
  cases ms with
  | nil => exact .close outer (.inr rfl) rest
  | cons m ms =>
    rw [Value.layoutMembers]
    exact .comma _

/-- Behind a value comes no colon. -/
theorem FollowsValue.head?_skipGap_ne {rest : List Char} (h : FollowsValue rest) :
    (skipGap rest).head? ≠ some ':' := by
  cases h with
  | nil => exact nofun
  | comma rest => simp [Json.skipGap_cons (c := ',') rfl]
  | @close level sign isSign rest =>
    rcases isSign with rfl | rfl
    · simp [Json.skipGap_cons (c := ']') rfl]
    · simp [Json.skipGap_cons (c := '\x7d') rfl]

section Entries

/-! The entries of an array or object lie one level deeper, where by hypothesis every value is read from
its layout. -/

variable {depth least : Nat} (read : ∀ {v : Value} {fuel level : Nat} {c : Cursor} {rest : List Char},
  Printable depth v → (v.layout level).length ≤ fuel → c.rest = v.layout level ++ rest →
    FollowsValue rest → c.fault = none →
    ∃ n c', (flowNode least fuel).run c = .ok (n, c') ∧ Writes n v ∧ c'.fault = none ∧
      skipGap c'.rest = skipGap rest)
include read

/-- An item is read up to its end, where the items behind it are read on. -/
theorem run_flowItems_item {level fuel : Nat} {isFirst : Bool} {v : Value} {c c₁ : Cursor}
    {rest : List Char} (hv : Printable depth v) (hfuel : (v.layout level).length ≤ fuel)
    (hrest : FollowsValue rest) (hclosed : (flowClosed ']' isFirst).run c = .ok (false, c₁))
    (hc₁ : c₁.rest = v.layout level ++ rest) (hfault : c₁.fault = none) :
    ∃ n c₂, Writes n v ∧ c₂.fault = none ∧ skipGap c₂.rest = skipGap rest ∧ ∀ ns c',
      (flowItems least fuel false).run c₂ = .ok (ns, c') →
      (flowItems least (fuel + 1) isFirst).run c = .ok (n :: ns, c') := by
  obtain ⟨n, c₂, hitem, hwrites, hfault₂, hc₂⟩ := read hv hfuel hc₁ hrest hfault
  have hstart : StartsPart c₁.rest := hc₁ ▸ startsPart_layout hv level rest
  have hcolon : (skipGap c₂.rest).head? ≠ some ':' := hc₂ ▸ hrest.head?_skipGap_ne
  exact ⟨n, c₂, hwrites, hfault₂, hc₂,
    fun ns c' hitems => run_flowItems_cons hclosed hstart hitem hfault₂ hcolon hitems⟩

/-- The items of an array are read up to the closing bracket. -/
theorem run_flowItems_layout {level outer fuel : Nat} {isFirst : Bool} {v : Value}
    {vs : List Value} {c c₁ : Cursor} {rest : List Char} (hvs : ∀ w ∈ v :: vs, Printable depth w)
    (hfuel : (v.layout level).length + (Value.layoutItems level vs).length + 1 < fuel)
    (hclosed : (flowClosed ']' isFirst).run c = .ok (false, c₁))
    (hc₁ : c₁.rest = v.layout level ++
      (Value.layoutItems level vs ++ (lineBreak outer ++ ']' :: rest)))
    (hfault : c₁.fault = none) :
    ∃ ns c', (flowItems least fuel isFirst).run c = .ok (ns, c') ∧ WritesItems ns (v :: vs) ∧
      c'.fault = none ∧ c'.rest = rest := by
  -- on the items behind `v`; what stands in front of `v`, a gap or a comma, has been passed
  induction vs generalizing fuel isFirst v c c₁ with
  | nil =>
    obtain ⟨fuel, rfl⟩ : ∃ n, fuel = n + 2 := ⟨fuel - 2, by omega⟩
    have hroom : (v.layout level).length ≤ fuel + 1 := by omega
    obtain ⟨n, c₂, hn, hfault₂, hc₂, hstep⟩ := run_flowItems_item read (List.forall_mem_cons.1 hvs).1
      hroom (followsValue_layoutItems level outer [] rest) hclosed hc₁ hfault
    have hclose : skipGap c₂.rest = ']' :: rest := by
      rw [hc₂, Value.layoutItems, List.nil_append, Json.skipGap_lineBreak, Json.skipGap_cons rfl]
    obtain ⟨c', hend, hc', hfault'⟩ := run_flowItems_nil hclose least fuel false
    exact ⟨[n], c', hstep _ _ hend, .cons hn .nil, hfault'.trans hfault₂, hc'⟩
  | cons w vs ih =>
    obtain ⟨fuel, rfl⟩ : ∃ n, fuel = n + 1 := ⟨fuel - 1, by omega⟩
    obtain ⟨hv, hvs⟩ := List.forall_mem_cons.1 hvs
    have hroom : (v.layout level).length ≤ fuel := by omega
    obtain ⟨n, c₂, hn, hfault₂, hc₂, hstep⟩ := run_flowItems_item read hv hroom
      (followsValue_layoutItems level outer (w :: vs) rest) hclosed hc₁ hfault
    rw [Value.layoutItems] at hfuel hc₂
    simp only [List.length_cons, List.length_append] at hfuel
    simp only [List.cons_append, List.append_assoc, Json.skipGap_cons (c := ',') rfl] at hc₂
    have hmore : (w.layout level).length + (Value.layoutItems level vs).length + 1 < fuel := by omega
    have hpart := startsPart_layout (List.forall_mem_cons.1 hvs).1 level
      (Value.layoutItems level vs ++ (lineBreak outer ++ ']' :: rest))
    obtain ⟨c₃, hclosed₃, hc₃, hfault₃⟩ := run_flowClosed_comma (.inl rfl) hpart hc₂
      (by rw [Json.skipGap_lineBreak, hpart.skipGap])
    obtain ⟨ns, c', hitems, hns, hfault', hc'⟩ :=
      ih hvs hmore hclosed₃ hc₃ (hfault₃.trans hfault₂)
    exact ⟨n :: ns, c', hstep _ _ hitems, .cons hn hns, hfault', hc'⟩

/-- A member is read up to its end, where the members behind it are read on. -/
theorem run_flowEntries_entry {level fuel : Nat} {isFirst : Bool} {k : String} {v : Value}
    {c c₁ : Cursor} {rest : List Char} (hk : ∀ x ∈ k.toList, isPrintable x = true)
    (hkey : (quote k).length ≤ maxKeyLength) (hv : Printable depth v)
    (hfuel : (v.layout level).length ≤ fuel) (hrest : FollowsValue rest)
    (hclosed : (flowClosed '\x7d' isFirst).run c = .ok (false, c₁))
    (hc₁ : c₁.rest = quote k ++ (':' :: ' ' :: (v.layout level ++ rest))) (hfault : c₁.fault = none) :
    ∃ m n c₂, Writes n v ∧ c₂.fault = none ∧ skipGap c₂.rest = skipGap rest ∧ ∀ es c',
      (flowEntries least (fuel + 2) false).run c₂ = .ok (es, c') →
      (flowEntries least (fuel + 3) isFirst).run c =
        .ok ((.scalar m {} .doubleQuoted k, n) :: es, c') := by
  have hpart := startsPart_layout hv level rest
  have hblank : skipGap (' ' :: (v.layout level ++ rest)) = v.layout level ++ rest := hpart.skipGap
  obtain ⟨c₃, hc₃, hfault₃, hentry⟩ := run_flowEntry hk hkey hc₁ hfault hpart hblank least fuel
  obtain ⟨n, c₂, hvalue, hwrites, hfault₂, hc₂⟩ := read hv hfuel hc₃ hrest hfault₃
  have hstart : StartsPart c₁.rest := hc₁ ▸ startsPart_quote k _
  exact ⟨c₁.mark, n, c₂, hwrites, hfault₂, hc₂, fun es c' hentries =>
    run_flowEntries_cons hclosed hstart (hentry n c₂ hvalue) hfault₂ hentries⟩

/-- The members of an object are read up to the closing brace. -/
theorem run_flowEntries_layout {level outer fuel : Nat} {isFirst : Bool} {m : String × Value}
    {ms : List (String × Value)} {c c₁ : Cursor} {rest : List Char}
    (hms : ∀ p ∈ m :: ms, (∀ x ∈ p.1.toList, isPrintable x = true) ∧
      (quote p.1).length ≤ maxKeyLength ∧ Printable depth p.2)
    (hfuel : (m.2.layout level).length + (Value.layoutMembers level ms).length + 3 < fuel)
    (hclosed : (flowClosed '\x7d' isFirst).run c = .ok (false, c₁))
    (hc₁ : c₁.rest = quote m.1 ++ (':' :: ' ' :: (m.2.layout level ++
      (Value.layoutMembers level ms ++ (lineBreak outer ++ '\x7d' :: rest)))))
    (hfault : c₁.fault = none) :
    ∃ es c', (flowEntries least fuel isFirst).run c = .ok (es, c') ∧ WritesMembers es (m :: ms) ∧
      c'.fault = none ∧ c'.rest = rest := by
  induction ms generalizing fuel isFirst m c c₁ with
  | nil =>
    obtain ⟨fuel, rfl⟩ : ∃ n, fuel = n + 3 := ⟨fuel - 3, by omega⟩
    obtain ⟨⟨hk, hkey, hv⟩, -⟩ := List.forall_mem_cons.1 hms
    have hroom : (m.2.layout level).length ≤ fuel := by omega
    obtain ⟨mark, n, c₂, hn, hfault₂, hc₂, hstep⟩ := run_flowEntries_entry read hk hkey hv hroom
      (followsValue_layoutMembers level outer [] rest) hclosed hc₁ hfault
    have hclose : skipGap c₂.rest = '\x7d' :: rest := by
      rw [hc₂, Value.layoutMembers, List.nil_append, Json.skipGap_lineBreak, Json.skipGap_cons rfl]
    obtain ⟨c', hend, hc', hfault'⟩ := run_flowEntries_nil hclose least (fuel + 1) false
    exact ⟨_, c', hstep _ _ hend, .cons mark hn .nil, hfault'.trans hfault₂, hc'⟩
  | cons p ms ih =>
    obtain ⟨fuel, rfl⟩ : ∃ n, fuel = n + 3 := ⟨fuel - 3, by omega⟩
    obtain ⟨⟨hk, hkey, hv⟩, hms⟩ := List.forall_mem_cons.1 hms
    have hroom : (m.2.layout level).length ≤ fuel := by omega
    obtain ⟨mark, n, c₂, hn, hfault₂, hc₂, hstep⟩ := run_flowEntries_entry read hk hkey hv hroom
      (followsValue_layoutMembers level outer (p :: ms) rest) hclosed hc₁ hfault
    rw [Value.layoutMembers] at hfuel hc₂
    simp only [List.length_cons, List.length_append] at hfuel
    simp only [List.cons_append, List.append_assoc, Json.skipGap_cons (c := ',') rfl] at hc₂
    have hmore : (p.2.layout level).length + (Value.layoutMembers level ms).length + 3 < fuel + 2 := by
      have hquote : 2 ≤ (quote p.1).length := by simp [quote]
      omega
    have hpart := startsPart_quote p.1 (':' :: ' ' :: (p.2.layout level ++
      (Value.layoutMembers level ms ++ (lineBreak outer ++ '\x7d' :: rest))))
    obtain ⟨c₃, hclosed₃, hc₃, hfault₃⟩ := run_flowClosed_comma (.inr rfl) hpart hc₂
      (by rw [Json.skipGap_lineBreak, hpart.skipGap])
    obtain ⟨es, c', hentries, hes, hfault', hc'⟩ := ih hms hmore hclosed₃ hc₃ (hfault₃.trans hfault₂)
    exact ⟨_, c', hstep _ _ hentries, .cons mark hn hes, hfault', hc'⟩

/-- An array is read up to its closing bracket. -/
theorem run_flowNode_arr {level fuel : Nat} {vs : List Value} {c : Cursor} {rest : List Char}
    (hvs : ∀ v ∈ vs, Printable depth v) (hfuel : ((Value.arr vs).layout level).length ≤ fuel)
    (hc : c.rest = (Value.arr vs).layout level ++ rest) (hfault : c.fault = none) :
    ∃ n c', (flowNode least fuel).run c = .ok (n, c') ∧ Writes n (.arr vs) ∧ c'.fault = none ∧
      c'.rest = rest := by
  cases vs with
  | nil =>
    obtain ⟨fuel, rfl⟩ : ∃ n, fuel = n + 2 := Nat.exists_eq_add_of_le' hfuel
    have hc : c.rest = '[' :: ']' :: rest := hc
    have hclose : skipGap (c.along ['[']).rest = ']' :: rest := by
      rw [Cursor.along_singleton_rest hc, Json.skipGap_cons rfl]
    obtain ⟨c', hitems, hc', hfault'⟩ := run_flowItems_nil hclose least fuel true
    exact ⟨_, c', run_flowNode_seq hc hitems, .arr _ .nil, hfault'.trans hfault, hc'⟩
  | cons v vs =>
    rw [Value.layout] at hfuel hc
    simp only [List.length_cons, List.length_append] at hfuel
    simp only [List.cons_append, List.append_assoc, List.nil_append] at hc
    obtain ⟨fuel, rfl⟩ : ∃ n, fuel = n + 1 := ⟨fuel - 1, by omega⟩
    have hroom : (v.layout (level + 1)).length + (Value.layoutItems (level + 1) vs).length + 1 <
        fuel := by
      have hline : 0 < (lineBreak level).length := Nat.succ_pos _
      omega
    have hpart := startsPart_layout (List.forall_mem_cons.1 hvs).1 (level + 1)
      (Value.layoutItems (level + 1) vs ++ (lineBreak level ++ ']' :: rest))
    obtain ⟨c₁, hclosed, hc₁, hfault₁⟩ := run_flowClosed_first (c := c.along ['[']) (.inl rfl) hpart
      (by rw [Cursor.along_singleton_rest hc, Json.skipGap_lineBreak, hpart.skipGap])
    obtain ⟨ns, c', hitems, hns, hfault', hc'⟩ :=
      run_flowItems_layout read hvs hroom hclosed hc₁ (hfault₁.trans hfault)
    exact ⟨_, c', run_flowNode_seq hc hitems, .arr _ hns, hfault', hc'⟩

/-- An object is read up to its closing brace. -/
theorem run_flowNode_obj {level fuel : Nat} {ms : List (String × Value)} {c : Cursor}
    {rest : List Char} (hms : Printable (depth + 1) (.obj ms))
    (hfuel : ((Value.obj ms).layout level).length ≤ fuel)
    (hc : c.rest = (Value.obj ms).layout level ++ rest) (hfault : c.fault = none) :
    ∃ n c', (flowNode least fuel).run c = .ok (n, c') ∧ Writes n (.obj ms) ∧ c'.fault = none ∧
      c'.rest = rest := by
  cases ms with
  | nil =>
    obtain ⟨fuel, rfl⟩ : ∃ n, fuel = n + 2 := Nat.exists_eq_add_of_le' hfuel
    have hc : c.rest = '\x7b' :: '\x7d' :: rest := hc
    have hclose : skipGap (c.along ['\x7b']).rest = '\x7d' :: rest := by
      rw [Cursor.along_singleton_rest hc, Json.skipGap_cons rfl]
    obtain ⟨c', hentries, hc', hfault'⟩ := run_flowEntries_nil hclose least fuel true
    exact ⟨_, c', run_flowNode_map hc hentries, .obj _ .nil, hfault'.trans hfault, hc'⟩
  | cons m ms =>
    rw [Value.layout] at hfuel hc
    simp only [List.length_cons, List.length_append] at hfuel
    simp only [List.cons_append, List.append_assoc, List.nil_append] at hc
    obtain ⟨fuel, rfl⟩ : ∃ n, fuel = n + 1 := ⟨fuel - 1, by omega⟩
    have hroom : (m.2.layout (level + 1)).length + (Value.layoutMembers (level + 1) ms).length + 3 <
        fuel := by
      have hline : 0 < (lineBreak level).length := Nat.succ_pos _
      omega
    have hpart := startsPart_quote m.1 (':' :: ' ' :: (m.2.layout (level + 1) ++
      (Value.layoutMembers (level + 1) ms ++ (lineBreak level ++ '\x7d' :: rest))))
    obtain ⟨c₁, hclosed, hc₁, hfault₁⟩ := run_flowClosed_first (c := c.along ['\x7b']) (.inr rfl) hpart
      (by rw [Cursor.along_singleton_rest hc, Json.skipGap_lineBreak, hpart.skipGap])
    obtain ⟨es, c', hentries, hes, hfault', hc'⟩ :=
      run_flowEntries_layout read hms hroom hclosed hc₁ (hfault₁.trans hfault)
    exact ⟨_, c', run_flowNode_map hc hentries, .obj _ hes, hfault', hc'⟩

end Entries

/-- A value that is written as a word is read up to the sign behind it. -/
theorem run_flowNode_ofWord {v : Value} {w : List Char} (hword : IsWord w)
    (hwrites : ∀ m, Writes (.scalar m {} .plain (.ofList w)) v) {least fuel : Nat}
    (hfuel : w.length ≤ fuel) {c : Cursor} {rest : List Char} (hc : c.rest = w ++ rest)
    (hrest : FollowsValue rest) (hfault : c.fault = none) :
    ∃ n c', (flowNode least fuel).run c = .ok (n, c') ∧ Writes n v ∧ c'.fault = none ∧
      skipGap c'.rest = skipGap rest := by
  obtain ⟨fuel, rfl⟩ : ∃ n, fuel = n + 1 := by
    obtain ⟨x, cs, rfl, -⟩ := hword.exists_cons
    exact Nat.exists_eq_add_of_le' (Nat.le_trans (Nat.succ_pos _) hfuel)
  obtain ⟨c', hrun, hc', hfault'⟩ := run_flowNode_word hword hc hrest least fuel
  refine ⟨_, c', hrun, hwrites _, hfault'.trans hfault, ?_⟩
  rw [hc']
  exact List.dropWhile_idempotent isGap rest

/-- The layout of a value is read as a node that writes the value. The recursion is on the depth, since
the entries of a value lie one level deeper. -/
theorem run_flowNode_layout (least : Nat) {depth fuel level : Nat} {v : Value} {c : Cursor}
    {rest : List Char} (h : Printable depth v) (hfuel : (v.layout level).length ≤ fuel)
    (hc : c.rest = v.layout level ++ rest) (hrest : FollowsValue rest) (hfault : c.fault = none) :
    ∃ n c', (flowNode least fuel).run c = .ok (n, c') ∧ Writes n v ∧ c'.fault = none ∧
      skipGap c'.rest = skipGap rest := by
  cases v with
  | null =>
    have hword : IsWord ['n', 'u', 'l', 'l'] := .letters (List.all_eq_true.1 rfl)
    exact run_flowNode_ofWord hword .null hfuel hc hrest hfault
  | bool b =>
    cases b with
    | true =>
      have hword : IsWord ['t', 'r', 'u', 'e'] := .letters (List.all_eq_true.1 rfl)
      exact run_flowNode_ofWord hword (.bool · true) hfuel hc hrest hfault
    | false =>
      have hword : IsWord ['f', 'a', 'l', 's', 'e'] := .letters (List.all_eq_true.1 rfl)
      exact run_flowNode_ofWord hword (.bool · false) hfuel hc hrest hfault
  | int n => exact run_flowNode_ofWord (isWord_intDigits n) (.int · n) hfuel hc hrest hfault
  | real lexeme => exact absurd rfl (h.ne_real lexeme)
  | str s =>
    have hs : ∀ x ∈ s.toList, isPrintable x = true := by
      cases depth <;> exact h
    obtain ⟨fuel, rfl⟩ : ∃ n, fuel = n + 1 :=
      Nat.exists_eq_add_of_le' (Nat.le_trans (Nat.succ_pos _) hfuel)
    have hc : c.rest = quote s ++ rest := hc
    exact ⟨_, _, run_flowNode_quote hs hc least fuel, .str _ s, hfault, by rw [Cursor.along_rest hc]⟩
  | arr vs =>
    cases depth with
    | zero => exact h.elim
    | succ depth =>
      obtain ⟨n, c', hrun, hn, hfault', hc'⟩ :=
        run_flowNode_arr (fun hv => run_flowNode_layout least hv) h hfuel hc hfault
      exact ⟨n, c', hrun, hn, hfault', by rw [hc']⟩
  | obj ms =>
    cases depth with
    | zero => exact h.elim
    | succ depth =>
      obtain ⟨n, c', hrun, hn, hfault', hc'⟩ :=
        run_flowNode_obj (fun hv => run_flowNode_layout least hv) h hfuel hc hfault
      exact ⟨n, c', hrun, hn, hfault', by rw [hc']⟩
termination_by depth

end Reads
end Yaml
end RequiredArgs
