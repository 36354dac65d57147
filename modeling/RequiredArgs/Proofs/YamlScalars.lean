/-
# The scalars of JSON, read as YAML

A string of printable characters between quotation marks is a double-quoted scalar of YAML with the same
characters (`run_doubleQuoted`): of its escapes only `\"` and `\\` occur, and no blank in it stands in
front of a line break, where it would not count. `null`, `true`, `false` and the integers are plain
scalars (`run_plain`).

A reader is followed by what it leaves of the text. Behind a quoted scalar that is known to the column
(`Cursor.along`), which the colon behind a key needs. A plain scalar may go on in the next line, so its
reader has looked there and passed the gap in front of the closing sign when it stops.
-/

import Mathlib.Data.List.Basic
import RequiredArgs.Proofs.JsonText
import RequiredArgs.Yaml.Reader

namespace RequiredArgs
namespace Yaml

open Json (skipGap isGap lineBreak escapeChar)

/-- The printable characters of ASCII. -/
def isPrintable (c : Char) : Bool := 0x20 ≤ c.toNat && c.toNat ≤ 0x7E

/-- A character of a class is none of the signs outside of the class. -/
theorem forall_ne_of_class {p : Char → Bool} {x : Char} (hx : p x = true) {signs : List Char}
    (h : signs.any p = false) : ∀ y ∈ signs, x ≠ y := by
  rintro y hy rfl
  exact List.any_eq_false.1 h x hy hx

/-! ## Cursors -/

namespace Cursor

/-- The cursor behind `cs`, which lies on one line. -/
def along (c : Cursor) (cs : List Char) : Cursor :=
  { c with
    rest := c.rest.drop cs.length
    mark := ⟨c.mark.index + cs.length, c.mark.line, c.mark.column + cs.length⟩
    inIndent := c.inIndent && cs.all isBlank }

@[simp] theorem along_fault (c : Cursor) (cs : List Char) : (c.along cs).fault = c.fault := rfl

@[simp] theorem along_column (c : Cursor) (cs : List Char) :
    (c.along cs).mark.column = c.mark.column + cs.length := rfl

theorem along_nil (c : Cursor) : c.along [] = c := by
  simp [along]

/-- Going along two texts is going along one and then along the other. -/
theorem along_append (c : Cursor) (cs ds : List Char) :
    c.along (cs ++ ds) = (c.along cs).along ds := by
  simp [along, Nat.add_assoc, Bool.and_assoc]

/-- What is left behind a text that comes next. -/
theorem along_rest {c : Cursor} {cs rest : List Char} (h : c.rest = cs ++ rest) :
    (c.along cs).rest = rest := by
  simp [along, h]

/-- What is left behind the character that comes next. -/
theorem along_singleton_rest {c : Cursor} {x : Char} {rest : List Char} (h : c.rest = x :: rest) :
    (c.along [x]).rest = rest :=
  along_rest h

/-- Passing one character that does not end the line. -/
theorem next_eq_along {c : Cursor} {x : Char} {rest : List Char} (h : c.rest = x :: rest)
    (hx : isBreak x = false) : c.next = c.along [x] := by
  rw [next, h]
  split
  · rename_i heq
    cases heq
  · rename_i heq
    obtain rfl := (List.cons.inj heq).1
    cases hx
  · rename_i heq
    obtain ⟨rfl, rfl⟩ := List.cons.inj heq
    simp [hx, along, h]

/-- Passing a character breaks nothing off. -/
theorem next_fault (c : Cursor) : c.next.fault = c.fault := by
  rw [next]
  split
  · rfl
  · rfl
  · split <;> rfl

/-- Passing a character of a gap leaves the same text behind the gap. -/
theorem skipGap_next {c : Cursor} {x : Char} {rest : List Char} (h : c.rest = x :: rest)
    (hx : isGap x = true) :
    skipGap c.next.rest = skipGap c.rest ∧ c.next.rest.length < c.rest.length := by
  have hgap : ∀ cs, skipGap (x :: cs) = skipGap cs := fun cs => List.dropWhile_cons_of_pos hx
  rw [next, h]
  split
  · rename_i heq
    cases heq
  · rename_i cs heq
    obtain ⟨-, rfl⟩ := List.cons.inj heq
    exact ⟨(hgap ('\n' :: cs)).symm, by simp only [List.length_cons]; omega⟩
  · rename_i heq
    obtain ⟨rfl, rfl⟩ := List.cons.inj heq
    have hrest := And.intro (hgap rest).symm (Nat.lt_succ_self rest.length)
    split
    · exact hrest
    · exact hrest

/-- A marker of a document starts a line, so that none stands further to the right. -/
theorem atAnyMarker_of_column {c : Cursor} (h : 0 < c.mark.column) : c.atAnyMarker = false := by
  have hcolumn : (c.mark.column == 0) = false := by simpa using Nat.ne_of_gt h
  simp [atAnyMarker, atMarker, hcolumn]

end Cursor

namespace Reads

/-! ## Running readers

One equation for each of the small readers. A larger one is opened by rewriting with those of its parts,
up to where it branches on the text.
-/

/-- What follows a step that succeeds runs on its result. -/
theorem ok_bind {ε α β : Type} (a : α) (f : α → Except ε β) : (Except.ok a >>= f) = f a := rfl

/-- A step that succeeds gives its own result, and the stub for one that breaks off is not needed.
-/
theorem run_orCut {α : Type} {stub : Fault → α} {r : Reads α} {c c' : Cursor} {a : α}
    (h : r.run c = .ok (a, c')) : (orCut stub r).run c = .ok (a, c') := by
  rw [StateT.run] at h ⊢
  rw [orCut, h]

theorem run_get (c : Cursor) : (get : Reads Cursor).run c = .ok (c, c) := rfl

theorem run_pure {α : Type} (a : α) (c : Cursor) : (pure a : Reads α).run c = .ok (a, c) := rfl

/-- The fuel exceeds the characters that are left. -/
theorem run_fuel (c : Cursor) : fuel.run c = .ok (c.rest.length + 1, c) := rfl

theorem run_mark (c : Cursor) : mark.run c = .ok (c.mark, c) := rfl

theorem run_isCut (c : Cursor) : isCut.run c = .ok (c.fault.isSome, c) := rfl

theorem run_bump (c : Cursor) : bump.run c = .ok ((), c.next) := rfl

theorem run_next? (c : Cursor) : next?.run c = .ok (c.rest.head?, c) := rfl

/-- Looking for signs moves nothing. -/
theorem run_atSign (signs : List Char) (c : Cursor) :
    (atSign signs).run c = .ok (c.rest.head?.any signs.contains, c) := rfl

/-- Nothing is taken where the next character lacks the property. -/
theorem run_takeWhile_of_not {p : Char → Bool} {c : Cursor} (h : ∀ x ∈ c.rest.head?, p x = false) :
    (takeWhile p).run c = .ok ([], c) := by
  have htake : c.rest.takeWhile p = [] := by
    cases hc : c.rest with
    | nil => rfl
    | cons x rest => exact List.takeWhile_cons_of_neg (by simp [h x (by simp [hc])])
  show Except.ok (c.rest.takeWhile p, c.skip (c.rest.takeWhile p).length) = _
  rw [htake]
  rfl

/-- Blanks and line breaks are passed up to the next sign. -/
theorem run_skipToToken {n : Nat} {c : Cursor} (hn : c.rest.length < n)
    (h : ∀ x ∈ (skipGap c.rest).head?, x ≠ '#' ∧ isBreak x = false) :
    ∃ c', (skipToToken true n false).run c = .ok (false, c') ∧ c'.rest = skipGap c.rest ∧
      c'.fault = c.fault := by
  induction n generalizing c with
  | zero => omega
  | succ n ih =>
    rw [skipToToken]
    simp only [StateT.run_bind, run_next?, ok_bind]
    cases hc : c.rest with
    | nil => exact ⟨c, rfl, hc, rfl⟩
    | cons x rest =>
      cases hx : isGap x with
      | true =>
        obtain ⟨hgap, hlt⟩ := Cursor.skipGap_next hc hx
        obtain ⟨c', hrun, hrest, hfault⟩ := ih (c := c.next) (by omega) (by rwa [hgap])
        refine ⟨c', ?_, by rw [hrest, hgap, hc], hfault.trans c.next_fault⟩
        have hx : ((x = ' ' ∨ x = '\n') ∨ x = '\r') ∨ x = '\t' := by simpa [isGap] using hx
        rcases hx with ((rfl | rfl) | rfl) | rfl <;> exact hrun
      | false =>
        have hskip : skipGap (x :: rest) = x :: rest := Json.skipGap_cons hx rest
        obtain ⟨hhash, hbreak⟩ := h x (by rw [hc, hskip]; rfl)
        have hsign : (x == ' ') = false ∧ (x == '\t') = false ∧ (x == '#') = false := by
          refine ⟨?_, ?_, by simpa using hhash⟩ <;>
            · rw [beq_eq_false_iff_ne]
              rintro rfl
              cases hx
        refine ⟨c, ?_, by rw [hskip, hc], rfl⟩
        simp only [List.head?_cons, hsign, hbreak, Bool.false_and, Bool.or_self, Bool.false_eq_true,
          if_false, run_pure]

/-- In flow context a gap of blanks and line breaks is passed as a whole, and nothing is broken off.
-/
theorem run_skipFlow {c : Cursor} (h : ∀ x ∈ (skipGap c.rest).head?, x ≠ '#' ∧ isBreak x = false) :
    ∃ c', skipFlow.run c = .ok ((), c') ∧ c'.rest = skipGap c.rest ∧ c'.fault = c.fault := by
  obtain ⟨c', hrun, hrest, hfault⟩ := run_skipToToken (Nat.lt_succ_self c.rest.length) h
  refine ⟨c', ?_, hrest, hfault⟩
  simp only [skipFlow, StateT.run_bind, run_fuel, ok_bind, hrun, run_pure]

/-! ## Quoted scalars -/

/-- No printable character breaks a line. -/
theorem isBreak_of_isPrintable {c : Char} (h : isPrintable c = true) : isBreak c = false := by
  have hne : ∀ y ∈ ['\n', '\r', '\u0085', '\u2028', '\u2029'], c ≠ y :=
    forall_ne_of_class h (by decide)
  simp [isBreak, hne]

/-- Of the printable characters only the quotation mark and the backslash are escaped. -/
theorem escapeChar_of_isPrintable {c : Char} (h : isPrintable c = true) :
    escapeChar c = if c = '"' ∨ c = '\\' then ['\\', c] else [c] := by
  have hlow : 0x20 ≤ c.toNat := by
    rw [isPrintable, Bool.and_eq_true, decide_eq_true_eq] at h
    exact h.1
  have hne : ∀ y ∈ ['\x08', '\x0c', '\n', '\r', '\t'], c ≠ y := forall_ne_of_class h (by decide)
  by_cases hquote : c = '"'
  · simp [escapeChar, hquote]
  by_cases hslash : c = '\\'
  · simp [escapeChar, hslash]
  · have hcontrol : ¬c.toNat < 0x20 := Nat.not_lt.2 hlow
    simp [escapeChar, hquote, hslash, hne, hcontrol]

/-- Blanks within quotes do not end the line. -/
theorem blanksThenBreak_of_not_isBreak {cs : List Char} (h : ∀ c ∈ cs, isBreak c = false)
    (rest : List Char) : blanksThenBreak (cs ++ '"' :: rest) = false := by
  rw [blanksThenBreak]
  induction cs with
  | nil => rfl
  | cons c cs ih =>
    obtain ⟨hc, hcs⟩ := List.forall_mem_cons.1 h
    cases hblank : isBlank c with
    | true =>
      rw [List.cons_append, List.dropWhile_cons_of_pos hblank]
      exact ih hcs
    | false =>
      rw [List.cons_append, List.dropWhile_cons_of_neg (by simp [hblank])]
      exact hc

/-- A quoted text goes on wherever something is left and no line starts. -/
theorem run_checkQuoted {c : Cursor} (hcolumn : 0 < c.mark.column) (hrest : c.rest ≠ []) :
    checkQuoted.run c = .ok ((), c) := by
  have hmarker := Cursor.atAnyMarker_of_column hcolumn
  have hempty : c.rest.isEmpty = false := by simpa using hrest
  simp only [checkQuoted, StateT.run_bind, run_get, ok_bind, hmarker, hempty, Bool.false_eq_true,
    if_false, run_pure]

/-- The two escapes of printable characters stand for themselves. -/
theorem run_escaped {c : Cursor} {x : Char} {rest : List Char} (hx : x = '"' ∨ x = '\\')
    (hc : c.rest = x :: rest) : escaped.run c = .ok (x, c.along [x]) := by
  have hnext : c.next = c.along [x] :=
    Cursor.next_eq_along hc (by rcases hx with rfl | rfl <;> rfl)
  have hescape : escape? x = some x := by rcases hx with rfl | rfl <;> rfl
  simp only [escaped, StateT.run_bind, run_next?, hc, ok_bind, List.head?_cons, Option.getD_some,
    hescape, run_bump, hnext, run_pure]

/-- Escapes of printable characters are printable. -/
theorem isPrintable_of_mem_escaped {s : List Char} (hs : ∀ x ∈ s, isPrintable x = true) :
    ∀ x ∈ s.flatMap escapeChar, isPrintable x = true := by
  intro x hx
  obtain ⟨y, hy, hx⟩ := List.mem_flatMap.1 hx
  rw [escapeChar_of_isPrintable (hs y hy)] at hx
  split at hx
  · rcases List.mem_cons.1 hx with rfl | hx
    · rfl
    · exact List.mem_singleton.1 hx ▸ hs y hy
  · exact List.mem_singleton.1 hx ▸ hs y hy

/-- One printable character is read from within quotation marks, as it is or from its escape. -/
theorem run_doubleQuoted_cons {x : Char} (hx : isPrintable x = true) {n : Nat} {c : Cursor}
    {more : List Char} (hc : c.rest = escapeChar x ++ more) (hcolumn : 0 < c.mark.column)
    (hmore : blanksThenBreak more = false) :
    (doubleQuoted (n + 1)).run c =
      (do return x :: (← doubleQuoted n) : Reads (List Char)).run (c.along (escapeChar x)) := by
  rw [escapeChar_of_isPrintable hx] at hc ⊢
  by_cases hescape : x = '"' ∨ x = '\\'
  · rw [if_pos hescape] at hc ⊢
    have hc : c.rest = '\\' :: x :: more := hc
    have hslash : c.next = c.along ['\\'] := Cursor.next_eq_along hc rfl
    have hread : escaped.run (c.along ['\\']) = .ok (x, (c.along ['\\']).along [x]) :=
      run_escaped hescape (Cursor.along_rest hc)
    have hjoin : isBreak x = false := isBreak_of_isPrintable hx
    rw [← Cursor.along_append] at hread
    rw [doubleQuoted]
    simp only [StateT.run_bind, run_checkQuoted hcolumn (by simp [hc]), run_get, ok_bind, hc,
      List.head?_cons, Option.any_some, hjoin, Bool.false_eq_true, if_false, run_bump, hslash, hread]
    rfl
  · rw [if_neg hescape] at hc ⊢
    have hc : c.rest = x :: more := hc
    have hnext : c.next = c.along [x] := Cursor.next_eq_along hc (isBreak_of_isPrintable hx)
    obtain ⟨hquote, hslash⟩ := not_or.1 hescape
    rw [doubleQuoted]
    simp only [StateT.run_bind, run_checkQuoted hcolumn (by simp [hc]), run_get, ok_bind, hc,
      isBreak_of_isPrintable hx, hmore, Bool.and_false, Bool.or_self, Bool.false_eq_true, if_false,
      run_bump, hnext]

/-- A string of printable characters is read from between its quotation marks. -/
theorem run_doubleQuoted {s : List Char} (hs : ∀ x ∈ s, isPrintable x = true) {n : Nat}
    (hn : s.length < n) {c : Cursor} {rest : List Char}
    (hc : c.rest = s.flatMap escapeChar ++ '"' :: rest) (hcolumn : 0 < c.mark.column) :
    (doubleQuoted n).run c = .ok (s, c.along (s.flatMap escapeChar ++ ['"'])) := by
  induction s generalizing n c with
  | nil =>
    obtain ⟨n, rfl⟩ := Nat.exists_eq_add_one_of_ne_zero (n := n) (by omega)
    have hc : c.rest = '"' :: rest := hc
    have hnext : c.next = c.along ['"'] := Cursor.next_eq_along hc rfl
    rw [doubleQuoted]
    simp only [StateT.run_bind, run_checkQuoted hcolumn (by simp [hc]), run_get, ok_bind, hc, run_bump,
      hnext, run_pure]
    rfl
  | cons x s ih =>
    obtain ⟨n, rfl⟩ := Nat.exists_eq_add_one_of_ne_zero (n := n) (by omega)
    obtain ⟨hx, hs⟩ := List.forall_mem_cons.1 hs
    rw [List.length_cons] at hn
    rw [List.flatMap_cons, List.append_assoc] at hc ⊢
    have hbreak : ∀ y ∈ s.flatMap escapeChar, isBreak y = false := fun y hy =>
      isBreak_of_isPrintable (isPrintable_of_mem_escaped hs y hy)
    have hmore := blanksThenBreak_of_not_isBreak hbreak rest
    rw [run_doubleQuoted_cons hx hc hcolumn hmore, StateT.run_bind,
      ih hs (by omega) (Cursor.along_rest hc) (by rw [Cursor.along_column]; omega), ok_bind,
      Cursor.along_append c]
    rfl

/-! ## Plain scalars -/

/-- A word, or an integer with its sign. -/
inductive IsWord : List Char → Prop
  | letters {c : Char} {cs : List Char} (h : ∀ x ∈ c :: cs, x.isAlphanum = true) : IsWord (c :: cs)
  | signed {c : Char} {cs : List Char} (h : ∀ x ∈ c :: cs, x.isAlphanum = true) :
      IsWord ('-' :: c :: cs)

/-- No character of a word separates it from others or ends it. -/
theorem IsWord.goesOn {w : List Char} (h : IsWord w) :
    ∀ x ∈ w, isBlank x = false ∧ isBreak x = false ∧ (x == ':') = false ∧ isFlowSign x = false := by
  have halpha : ∀ x : Char, x.isAlphanum = true →
      isBlank x = false ∧ isBreak x = false ∧ (x == ':') = false ∧ isFlowSign x = false := by
    intro x hx
    have hne : ∀ y ∈ [' ', '\t', '\n', '\r', '\u0085', '\u2028', '\u2029', ':', ',', '[', ']',
        '\x7b', '\x7d'], x ≠ y := forall_ne_of_class hx (by decide)
    simp [isBlank, isBreak, isFlowSign, hne]
  cases h with
  | letters h => exact fun x hx => halpha x (h x hx)
  | signed h => exact List.forall_mem_cons.2 ⟨by decide, fun x hx => halpha x (h x hx)⟩

/-- What can stand behind a value: nothing, a comma, or the closing sign on the next line. -/
inductive FollowsValue : List Char → Prop
  | nil : FollowsValue []
  | comma (rest : List Char) : FollowsValue (',' :: rest)
  | close (level : Nat) {sign : Char} (isSign : sign = ']' ∨ sign = '\x7d') (rest : List Char) :
      FollowsValue (lineBreak level ++ sign :: rest)

/-- A word cannot go on here. -/
theorem run_plainWord_nil {c : Cursor}
    (h : ∀ x ∈ c.rest.head?, isBreak x = true ∨ isFlowSign x = true) (n : Nat) :
    (plainWord true n).run c = .ok ([], c) := by
  cases n with
  | zero => rfl
  | succ n =>
    rw [plainWord]
    simp only [StateT.run_bind, run_get, ok_bind]
    cases hc : c.rest with
    | nil => rfl
    | cons x rest =>
      rcases h x (by rw [hc]; rfl) with hbreak | hsign
      · simp only [hbreak, Bool.or_true, if_true, run_pure]
      · have hcolon : (x == ':') = false := by
          rw [beq_eq_false_iff_ne]
          rintro rfl
          cases hsign
        simp only [hcolon, hsign, Bool.and_false, Bool.false_and, Bool.false_or, Bool.and_self,
          Bool.false_eq_true, if_false, if_true]
        split <;> rfl

/-- A word is passed up to a line break or a sign. -/
theorem run_plainWord {w : List Char}
    (hw : ∀ x ∈ w, isBlank x = false ∧ isBreak x = false ∧ (x == ':') = false ∧ isFlowSign x = false)
    {n : Nat} (hn : w.length ≤ n) {c : Cursor} {rest : List Char} (hc : c.rest = w ++ rest)
    (hrest : ∀ x ∈ rest.head?, isBreak x = true ∨ isFlowSign x = true) :
    (plainWord true n).run c = .ok (w, c.along w) := by
  induction w generalizing n c with
  | nil =>
    rw [Cursor.along_nil]
    exact run_plainWord_nil (by rwa [hc]) n
  | cons x w ih =>
    obtain ⟨n, rfl⟩ := Nat.exists_eq_add_one_of_ne_zero (n := n) (by simp at hn; omega)
    obtain ⟨⟨hblank, hbreak, hcolon, hsign⟩, hw⟩ := List.forall_mem_cons.1 hw
    have hc : c.rest = [x] ++ (w ++ rest) := hc
    have hnext : c.next = c.along [x] := Cursor.next_eq_along hc hbreak
    have hmore := ih hw (Nat.le_of_succ_le_succ hn) (Cursor.along_rest hc)
    rw [plainWord]
    simp only [StateT.run_bind, run_get, ok_bind, hc, List.cons_append, List.nil_append, hblank,
      hbreak, hcolon, hsign, Bool.or_self, Bool.and_false, Bool.false_and, Bool.false_eq_true,
      if_false, run_bump, hnext, hmore]
    rw [← Cursor.along_append]
    rfl

/-- Blanks in front of a sign are passed. -/
theorem run_lineBreaks_blanks (indent : Nat) {n k : Nat} {c : Cursor} {x : Char} {rest : List Char}
    (hn : k ≤ n) (hc : c.rest = List.replicate k ' ' ++ x :: rest)
    (hx : isBreak x = false ∧ isBlank x = false) :
    ∃ c', (lineBreaks indent n).run c = .ok ([], c') ∧ c'.rest = x :: rest ∧
      c'.fault = c.fault := by
  induction k generalizing n c with
  | zero =>
    refine ⟨c, ?_, hc, rfl⟩
    cases n with
    | zero => rfl
    | succ n =>
      have hc : c.rest = x :: rest := hc
      rw [lineBreaks]
      simp only [StateT.run_bind, run_next?, ok_bind, hc, List.head?_cons, hx, Bool.false_eq_true,
        if_false, run_pure]
  | succ k ih =>
    obtain ⟨n, rfl⟩ := Nat.exists_eq_add_one_of_ne_zero (n := n) (by omega)
    have hc : c.rest = [' '] ++ (List.replicate k ' ' ++ x :: rest) := hc
    have hnext : c.next = c.along [' '] := Cursor.next_eq_along hc rfl
    obtain ⟨c', hrun, hrest, hfault⟩ := ih (Nat.le_of_succ_le_succ hn) (Cursor.along_rest hc)
    refine ⟨c', ?_, hrest, hfault⟩
    have htab : (' ' == '\t') = false := rfl
    have hbreak : isBreak ' ' = false := rfl
    have hblank : isBlank ' ' = true := rfl
    rw [lineBreaks]
    simp only [StateT.run_bind, run_next?, ok_bind, hc, List.cons_append, List.head?_cons, hbreak,
      hblank, htab, Bool.false_and, Bool.false_eq_true, if_false, if_true, run_mark, run_bump, hnext,
      hrun]

/-- The line break in front of a sign is passed and given back. -/
theorem run_lineBreaks (indent : Nat) {n level : Nat} {c : Cursor} {x : Char} {rest : List Char}
    (hn : 2 * level < n) (hc : c.rest = lineBreak level ++ x :: rest)
    (hx : isBreak x = false ∧ isBlank x = false) :
    ∃ c', (lineBreaks indent n).run c = .ok (['\n'], c') ∧ c'.rest = x :: rest ∧
      c'.fault = c.fault := by
  obtain ⟨n, rfl⟩ := Nat.exists_eq_add_one_of_ne_zero (n := n) (by omega)
  have hc : c.rest = '\n' :: (List.replicate (2 * level) ' ' ++ x :: rest) := hc
  have hnext : c.next.rest = List.replicate (2 * level) ' ' ++ x :: rest := by
    simp [Cursor.next, hc, isBreak]
  have hbreak : isBreak '\n' = true := rfl
  obtain ⟨c', hrun, hrest, hfault⟩ :=
    run_lineBreaks_blanks indent (Nat.le_of_lt_succ hn) hnext hx
  refine ⟨c', ?_, hrest, hfault.trans c.next_fault⟩
  rw [lineBreaks]
  simp only [StateT.run_bind, run_next?, ok_bind, hc, List.head?_cons, hbreak, if_true, run_bump,
    hrun, run_pure]
  rfl

/-- No document marker begins where a word does. -/
theorem IsWord.atAnyMarker {w rest : List Char} (h : IsWord w) {c : Cursor} (hc : c.rest = w ++ rest) :
    c.atAnyMarker = false := by
  have hletter : ∀ x : Char, x.isAlphanum = true → ∀ y ∈ ['-', '.'], x ≠ y := fun x hx =>
    forall_ne_of_class hx (by decide)
  cases h with
  | letters h =>
    have hne := hletter _ (List.forall_mem_cons.1 h).1
    simp [Cursor.atAnyMarker, Cursor.atMarker, hc, List.isPrefixOf, (hne _ _).symm]
  | signed h =>
    have hne := hletter _ (List.forall_mem_cons.1 h).1
    simp [Cursor.atAnyMarker, Cursor.atMarker, hc, List.isPrefixOf, (hne _ _).symm]

/-- A plain scalar can start with a word. -/
theorem IsWord.startsPlain {w : List Char} (h : IsWord w) (rest : List Char) :
    Reads.startsPlain true (w ++ rest) = true := by
  cases h with
  | @letters x cs h =>
    obtain ⟨hblank, hbreak, -, hsign⟩ := (IsWord.letters h).goesOn x List.mem_cons_self
    have hne : ∀ y ∈ "-?:#&*!|>'\"%@\x60".toList, x ≠ y :=
      forall_ne_of_class (List.forall_mem_cons.1 h).1 (by decide)
    have hother : "-?:#&*!|>'\"%@\x60".toList.contains x = false := by
      rw [Bool.eq_false_iff]
      intro hmem
      exact hne x (List.contains_iff_mem.1 hmem) rfl
    simp only [List.cons_append, Reads.startsPlain, isIndicator, hsign, hother, hblank, hbreak,
      Bool.or_self, Bool.not_false, Bool.and_self, Bool.true_or]
  | @signed x cs h =>
    obtain ⟨hblank, -⟩ := (IsWord.letters h).goesOn x List.mem_cons_self
    simp only [List.cons_append, Reads.startsPlain, List.head?_cons, Option.any_some, hblank,
      Bool.not_false, beq_self_eq_true, Bool.and_self, Bool.or_true, Bool.true_or]

/-- A word starts with a letter, a digit or a minus sign. -/
theorem IsWord.exists_cons {w : List Char} (h : IsWord w) :
    ∃ x cs, w = x :: cs ∧ (x.isAlphanum || x == '-') = true := by
  cases h with
  | letters h => exact ⟨_, _, rfl, by rw [(List.forall_mem_cons.1 h).1, Bool.true_or]⟩
  | signed h => exact ⟨_, _, rfl, rfl⟩

/-- No word goes on at a closing sign. -/
theorem run_plainWords_nil {c : Cursor} {sign : Char} (isSign : sign = ']' ∨ sign = '\x7d')
    {rest : List Char} (hc : c.rest = sign :: rest) (least n : Nat) (gap : List Char) :
    (plainWords true least n gap).run c = .ok ([], c) := by
  cases n with
  | zero => rfl
  | succ n =>
    have hmarker : c.atAnyMarker = false := by
      rcases isSign with rfl | rfl <;>
        simp [Cursor.atAnyMarker, Cursor.atMarker, hc, List.isPrefixOf]
    have hhash : (c.rest.head? == some '#') = false := by
      rcases isSign with rfl | rfl <;> rw [hc] <;> rfl
    have hword : (plainWord true c.rest.length).run c = .ok ([], c) := by
      refine run_plainWord_nil ?_ _
      rcases isSign with rfl | rfl <;> simp [hc, isFlowSign]
    rw [plainWords]
    simp only [StateT.run_bind, run_get, ok_bind, hmarker, hhash, Bool.or_self, Bool.false_eq_true,
      if_false, hword, List.isEmpty_nil, if_true, run_pure]

/-- A word is read as a plain scalar. Where the closing sign stands on the next line, the reader looks
there for more words before it gives the scalar back. -/
theorem run_plain {w : List Char} (hw : IsWord w) (least : Nat) {c : Cursor} {rest : List Char}
    (hc : c.rest = w ++ rest) (hrest : FollowsValue rest) :
    ∃ c', (plain true least).run c = .ok (.ofList w, c') ∧ c'.rest = skipGap rest ∧
      c'.fault = c.fault := by
  obtain ⟨x, cs, hcons, hx⟩ := hw.exists_cons
  have hempty : w.isEmpty = false := by rw [hcons]; rfl
  have hhash : (c.rest.head? == some '#') = false := by
    rw [hc, hcons, List.cons_append, List.head?_cons, beq_eq_false_iff_ne]
    intro heq
    rw [Option.some.inj heq] at hx
    exact absurd hx (by decide)
  have hmarker := hw.atAnyMarker hc
  have hword : (plainWord true c.rest.length).run c = .ok (w, c.along w) := by
    refine run_plainWord hw.goesOn (by simp [hc]) hc ?_
    cases hrest with
    | nil => simp
    | comma rest => simp [isFlowSign]
    | close level isSign rest => simp [lineBreak, isBreak]
  have hafter : (c.along w).rest = rest := Cursor.along_rest hc
  rw [plain]
  simp only [StateT.run_bind, run_fuel, ok_bind]
  rw [plainWords]
  simp only [StateT.run_bind, run_get, ok_bind, hmarker, hhash, Bool.or_self, Bool.false_eq_true,
    if_false, hword, hempty, hafter]
  cases hrest with
  | nil => exact ⟨c.along w, rfl, hafter, rfl⟩
  | comma rest => exact ⟨c.along w, rfl, hafter, rfl⟩
  | @close level sign isSign rest =>
    -- the line break is passed in search of another word, and the closing sign is none
    have hbreak : blanksThenBreak (lineBreak level ++ sign :: rest) = true := rfl
    have hblanks : (takeWhile isBlank).run (c.along w) = .ok ([], c.along w) :=
      run_takeWhile_of_not (by simp [hafter, lineBreak, isBlank])
    have hsign : isBreak sign = false ∧ isBlank sign = false := by
      rcases isSign with rfl | rfl <;> decide
    have hlong : 2 * level < (c.along w).rest.length + 1 := by
      simp only [hafter, lineBreak, List.cons_append, List.length_cons, List.length_append,
        List.length_replicate]
      omega
    obtain ⟨c', hrun, hc', hfault⟩ := run_lineBreaks least hlong hafter hsign
    refine ⟨c', ?_, ?_, hfault⟩
    · simp only [hbreak, if_true, StateT.run_bind, hblanks, ok_bind, run_fuel, hrun, Bool.not_true,
        Bool.false_and, Bool.false_eq_true, if_false, run_mark, run_plainWords_nil isSign hc', run_pure,
        List.nil_append, List.append_nil]
    · have hgap : isGap sign = false := by rcases isSign with rfl | rfl <;> rfl
      rw [hc', Json.skipGap_lineBreak, Json.skipGap_cons hgap]

end Reads
end Yaml
end RequiredArgs
