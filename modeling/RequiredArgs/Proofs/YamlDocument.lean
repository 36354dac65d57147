/-
# The layout of an object, read as a document

A text that starts with a brace has no directives and no block node; its first document is the flow
mapping that the brace opens. So the layout of an object is a text with one document, whose root writes
the object, and nothing behind it (`ofText_pretty`).
-/

import RequiredArgs.Proofs.YamlFlow

namespace RequiredArgs
namespace Yaml

open Json (Value skipGap lineBreak escapeChar quote)

/-- A laid out object starts with its opening brace. -/
theorem exists_layout_obj (ms : List (String × Value)) (level : Nat) :
    ∃ rest, (Value.obj ms).layout level = '\x7b' :: rest := by
  cases ms <;> exact ⟨_, by rw [Value.layout]⟩

namespace Reads

/-- In front of a token nothing is passed. -/
theorem run_skipBlock {c : Cursor}
    (h : ∀ x ∈ c.rest.head?, isBlank x = false ∧ isBreak x = false ∧ (x == '#') = false)
    (keyAllowed : Bool) : (skipBlock keyAllowed).run c = .ok (keyAllowed || c.inIndent, c) := by
  have hstay : ∀ (n : Nat) (k : Bool), (skipToToken false (n + 1) k).run c = .ok (k, c) := by
    intro n k
    rw [skipToToken]
    simp only [StateT.run_bind, run_next?, ok_bind]
    cases hc : c.rest with
    | nil => rfl
    | cons x rest =>
      obtain ⟨hblank, hbreak, hhash⟩ := h x (by rw [hc]; rfl)
      obtain ⟨hspace, htab⟩ : (x == ' ') = false ∧ (x == '\t') = false := by
        rwa [isBlank, Bool.or_eq_false_iff] at hblank
      simp only [List.head?_cons, hspace, htab, hhash, hbreak, Bool.false_and, Bool.or_self,
        Bool.false_eq_true, if_false, run_pure]
  rw [skipBlock]
  simp only [StateT.run_bind, run_fuel, run_get, ok_bind, hstay]

/-- A document that starts with a brace is one flow node. -/
theorem run_blockNode_flow {c c' : Cursor} {rest : List Char} {node : Node}
    (hc : c.rest = '\x7b' :: rest) (hc' : c'.rest = [])
    (hnode : (flowNode 0 (4 * c.rest.length + 4)).run c = .ok (node, c')) (n : Nat) :
    (blockNode (n + 1) 0 true false none).run c = .ok (node.withProps c.mark {}, c') := by
  have hskip : (skipBlock true).run c = .ok (true, c) :=
    run_skipBlock (by simp [hc, isBlank, isBreak]) true
  have hmarker : c.atAnyMarker = false := by
    simp [Cursor.atAnyMarker, Cursor.atMarker, hc, List.isPrefixOf]
  have habsent : isAbsent 0 false c = false := by
    simp [isAbsent, hmarker, hc]
  have hindicator : ∀ x, x ≠ '\x7b' → c.atIndicator x = false := by
    intro x hx
    simp [Cursor.atIndicator, hc, hx]
  have hprops : ∀ n, (props false n {}).run c = .ok ({}, c) := fun n =>
    run_props (by simp [hc]) n {}
  have hcolon : (atColon false c.mark).run c = .ok (false, c) :=
    run_atColon_of_not (by simp [hc, Json.skipGap_cons (c := '\x7b') rfl]) false c.mark
  have hcolon' : (atColon false c.mark).run c' = .ok (false, c') :=
    run_atColon_of_not (by simp [hc', skipGap]) false c.mark
  have hinline : (inlineContent c.mark {} 0).run c = .ok (node.withProps c.mark {}, c') := by
    rw [hc] at hnode
    rw [inlineContent]
    simp only [StateT.run_bind, run_get, ok_bind, hc, hnode, run_pure]
  rw [blockNode]
  refine run_orCut ?_
  simp only [StateT.run_bind, run_mark, ok_bind, hskip, run_get, habsent, Bool.false_eq_true, if_false,
    hindicator '-' (by decide), hindicator '?' (by decide), hindicator ':' (by decide), run_fuel,
    hprops, hcolon, hasProps_empty, Bool.false_and, hinline, hcolon', Bool.and_false, run_pure,
    Option.getD_none]

/-- A text that is one flow mapping is a document with nothing behind it. -/
theorem run_stream {c c' : Cursor} {rest : List Char} {node : Node} (hc : c.rest = '\x7b' :: rest)
    (hfault : c'.fault = none) (hc' : c'.rest = [])
    (hnode : (flowNode 0 (4 * c.rest.length + 4)).run c = .ok (node, c')) :
    stream.run c = .ok ({ root := some (node.withProps c.mark {}), hasMore := false }, c') := by
  have hskip : (skipBlock true).run c = .ok (true, c) :=
    run_skipBlock (by simp [hc, isBlank, isBreak]) true
  have hskip' : (skipBlock false).run c' = .ok (c'.inIndent, c') :=
    run_skipBlock (by simp [hc']) false
  have hdirectives : (directives (c.rest.length + 1) false [] false).run c = .ok (false, c) := by
    have hpercent : (c.mark.column == 0 && c.rest.head? == some '%') = false := by simp [hc]
    rw [directives]
    simp only [StateT.run_bind, hskip, ok_bind, run_get, hpercent, Bool.false_eq_true, if_false,
      run_pure]
  have hmarker : ∀ x, x ≠ '\x7b' → c.atMarker x = false := by
    intro x hx
    simp [Cursor.atMarker, hc, List.isPrefixOf, hx]
  have hempty : c.rest.isEmpty = false := by rw [hc]; rfl
  have hroot := run_blockNode_flow hc hc' hnode (4 * (c.rest.length + 1) + 3)
  have hends : (passEnds (c.rest.length + 1)).run c' = .ok ((), c') := by
    have hdots : c'.atMarker '.' = false := by simp [Cursor.atMarker, hc']
    rw [passEnds]
    simp only [StateT.run_bind, hskip', ok_bind, run_get, hdots, Bool.false_eq_true, if_false,
      run_pure]
  refine run_orCut ?_
  simp only [StateT.run_bind, run_fuel, ok_bind, hdirectives, run_get, hempty, Bool.false_and,
    Bool.false_eq_true, if_false, hmarker '-' (by decide), hmarker '.' (by decide), hroot, run_isCut,
    hfault, Option.isSome_none, hskip', hends, hc', List.isEmpty_nil, Bool.not_true, run_pure]

/-- The layout of an object is read as a document whose root writes the object. -/
theorem run_stream_layout {depth : Nat} {ms : List (String × Value)}
    (h : Printable (depth + 1) (.obj ms)) :
    ∃ root c', stream.run { rest := (Value.obj ms).layout 0 } =
      .ok ({ root := some root, hasMore := false }, c') ∧ Writes root (.obj ms) := by
  have hfuel : ((Value.obj ms).layout 0).length ≤ 4 * ((Value.obj ms).layout 0).length + 4 := by
    omega
  obtain ⟨n, c', hrun, hn, hfault, hc'⟩ :=
    run_flowNode_obj (c := { rest := (Value.obj ms).layout 0 })
      (fun hv => run_flowNode_layout 0 hv) h hfuel (List.append_nil _).symm rfl
  obtain ⟨rest, hrest⟩ := exists_layout_obj ms 0
  have hstream := run_stream (c := { rest := (Value.obj ms).layout 0 }) hrest hfault hc' hrun
  exact ⟨_, c', hstream, hn.withProps _⟩

end Reads

/-! Every character of a printable value's layout may stand in a text. -/

/-- Printable characters may stand in a document. -/
theorem isAllowed_of_isPrintable {x : Char} (h : isPrintable x = true) :
    isAllowed x = true := by
  rw [isPrintable] at h
  simp only [isAllowed, h, Bool.or_true, Bool.true_or]

/-- A line break with its indentation may stand in a document. -/
theorem isAllowed_lineBreak (level : Nat) : ∀ x ∈ lineBreak level, isAllowed x = true := by
  intro x hx
  rcases List.mem_cons.1 hx with rfl | hx
  · rfl
  · rw [List.eq_of_mem_replicate hx]
    rfl

/-- A quoted text of printable characters may stand in a document: escapes add none that may not. -/
theorem isAllowed_quote {s : String} (h : ∀ x ∈ s.toList, isPrintable x = true) :
    ∀ x ∈ quote s, isAllowed x = true := by
  have hescaped : ∀ x ∈ s.toList.flatMap escapeChar, isAllowed x = true := fun x hx =>
    isAllowed_of_isPrintable (Reads.isPrintable_of_mem_escaped h x hx)
  rw [quote]
  simp only [List.forall_mem_cons, List.forall_mem_append]
  exact ⟨rfl, hescaped, rfl, List.forall_mem_nil _⟩

/-- The digits of an integer may stand in a document. -/
theorem isAllowed_intDigits (n : Int) : ∀ x ∈ Json.intDigits n, isAllowed x = true := by
  have hdigits : ∀ n, ∀ x ∈ Json.natDigits n, isAllowed x = true := by
    intro n x hx
    have hdigit : 48 ≤ x.val.toNat ∧ x.val.toNat ≤ 57 := by
      simpa [Char.isDigit, UInt32.le_iff_toNat_le] using Json.isDigit_of_mem_natDigits hx
    refine isAllowed_of_isPrintable ?_
    rw [isPrintable, Bool.and_eq_true, decide_eq_true_eq, decide_eq_true_eq, Char.toNat]
    omega
  cases n with
  | ofNat n => exact hdigits n
  | negSucc n => exact List.forall_mem_cons.2 ⟨rfl, hdigits (n + 1)⟩

/-- Items that may stand in a document may do so with the commas and line breaks between them. -/
theorem isAllowed_layoutItems (level : Nat) {vs : List Value}
    (h : ∀ v ∈ vs, ∀ x ∈ v.layout level, isAllowed x = true) :
    ∀ x ∈ Value.layoutItems level vs, isAllowed x = true := by
  induction vs with
  | nil => exact List.forall_mem_nil _
  | cons v vs ih =>
    obtain ⟨hv, hvs⟩ := List.forall_mem_cons.1 h
    rw [Value.layoutItems]
    simp only [List.forall_mem_cons, List.forall_mem_append]
    exact ⟨rfl, isAllowed_lineBreak level, hv, ih hvs⟩

/-- Members that may stand in a document may do so with the signs and line breaks between them. -/
theorem isAllowed_layoutMembers (level : Nat) {ms : List (String × Value)}
    (h : ∀ m ∈ ms, (∀ x ∈ quote m.1, isAllowed x = true) ∧
      ∀ x ∈ m.2.layout level, isAllowed x = true) :
    ∀ x ∈ Value.layoutMembers level ms, isAllowed x = true := by
  induction ms with
  | nil => exact List.forall_mem_nil _
  | cons m ms ih =>
    obtain ⟨⟨hk, hv⟩, hms⟩ := List.forall_mem_cons.1 h
    rw [Value.layoutMembers]
    simp only [List.forall_mem_cons, List.forall_mem_append]
    exact ⟨rfl, isAllowed_lineBreak level, hk, rfl, rfl, hv, ih hms⟩

/-- **Every printable value is laid out in characters that may stand in a document**, by induction
on its depth. -/
theorem isAllowed_layout {depth level : Nat} {v : Value} (h : Printable depth v) :
    ∀ x ∈ v.layout level, isAllowed x = true := by
  cases v with
  | null => exact List.all_eq_true.1 (rfl : ['n', 'u', 'l', 'l'].all isAllowed = true)
  | bool b =>
    cases b with
    | true => exact List.all_eq_true.1 (rfl : ['t', 'r', 'u', 'e'].all isAllowed = true)
    | false => exact List.all_eq_true.1 (rfl : ['f', 'a', 'l', 's', 'e'].all isAllowed = true)
  | int n => exact isAllowed_intDigits n
  | real lexeme => exact absurd rfl (h.ne_real lexeme)
  | str s => exact isAllowed_quote (by cases depth <;> exact h)
  | arr vs =>
    cases depth with
    | zero => exact h.elim
    | succ depth =>
      have hitems := isAllowed_layoutItems (level + 1) fun v hv => isAllowed_layout (h v hv)
      cases vs with
      | nil => exact List.all_eq_true.1 (rfl : ['[', ']'].all isAllowed = true)
      | cons v vs =>
        rw [Value.layoutItems] at hitems
        rw [Value.layout]
        simp only [List.forall_mem_cons, List.forall_mem_append] at hitems ⊢
        exact ⟨rfl, hitems.2.1, hitems.2.2.1, hitems.2.2.2, isAllowed_lineBreak level, rfl,
          List.forall_mem_nil _⟩
  | obj ms =>
    cases depth with
    | zero => exact h.elim
    | succ depth =>
      have hmembers := isAllowed_layoutMembers (level + 1) fun m hm =>
        ⟨isAllowed_quote (h m hm).1, isAllowed_layout (h m hm).2.2⟩
      cases ms with
      | nil => exact List.all_eq_true.1 (rfl : ['\x7b', '\x7d'].all isAllowed = true)
      | cons m ms =>
        rw [Value.layoutMembers] at hmembers
        rw [Value.layout]
        simp only [List.forall_mem_cons, List.forall_mem_append] at hmembers ⊢
        obtain ⟨-, hline, hk, -, -, hv, hms⟩ := hmembers
        exact ⟨rfl, hline, hk, rfl, rfl, hv, hms, isAllowed_lineBreak level, rfl, List.forall_mem_nil _⟩
termination_by depth

/-- The layout of an object is a document whose root writes the object. -/
theorem ofText_pretty {depth : Nat} {ms : List (String × Value)}
    (h : Printable (depth + 1) (.obj ms)) :
    ∃ root, Stream.ofText (Value.obj ms).pretty = { root := some root, hasMore := false } ∧
      Writes root (.obj ms) := by
  obtain ⟨root, c', hrun, hroot⟩ := Reads.run_stream_layout h
  refine ⟨root, ?_, hroot⟩
  have hallowed : ((Value.obj ms).layout 0).all isAllowed = true :=
    List.all_eq_true.2 (isAllowed_layout h)
  obtain ⟨rest, hrest⟩ := exists_layout_obj ms 0
  rw [hrest] at hrun hallowed
  rw [Stream.ofText, Value.pretty, String.toList_ofList, hrest]
  simp [hallowed, hrun]

end Yaml
end RequiredArgs
