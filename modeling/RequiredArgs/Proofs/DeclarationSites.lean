/-
# Where declarations start

The tokens of a text start at increasing bytes inside the text (`Token.scan_offsets`), and the items of
a file are read from its tokens one after the other, each from tokens behind those of the one before
it. A declaration starts at its keyword, so the declarations of a file start at increasing bytes,
whether the file is free of errors or not (`SourceFile.parse_keywords`, `SourceFile.parse_offsets`), and
a word of 64 bits tells them apart in every text that it can measure.
-/

import Mathlib.Data.List.Nodup
import RequiredArgs.Go.Syntax.Source

namespace RequiredArgs
namespace Go

/-- No characters take no bytes. -/
@[simp] theorem byteSize_nil : byteSize [] = 0 := rfl

/-- A character takes the bytes of its encoding. -/
@[simp] theorem byteSize_cons (c : Char) (cs : List Char) :
    byteSize (c :: cs) = c.utf8Size + byteSize cs := rfl

/-- Sizes add up. -/
@[simp] theorem byteSize_append (cs cs' : List Char) :
    byteSize (cs ++ cs') = byteSize cs + byteSize cs' := by
  induction cs with
  | nil => simp
  | cons c cs ih => rw [List.cons_append, byteSize_cons, byteSize_cons, ih, Nat.add_assoc]

/-- Cutting a text in two keeps its size. -/
theorem byteSize_take_add_drop (n : Nat) (cs : List Char) :
    byteSize (cs.take n) + byteSize (cs.drop n) = byteSize cs := by
  rw [← byteSize_append, List.take_append_drop]

/-- As many bytes as a text has are the text. -/
theorem takeBytes_append (cs rest : List Char) : takeBytes (byteSize cs) (cs ++ rest) = cs := by
  induction cs with
  | nil => cases rest <;> rfl
  | cons c cs ih =>
    have hpos := c.utf8Size_pos
    rw [List.cons_append, byteSize_cons, takeBytes, if_neg (by omega), Nat.add_sub_cancel_left, ih]

/-- Tokens start at increasing bytes of the text that is left. -/
theorem Token.scan_offsets (fuel offset : Nat) (cs : List Char) :
    (scan fuel offset cs).Pairwise (·.offset < ·.offset) ∧
      ∀ t ∈ scan fuel offset cs, offset ≤ t.offset ∧ t.offset < offset + byteSize cs := by
  fun_induction scan fuel offset cs with
  | case1 | case2 => simp
  | case3 offset fuel c rest hspace ih =>
    refine ⟨ih.1, fun t ht => ?_⟩
    have hpos := c.utf8Size_pos
    have := ih.2 t ht
    rw [byteSize_cons]
    omega
  | case4 offset fuel c rest hspace lexeme n hnext ih =>
    have hpos := c.utf8Size_pos
    have hsize := byteSize_take_add_drop n rest
    simp only [byteSize_cons] at ih ⊢
    refine ⟨List.pairwise_cons.2 ⟨fun t ht => ?_, ih.1⟩, fun t ht => ?_⟩
    · have := ih.2 t ht
      show offset < t.offset
      omega
    · rcases List.mem_cons.1 ht with rfl | ht
      · show offset ≤ offset ∧ offset < _
        omega
      · have := ih.2 t ht
        omega

/-- The byte at which a declaration starts. -/
def Item.offset? : Item → Option Nat
  | .imported _ _ => none
  | .declared _ _ _ offset => some offset

/-- An import is no declaration. -/
theorem importSpec?_offset {ts rest : List Token} {i : Item} (h : importSpec? ts = some (i, rest)) :
    i.offset? = none := by
  unfold importSpec? at h
  repeat' split at h
  all_goals first | cases h; rfl | cases h

/-- A list of imports holds no declaration. -/
theorem importSpecs?_offsets {fuel : Nat} {ts rest : List Token} {is : List Item}
    (h : importSpecs? fuel ts = some (is, rest)) : is.filterMap Item.offset? = [] := by
  induction fuel generalizing ts is rest with
  | zero => cases h
  | succ fuel ih =>
    unfold importSpecs? at h
    split at h
    · cases h
      rfl
    split at h
    · cases h
    rename_i i rest' hspec
    have hi := importSpec?_offset hspec
    split at h
    · split at h
      · obtain ⟨⟨more, r⟩, hmore, heq⟩ := Option.map_eq_some_iff.1 h
        cases heq
        rw [List.filterMap_cons_none hi, ih hmore]
      · obtain ⟨r, -, heq⟩ := Option.map_eq_some_iff.1 h
        cases heq
        rw [List.filterMap_cons_none hi, List.filterMap_nil]
    · cases h

/-- An import declaration, with or without parentheses, holds no declaration of a function. -/
theorem importDecl?_offsets {ts rest : List Token} {is : List Item}
    (h : importDecl? ts = some (is, rest)) : is.filterMap Item.offset? = [] := by
  unfold importDecl? at h
  split at h
  · exact importSpecs?_offsets h
  · obtain ⟨⟨i, r⟩, hspec, heq⟩ := Option.map_eq_some_iff.1 h
    cases heq
    rw [List.filterMap_cons_none (importSpec?_offset hspec), List.filterMap_nil]

/-- Nothing is kept of a statement. -/
theorem statementItem_items (ts : List Token) : (statementItem ts).items = [] := by
  unfold statementItem
  split <;> rfl

/-- The bytes at which the keyword `func` stands. -/
def funcOffsets (ts : List Token) : List Nat :=
  (ts.filter (·.lexeme == .word "func")).map (·.offset)

/-- Tokens that are left out take their keywords with them and add none. -/
theorem funcOffsets_sublist {ts us : List Token} (h : ts.Sublist us) :
    (funcOffsets ts).Sublist (funcOffsets us) :=
  (h.filter _).map _

/-- The keywords of a text are those of its first token and of the rest. -/
theorem funcOffsets_cons (t : Token) (ts : List Token) :
    funcOffsets (t :: ts) = funcOffsets [t] ++ funcOffsets ts := by
  rw [funcOffsets, funcOffsets, funcOffsets, ← List.map_append, ← List.filter_append]
  rfl

/-- An item declares at most one function, at its first token, which is the keyword. -/
theorem readItem_offsets (t : Token) (after : List Token) :
    ((readItem t after).items.filterMap Item.offset?).Sublist (funcOffsets [t]) := by
  unfold readItem
  split
  · split <;> exact List.nil_sublist _
  · split
    · rename_i hdecl
      rw [importDecl?_offsets hdecl]
      exact List.nil_sublist _
    · exact List.nil_sublist _
  · rename_i hfunc
    unfold funcDecl?
    cases funcHeader? after with
    | none =>
      rw [Option.map_none, Option.getD_none, statementItem_items]
      exact List.nil_sublist _
    | some header =>
      have hkeyword : funcOffsets [t] = [t.offset] := by
        rw [funcOffsets, List.filter_singleton, beq_iff_eq.2 hfunc]
        rfl
      rw [hkeyword]
      exact List.Sublist.refl _
  · rw [statementItem_items]
    exact List.nil_sublist _

/-- Looking for the next line leaves tokens out and moves none. -/
theorem resync_sublist (depth : Nat) (ts : List Token) : (resync depth ts).Sublist ts := by
  fun_induction resync depth ts with
  | case1 => exact .slnil
  | case2 => exact List.sublist_cons_self _ _
  | case3 depth t rest _ _ ih => exact ih.cons t
  | case4 depth t rest _ ih => exact ih.cons t
  | case5 depth t rest _ ih => exact ih.cons t
  | case6 depth t rest _ _ _ ih => exact ih.cons t

/-- Passing the end of an item leaves tokens out and moves none. -/
theorem passEnd_sublist (ts : List Token) : (passEnd ts).2.Sublist ts := by
  unfold passEnd
  split
  · exact .slnil
  · split
    · exact List.sublist_cons_self _ _
    · exact resync_sublist 0 _

/-- Declarations start at keywords of the file, one behind the other. -/
theorem readItems_offsets (fuel : Nat) (ts : List Token) :
    ((readItems fuel ts).1.filterMap Item.offset?).Sublist (funcOffsets ts) := by
  induction fuel generalizing ts with
  | zero => exact List.nil_sublist _
  | succ fuel ih =>
    rw [readItems]
    split
    · exact List.nil_sublist _
    · rename_i t after hskip
      have hsub : (t :: after).Sublist ts := by
        rw [← hskip]
        exact List.dropWhile_sublist _
      let reading := readItem t after
      let rest := (passEnd (after.drop (after.length - reading.rest.length))).2
      have hrest : rest.Sublist after :=
        (passEnd_sublist _).trans (List.drop_sublist _ _)
      show ((reading.items ++ (readItems fuel rest).1).filterMap Item.offset?).Sublist _
      rw [List.filterMap_append]
      refine List.Sublist.trans ?_ (funcOffsets_sublist hsub)
      rw [funcOffsets_cons]
      exact (readItem_offsets t after).append ((ih rest).trans (funcOffsets_sublist hrest))

/-- The tokens of a text start at increasing bytes inside it, behind a byte order mark if there is
one. -/
theorem ofText_offsets (text : List Char) :
    (Token.ofText text).Pairwise (·.offset < ·.offset) ∧
      ∀ t ∈ Token.ofText text, t.offset < byteSize text := by
  unfold Token.ofText
  split
  · rename_i c rest
    split
    · obtain ⟨hpairwise, hbound⟩ := Token.scan_offsets rest.length c.utf8Size rest
      exact ⟨hpairwise, fun t ht => (hbound t ht).2⟩
    · obtain ⟨hpairwise, hbound⟩ := Token.scan_offsets (c :: rest).length 0 (c :: rest)
      exact ⟨hpairwise, fun t ht => by simpa using (hbound t ht).2⟩
  · simp

/-- The sites of the declarations are those of their bytes in the text. -/
theorem functionsOf_sites (text : List Char) (items : List Item) :
    (functionsOf text items).map (·.site) = (items.filterMap Item.offset?).map (siteOf text) := by
  rw [functionsOf, List.map_filterMap, List.map_filterMap]
  refine List.filterMap_congr fun i _ => ?_
  cases i <;> rfl

/-- The declarations of a file start at keywords of its text, one behind the other. -/
theorem SourceFile.parse_keywords (path source : String) :
    ∃ offsets : List Nat,
      offsets.Sublist (funcOffsets (Token.significant (Token.ofText source.toList))) ∧
      (SourceFile.parse path source).functions.map (·.site) =
        offsets.map (siteOf source.toList) := by
  let tokens := Token.significant (Token.ofText source.toList)
  exact ⟨_, readItems_offsets (tokens.length + 1) tokens, functionsOf_sites source.toList _⟩

/-- The keywords of a text stand at increasing bytes inside it. -/
theorem funcOffsets_ofText (text : List Char) :
    (funcOffsets (Token.significant (Token.ofText text))).Pairwise (· < ·) ∧
      ∀ o ∈ funcOffsets (Token.significant (Token.ofText text)), o < byteSize text := by
  obtain ⟨hpairwise, hbound⟩ := ofText_offsets text
  have hsub : ((Token.significant (Token.ofText text)).filter (·.lexeme == .word "func")).Sublist
      (Token.ofText text) := List.filter_sublist.trans List.filter_sublist
  refine ⟨List.pairwise_map.2 (hpairwise.sublist hsub), fun o ho => ?_⟩
  obtain ⟨t, ht, rfl⟩ := List.mem_map.1 ho
  exact hbound t (hsub.mem ht)

/-- The declarations of a file start at increasing bytes inside its text. -/
theorem SourceFile.parse_offsets (path source : String) :
    ∃ offsets : List Nat, offsets.Pairwise (· < ·) ∧
      (∀ o ∈ offsets, o < byteSize source.toList) ∧
      (SourceFile.parse path source).functions.map (·.site.offset) =
        offsets.map UInt64.ofNat := by
  obtain ⟨offsets, hsub, hsites⟩ := SourceFile.parse_keywords path source
  obtain ⟨hpairwise, hbound⟩ := funcOffsets_ofText source.toList
  refine ⟨offsets, hpairwise.sublist hsub, fun o ho => hbound o (hsub.mem ho), ?_⟩
  have hoffsets := congrArg (List.map Site.offset) hsites
  rwa [List.map_map, List.map_map] at hoffsets

/-- In a text that a word can measure, declarations start at different words. -/
theorem SourceFile.parse_offsets_nodup (path : String) {source : String}
    (h : byteSize source.toList ≤ UInt64.size) :
    ((SourceFile.parse path source).functions.map (·.site.offset)).Nodup := by
  obtain ⟨offsets, hincreasing, hbound, heq⟩ := SourceFile.parse_offsets path source
  rw [heq]
  refine List.Nodup.map_on (fun o ho o' ho' hword => ?_) (hincreasing.imp Nat.ne_of_lt)
  have hsmall : ∀ n ∈ offsets, (UInt64.ofNat n).toNat = n := fun n hn =>
    UInt64.toNat_ofNat_of_lt' (Nat.lt_of_lt_of_le (hbound n hn) h)
  rw [← hsmall o ho, ← hsmall o' ho', hword]

end Go
end RequiredArgs
