/-
# Lines and columns of declarations

A site gives the place of a declaration three times: by its byte, by its line and by the column in that
line, which counts bytes too. `Location.IsIn` says what these numbers mean for the bytes of a text, and
on the locations of one text all orders are the same: byte by byte, or line by line and on a line by
the column (`Location.IsIn.lt_iff_before`).

Sites are computed from characters. That the counts agree with those of bytes rests on one fact about
the encoding, that a line feed is no part of another character (`mem_utf8EncodeChar_iff`); a line end
of two characters or a mark at the start of the text needs no special case.

A site holds words, and a text of 2 ^ 32 bytes or more can have locations that they cannot hold. In a
shorter text the sites are the locations, so that the diagnostics of a file, which are sorted by byte,
are in the order of the declarations and of lines and columns (`SourceFile.parse_sites_coherent`).
-/

import Mathlib.Data.List.TakeWhile
import RequiredArgs.Proofs.DeclarationSites
import RequiredArgs.Proofs.FileIndependence
import RequiredArgs.Proofs.RuleIndependence
import RequiredArgs.Proofs.SourceRoundTrip

namespace RequiredArgs
namespace Go

/-! ### Texts as bytes -/

/-- The bytes of a text. -/
def utf8Bytes (cs : List Char) : List UInt8 := cs.flatMap String.utf8EncodeChar

/-- The bytes of the first character stand in front. -/
@[simp] theorem utf8Bytes_cons (c : Char) (cs : List Char) :
    utf8Bytes (c :: cs) = String.utf8EncodeChar c ++ utf8Bytes cs := List.flatMap_cons

/-- Bytes are concatenated as characters are. -/
@[simp] theorem utf8Bytes_append (cs ds : List Char) :
    utf8Bytes (cs ++ ds) = utf8Bytes cs ++ utf8Bytes ds := List.flatMap_append

/-- The size of a text is the number of its bytes. -/
theorem length_utf8Bytes (cs : List Char) : (utf8Bytes cs).length = byteSize cs := by
  induction cs with
  | nil => rfl
  | cons c cs ih =>
    rw [utf8Bytes_cons, List.length_append, String.length_utf8EncodeChar, ih, byteSize_cons]

/-- The bytes in which a text is stored. -/
def storedBytes (s : String) : List UInt8 := s.toUTF8.data.toList

/-- A stored text has the bytes of its characters. -/
theorem storedBytes_eq (s : String) : storedBytes s = utf8Bytes s.toList := by
  rw [storedBytes, String.toUTF8_eq_toByteArray, ← String.utf8Encode_toList, List.utf8Encode,
    List.toList_data_toByteArray, utf8Bytes]

/-- A line feed is a byte of no other character. -/
theorem mem_utf8EncodeChar_iff {c : Char} : 10 ∈ String.utf8EncodeChar c ↔ c = '\n' := by
  have hval : c = '\n' ↔ c.val.toNat = 10 := by
    rw [← Char.val_inj, ← UInt32.toNat_inj]
    rfl
  have hten : (10 : UInt8).toNat = 10 := rfl
  simp only [hval, String.utf8EncodeChar]
  -- one byte is the character itself, and the bytes of a longer one are all at least 128
  repeat' split
  all_goals
    simp only [List.mem_cons, List.not_mem_nil, or_false, ← UInt8.toNat_inj, UInt8.toNat_ofNat',
      hten]
    omega

/-- A line feed stands among the bytes exactly if it stands among the characters. -/
theorem mem_utf8Bytes_iff {cs : List Char} : 10 ∈ utf8Bytes cs ↔ '\n' ∈ cs := by
  simp only [utf8Bytes, List.mem_flatMap, mem_utf8EncodeChar_iff, exists_eq_right]

/-- There are as many line feeds among the bytes as among the characters, since no other character
has that byte. -/
theorem count_utf8Bytes (cs : List Char) : (utf8Bytes cs).count 10 = cs.count '\n' := by
  induction cs with
  | nil => rfl
  | cons c cs ih =>
    rw [utf8Bytes_cons, List.count_append, ih, List.count_cons, Nat.add_comm]
    congr 1
    by_cases hc : c = '\n'
    · subst hc
      rfl
    · rw [if_neg (by simpa using hc), List.count_eq_zero, mem_utf8EncodeChar_iff]
      exact hc

/-! ### Locations -/

/-- A place in a text: its byte, line and column, lines and columns counted from one. -/
structure Location where
  offset : Nat
  line : Nat
  column : Nat
deriving DecidableEq, Repr

namespace Location

/-- The lines above some byte and the part of its line in front of it. -/
def Cut (above here : List UInt8) : Prop :=
  (above = [] ∨ ∃ lines, above = lines ++ [10]) ∧ 10 ∉ here

/-- The location is one of a text with the given bytes: its byte is one of them, its line counts the
line feeds in front of it, and its column the bytes behind the last of these, or from the start of the
text if there is none. -/
structure IsIn (l : Location) (bytes : List UInt8) : Prop where
  inside : l.offset < bytes.length
  line : l.line = 1 + (bytes.take l.offset).count 10
  column : ∃ above here, bytes.take l.offset = above ++ here ∧ Cut above here ∧
    l.column = 1 + here.length

/-- The location comes before the other one, line by line and on a line by the column. -/
def Before (l m : Location) : Prop := l.line < m.line ∨ l.line = m.line ∧ l.column < m.column

/-- What is kept of a location: its numbers as words. -/
def site (l : Location) : Site where
  line := .ofNat l.line
  column := .ofNat l.column
  offset := .ofNat l.offset

/-- The lines above a byte end with a line feed, so they are not followed by a part without one. -/
theorem eq_nil_of_cut {above extra here : List UInt8} (ends : Cut (above ++ extra) here)
    (free : 10 ∉ extra) : extra = [] := by
  rcases ends.1 with hnil | ⟨lines, hlines⟩
  · exact (List.append_eq_nil_iff.1 hnil).2
  · by_contra hne
    have hlast : (above ++ extra).getLast? = extra.getLast? := List.getLast?_append_of_ne_nil _ hne
    rw [hlines, List.getLast?_concat] at hlast
    exact free (List.mem_of_getLast? hlast.symm)

/-- A text is cut in one way. -/
theorem Cut.unique {above here above' here' : List UInt8} (hcut : Cut above here)
    (hcut' : Cut above' here') (h : above ++ here = above' ++ here') : here = here' := by
  rcases List.append_eq_append_iff.1 h with ⟨extra, rfl, rfl⟩ | ⟨extra, rfl, rfl⟩
  · rw [eq_nil_of_cut hcut' fun hmem => hcut.2 (List.mem_append_left _ hmem), List.nil_append]
  · rw [eq_nil_of_cut hcut fun hmem => hcut'.2 (List.mem_append_left _ hmem), List.nil_append]

variable {l m : Location} {bytes : List UInt8}

/-- Of two locations of a text the one with the smaller offset comes first. -/
theorem IsIn.before_of_lt (hl : l.IsIn bytes) (hm : m.IsIn bytes) (h : l.offset < m.offset) :
    l.Before m := by
  let between := (bytes.drop l.offset).take (m.offset - l.offset)
  have htake : bytes.take m.offset = bytes.take l.offset ++ between := by
    rw [← List.take_add, Nat.add_sub_cancel' (Nat.le_of_lt h)]
  have hlength : between.length = m.offset - l.offset := by
    have hinside := hm.inside
    rw [List.length_take, List.length_drop]
    omega
  have hline : m.line = l.line + between.count 10 := by
    rw [hl.line, hm.line, htake, List.count_append, Nat.add_assoc]
  rcases Nat.eq_zero_or_pos (between.count 10) with hzero | hpos
  · -- without a line feed between them the part of the line only grows
    obtain ⟨above, here, hbytes, hcut, hcolumn⟩ := hl.column
    obtain ⟨above', here', hbytes', hcut', hcolumn'⟩ := hm.column
    have hgrows : Cut above (here ++ between) :=
      ⟨hcut.1, List.not_mem_append hcut.2 (List.count_eq_zero.1 hzero)⟩
    have hhere : here ++ between = here' := by
      refine hgrows.unique hcut' ?_
      rw [← List.append_assoc, ← hbytes, ← htake, hbytes']
    refine .inr ⟨by omega, ?_⟩
    rw [hcolumn, hcolumn', ← hhere, List.length_append]
    omega
  · exact .inl (by omega)

/-- Offsets order the locations of a text like lines and columns. -/
theorem IsIn.lt_iff_before (hl : l.IsIn bytes) (hm : m.IsIn bytes) :
    l.offset < m.offset ↔ l.Before m := by
  refine ⟨hl.before_of_lt hm, fun hbefore => ?_⟩
  rcases Nat.lt_trichotomy l.offset m.offset with h | h | h
  · exact h
  · have hline : l.line = m.line := by rw [hl.line, hm.line, h]
    obtain ⟨above, here, hbytes, hcut, hcolumn⟩ := hl.column
    obtain ⟨above', here', hbytes', hcut', hcolumn'⟩ := hm.column
    have hhere : here = here' := hcut.unique hcut' (by rw [← hbytes, ← hbytes', h])
    rw [← hhere] at hcolumn'
    rcases hbefore with hlt | ⟨-, hlt⟩ <;> omega
  · rcases hm.before_of_lt hl h with hlt | ⟨heq, hlt⟩ <;>
      rcases hbefore with hlt' | ⟨heq', hlt'⟩ <;> omega

/-- The numbers that the words of a site stand for. -/
def ofSite (s : Site) : Location where
  offset := s.offset.toNat
  line := s.line.toNat
  column := s.column.toNat

/-- Words of 32 bits hold the locations of a text that they can measure. -/
theorem IsIn.ofSite_site (h : l.IsIn bytes) (small : bytes.length < 2 ^ 32) :
    ofSite l.site = l := by
  have hinside := h.inside
  have hline : l.line ≤ bytes.length := by
    have hcount : (bytes.take l.offset).count 10 ≤ (bytes.take l.offset).length :=
      List.count_le_length
    rw [List.length_take] at hcount
    rw [h.line]
    omega
  have hcolumn : l.column ≤ bytes.length := by
    obtain ⟨above, here, hbytes, -, hcolumn⟩ := h.column
    have hlength := congrArg List.length hbytes
    rw [List.length_take, List.length_append] at hlength
    rw [hcolumn]
    omega
  have h32 : UInt32.size = 2 ^ 32 := rfl
  have h64 : UInt64.size = 2 ^ 64 := rfl
  have hoffset : l.site.offset.toNat = l.offset := UInt64.toNat_ofNat_of_lt' (by omega)
  have hline : l.site.line.toNat = l.line := UInt32.toNat_ofNat_of_lt' (by omega)
  have hcolumn : l.site.column.toNat = l.column := UInt32.toNat_ofNat_of_lt' (by omega)
  rw [ofSite, hoffset, hline, hcolumn]

/-- The location of byte `offset` of a text. -/
def ofOffset (text : List Char) (offset : Nat) : Location :=
  let before := takeBytes offset text
  { offset
    line := 1 + before.count '\n'
    column := 1 + byteSize (before.reverse.takeWhile (· != '\n')) }

/-- The site of a location is the one that the reader computes. -/
theorem site_ofOffset (text : List Char) (offset : Nat) :
    (ofOffset text offset).site = siteOf text offset := rfl

/-- The order of characters does not matter for their size. -/
theorem byteSize_reverse (cs : List Char) : byteSize cs.reverse = byteSize cs := by
  induction cs with
  | nil => rfl
  | cons c cs ih =>
    rw [List.reverse_cons, byteSize_append, ih, byteSize_cons, byteSize_cons, byteSize_nil,
      Nat.add_zero, Nat.add_comm]

/-- The characters behind the last line feed are the part of the line. -/
theorem cut_utf8Bytes (cs : List Char) :
    ∃ above here, utf8Bytes cs = above ++ here ∧ Cut above here ∧
      here.length = byteSize (cs.reverse.takeWhile (· != '\n')) := by
  let line := cs.reverse.takeWhile (· != '\n')
  let lines := cs.reverse.dropWhile (· != '\n')
  have hcs : cs = lines.reverse ++ line.reverse := by
    rw [← List.reverse_append, List.takeWhile_append_dropWhile, List.reverse_reverse]
  refine ⟨utf8Bytes lines.reverse, utf8Bytes line.reverse, ?_, ⟨?_, ?_⟩, ?_⟩
  · rw [← utf8Bytes_append, ← hcs]
  · cases hlines : lines with
    | nil => exact .inl rfl
    | cons c rest =>
      have hhead := List.head?_dropWhile_not (· != '\n') cs.reverse
      rw [show cs.reverse.dropWhile (· != '\n') = c :: rest from hlines] at hhead
      obtain rfl : c = '\n' := by simpa using hhead
      exact .inr ⟨utf8Bytes rest.reverse, by rw [List.reverse_cons, utf8Bytes_append]; rfl⟩
  · rw [mem_utf8Bytes_iff, List.mem_reverse]
    intro hmem
    exact absurd (List.mem_takeWhile_imp hmem) (by decide)
  · rw [length_utf8Bytes, byteSize_reverse]

/-- The characters of a text start at locations of it. -/
theorem isIn_ofOffset (before : List Char) {after : List Char} (h : after ≠ []) :
    (ofOffset (before ++ after) (byteSize before)).IsIn (utf8Bytes (before ++ after)) := by
  have htake : (utf8Bytes (before ++ after)).take (byteSize before) = utf8Bytes before := by
    rw [utf8Bytes_append, ← length_utf8Bytes, List.take_left]
  obtain ⟨above, here, hbytes, hcut, hlength⟩ := cut_utf8Bytes before
  refine ⟨?_, ?_, above, here, ?_, hcut, ?_⟩
  · obtain ⟨c, rest, rfl⟩ := List.exists_cons_of_ne_nil h
    have hpos := c.utf8Size_pos
    rw [length_utf8Bytes, byteSize_append, byteSize_cons]
    show byteSize before < _
    omega
  · show 1 + (takeBytes (byteSize before) (before ++ after)).count '\n' =
      1 + (List.take (byteSize before) _).count 10
    rw [takeBytes_append, htake, count_utf8Bytes]
  · exact htake.trans hbytes
  · show 1 + byteSize ((takeBytes (byteSize before) (before ++ after)).reverse.takeWhile _) = _
    rw [takeBytes_append, hlength]

end Location

/-! ### Tokens in their text -/

/-- A token is the lexeme of the text behind some characters, and starts at the byte behind them. -/
theorem Token.exists_of_mem_scan {fuel offset : Nat} {cs : List Char} {t : Token}
    (h : t ∈ scan fuel offset cs) :
    ∃ before c rest, cs = before ++ c :: rest ∧ t.offset = offset + byteSize before ∧
      t.lexeme = (Lexeme.next c rest).1 := by
  fun_induction scan fuel offset cs with
  | case1 | case2 => cases h
  | case3 offset fuel c rest hspace ih =>
    obtain ⟨before, c', rest', rfl, hoffset, hlexeme⟩ := ih h
    refine ⟨c :: before, c', rest', rfl, ?_, hlexeme⟩
    rw [hoffset, byteSize_cons, Nat.add_assoc]
  | case4 offset fuel c rest hspace lexeme n hnext ih =>
    rcases List.mem_cons.1 h with rfl | h
    · exact ⟨[], c, rest, rfl, rfl, by rw [hnext]⟩
    · obtain ⟨before, c', rest', hdrop, hoffset, hlexeme⟩ := ih h
      refine ⟨c :: rest.take n ++ before, c', rest', ?_, ?_, hlexeme⟩
      · rw [List.append_assoc, ← hdrop, List.cons_append, List.take_append_drop]
      · rw [hoffset, byteSize_append, Nat.add_assoc]

/-- A token of a text stands at a character of it, at the byte of that character, and is the lexeme
that starts there. -/
theorem Token.exists_of_mem_ofText {text : List Char} {t : Token} (h : t ∈ ofText text) :
    ∃ before c rest, text = before ++ c :: rest ∧ t.offset = byteSize before ∧
      t.lexeme = (Lexeme.next c rest).1 := by
  unfold ofText at h
  split at h
  · rename_i c rest
    split at h
    · obtain ⟨before, c', rest', rfl, hoffset, hlexeme⟩ := exists_of_mem_scan h
      exact ⟨c :: before, c', rest', rfl, hoffset, hlexeme⟩
    · obtain ⟨before, c', rest', htext, hoffset, hlexeme⟩ := exists_of_mem_scan h
      exact ⟨before, c', rest', htext, by rw [hoffset, Nat.zero_add], hlexeme⟩
  · cases h

/-- A word is what the text starts with. -/
theorem Lexeme.word_isPrefix {c : Char} {rest : List Char} {w : String}
    (h : (next c rest).1 = .word w) : w.toList <+: c :: rest := by
  unfold next at h
  split at h
  · cases h
  split at h
  · obtain rfl := Lexeme.word.inj h
    rw [String.toList_ofList]
    exact (List.prefix_cons_inj c).2 (List.takeWhile_prefix _)
  repeat' split at h
  all_goals cases h

/-- At the byte of a keyword the text goes on with the keyword. -/
theorem exists_of_mem_funcOffsets {text : List Char} {o : Nat}
    (h : o ∈ funcOffsets (Token.significant (Token.ofText text))) :
    ∃ before after, text = before ++ ("func".toList ++ after) ∧ o = byteSize before := by
  obtain ⟨t, ht, rfl⟩ := List.mem_map.1 h
  obtain ⟨hmem, hfunc⟩ := List.mem_filter.1 ht
  obtain ⟨before, c, rest, rfl, hoffset, hlexeme⟩ :=
    Token.exists_of_mem_ofText (List.mem_of_mem_filter hmem)
  obtain ⟨after, hafter⟩ := Lexeme.word_isPrefix (hlexeme.symm.trans (beq_iff_eq.1 hfunc))
  exact ⟨before, after, by rw [hafter], hoffset⟩

/-- The bytes behind some characters of a text. -/
theorem drop_utf8Bytes (before after : List Char) :
    (utf8Bytes (before ++ after)).drop (byteSize before) = utf8Bytes after := by
  rw [utf8Bytes_append, ← length_utf8Bytes, List.drop_left]

/-- The declarations of a file start at locations of its text where the keyword stands. -/
theorem SourceFile.exists_locations (path source : String) :
    ∃ locations : List Location,
      (SourceFile.parse path source).functions.map (·.site) = locations.map Location.site ∧
      (∀ l ∈ locations, l.IsIn (utf8Bytes source.toList) ∧
        utf8Bytes "func".toList <+: (utf8Bytes source.toList).drop l.offset) ∧
      locations.Pairwise (·.offset < ·.offset) := by
  obtain ⟨offsets, hsub, hsites⟩ := SourceFile.parse_keywords path source
  refine ⟨offsets.map (Location.ofOffset source.toList), ?_, ?_, ?_⟩
  · rw [hsites, List.map_map]
    exact List.map_congr_left fun o _ => (Location.site_ofOffset source.toList o).symm
  · intro l hl
    obtain ⟨o, ho, rfl⟩ := List.mem_map.1 hl
    obtain ⟨before, after, htext, rfl⟩ := exists_of_mem_funcOffsets (hsub.mem ho)
    rw [htext]
    refine ⟨Location.isIn_ofOffset before (List.append_ne_nil_of_left_ne_nil (by decide) after), ?_⟩
    show _ <+: List.drop (byteSize before) _
    rw [drop_utf8Bytes, utf8Bytes_append]
    exact List.prefix_append _ _
  · exact List.pairwise_map.2 ((funcOffsets_ofText source.toList).1.sublist hsub)

end Go

open Go (SourceFile Location storedBytes storedBytes_eq)

/-! ### Diagnostics in the order of declarations -/

/-- The place of the declaration that a diagnostic is about. -/
def Diagnostic.site (diag : Diagnostic) : Site :=
  { line := diag.line, column := diag.column, offset := diag.offset }

/-- What is found at a declaration carries its file and its site. -/
theorem site_of_mem_checkFunction {rules : List Rule} {c : Context} {site : Site}
    {diag : Diagnostic} (h : diag ∈ checkFunction rules c site) :
    diag.file = c.fileName ∧ diag.site = site := by
  rw [checkFunction] at h
  split at h
  · cases h
  · obtain ⟨⟨r, i⟩, -, h⟩ := List.mem_filterMap.1 h
    cases Rule.check_eq_some_iff.1 h <;> exact ⟨rfl, rfl⟩

/-- What is found in a file is at the site of one of its declarations. -/
theorem site_of_mem_checkFile {rules : List Rule} {f : SourceFile} {diag : Diagnostic}
    (h : diag ∈ checkFile rules f) : ∃ d ∈ f.functions, diag.site = d.site := by
  obtain ⟨d, hd, h⟩ := List.mem_flatMap.1 h
  exact ⟨d, hd, (site_of_mem_checkFunction h).2⟩

/-- Where declarations stand at increasing bytes, what is found in the order of the declarations is in
the order of a report. -/
theorem checkFile_pairwise (rules : List Rule) {f : SourceFile}
    (increasing : f.functions.Pairwise (·.site.offset < ·.site.offset)) :
    (checkFile rules f).Pairwise (Diagnostic.precedes · ·) := by
  rw [checkFile, List.pairwise_flatMap]
  refine ⟨fun d _ => ?_, increasing.imp fun {d e} hlt a ha b hb => ?_⟩
  · refine (checkFunction_ruleIndex_pairwise rules _ _).imp_of_mem fun {a b} ha hb hlt => ?_
    obtain ⟨hfile, hsite⟩ := site_of_mem_checkFunction ha
    obtain ⟨hfile', hsite'⟩ := site_of_mem_checkFunction hb
    have hoffset : a.offset = b.offset := congrArg Site.offset (hsite.trans hsite'.symm)
    exact Diagnostic.precedes_iff.2
      (.inr ⟨hfile.trans hfile'.symm, .inr ⟨hoffset, Nat.le_of_lt hlt⟩⟩)
  · obtain ⟨hfile, hsite⟩ := site_of_mem_checkFunction ha
    obtain ⟨hfile', hsite'⟩ := site_of_mem_checkFunction hb
    refine Diagnostic.precedes_iff.2 (.inr ⟨hfile.trans hfile'.symm, .inl ?_⟩)
    rw [show a.offset = d.site.offset from congrArg Site.offset hsite,
      show b.offset = e.site.offset from congrArg Site.offset hsite']
    exact hlt

/-- What a run reports of the only source of a name is what is found in its file, in that order. -/
theorem diagnostics_of_only (rules : List Rule) {path source : String}
    {sources : List (String × String)}
    (increasing : (SourceFile.parse path source).functions.Pairwise (·.site.offset < ·.site.offset))
    (only : sources.filter (fun s => s.1 == path) = [(path, source)]) :
    (checkSources rules sources).diagnostics.filter (·.file == path) =
      checkFile rules (SourceFile.parse path source) := by
  rw [checkSources_filter rules (· == path), only]
  show (_ : List Diagnostic).mergeSort Diagnostic.precedes = _
  rw [List.map_singleton, List.flatMap_singleton]
  exact List.mergeSort_of_pairwise (checkFile_pairwise rules increasing)

/-- Locations are compared as their words are, line first. -/
theorem before_ofSite_iff {a b : Site} : (Location.ofSite a).Before (Location.ofSite b) ↔
    a.line < b.line ∨ a.line = b.line ∧ a.column < b.column := by
  rw [UInt32.lt_iff_toNat_lt, UInt32.lt_iff_toNat_lt, ← UInt32.toNat_inj]
  rfl

/-- In a text that words can measure, the declarations stand at the locations that their sites give,
in increasing order. -/
theorem Go.SourceFile.sites_of_small (path : String) {source : String}
    (small : (Go.utf8Bytes source.toList).length < 2 ^ 32) :
    let bytes := Go.utf8Bytes source.toList
    let file := SourceFile.parse path source
    (∀ f ∈ file.functions, (Location.ofSite f.site).IsIn bytes ∧
      Go.utf8Bytes "func".toList <+: bytes.drop f.site.offset.toNat) ∧
    file.functions.Pairwise (·.site.offset < ·.site.offset) := by
  intro bytes file
  obtain ⟨locations, hsites, hin, hordered⟩ := SourceFile.exists_locations path source
  have hexact : ∀ l ∈ locations, Location.ofSite l.site = l := fun l hl =>
    (hin l hl).1.ofSite_site small
  constructor
  · intro f hf
    have hmem : f.site ∈ locations.map Location.site := by
      rw [← hsites]
      exact List.mem_map_of_mem hf
    obtain ⟨l, hl, hsite⟩ := List.mem_map.1 hmem
    have hf : Location.ofSite f.site = l := by rw [← hsite, hexact l hl]
    rw [hf, show f.site.offset.toNat = l.offset from congrArg Location.offset hf]
    exact hin l hl
  · have hmap : (file.functions.map (·.site)).Pairwise (·.offset < ·.offset) := by
      rw [hsites, List.pairwise_map]
      refine hordered.imp_of_mem fun {l m} hl hm hlt => ?_
      rw [UInt64.lt_iff_toNat_lt]
      show (Location.ofSite l.site).offset < (Location.ofSite m.site).offset
      rwa [hexact l hl, hexact m hm]
    rwa [List.pairwise_map] at hmap

/-- **The sites of a file are coherent.**  Whatever the text, with or without errors, its declarations
stand at locations of the text where it goes on with the keyword, each behind the one before it by byte
and by line and column, and their sites are the words of these locations.

In a text that is shorter than 2 ^ 32 bytes nothing is lost in the words. Then, in a run with one
source of this name, the diagnostics of the file are in the order of its declarations, and their order
by byte is that by line and column. -/
theorem Go.SourceFile.parse_sites_coherent (path source : String) :
    (∃ locations : List Location,
      (SourceFile.parse path source).functions.map (·.site) = locations.map Location.site ∧
      (∀ l ∈ locations, l.IsIn (storedBytes source) ∧
        storedBytes "func" <+: (storedBytes source).drop l.offset) ∧
      locations.Pairwise fun l m => l.offset < m.offset ∧ l.Before m) ∧
    ((storedBytes source).length < 2 ^ 32 →
      (∀ f ∈ (SourceFile.parse path source).functions,
        (Location.ofSite f.site).IsIn (storedBytes source) ∧
        storedBytes "func" <+: (storedBytes source).drop f.site.offset.toNat) ∧
      (SourceFile.parse path source).functions.Pairwise (·.site.offset < ·.site.offset) ∧
      ∀ rules sources, sources.filter (fun s => s.1 == path) = [(path, source)] →
        let found := (checkSources rules sources).diagnostics.filter (·.file == path)
        found = checkFile rules (SourceFile.parse path source) ∧
        ∀ a ∈ found, ∀ b ∈ found, (a.offset < b.offset ↔
          a.line < b.line ∨ a.line = b.line ∧ a.column < b.column)) := by
  rw [storedBytes_eq, storedBytes_eq]
  constructor
  · obtain ⟨locations, hsites, hin, hordered⟩ := SourceFile.exists_locations path source
    refine ⟨locations, hsites, hin, hordered.imp_of_mem fun {l m} hl hm hlt => ?_⟩
    exact ⟨hlt, (hin l hl).1.before_of_lt (hin m hm).1 hlt⟩
  · intro small
    obtain ⟨hin, hordered⟩ := SourceFile.sites_of_small path small
    refine ⟨hin, hordered, fun rules sources honly => ?_⟩
    have hfound := diagnostics_of_only rules hordered honly
    refine ⟨hfound, ?_⟩
    rw [hfound]
    intro a ha b hb
    obtain ⟨d, hd, hsite⟩ := site_of_mem_checkFile ha
    obtain ⟨e, he, hsite'⟩ := site_of_mem_checkFile hb
    have hiff := (hin d hd).1.lt_iff_before (hin e he).1
    rw [← hsite, ← hsite', before_ofSite_iff] at hiff
    rw [UInt64.lt_iff_toNat_lt]
    exact hiff

/-- A file with a mark at its start, a line end of two characters, and a comment with a character of two
bytes in front of the declaration. -/
theorem Go.SourceFile.parse_sites_coherent_marked :
    let source := "\uFEFFpackage p\r\n/* é */ func F() \x7b\x7d\n"
    let file := SourceFile.parse "a.go" source
    (storedBytes source).length < 2 ^ 32 ∧
    file.functions.map (·.site) = [{ line := 2, column := 10, offset := 23 }] ∧
    (∀ f ∈ file.functions, (Location.ofSite f.site).IsIn (storedBytes source)) ∧
    ∀ rules, (checkSources rules [("a.go", source)]).diagnostics.filter (·.file == "a.go") =
      checkFile rules file := by
  intro source file
  have small : (storedBytes source).length < 2 ^ 32 := by
    rw [storedBytes_eq, Go.length_utf8Bytes]
    decide +kernel
  have hsites : file.functions.map (·.site) = [{ line := 2, column := 10, offset := 23 }] := by
    let tokens := Go.Token.significant (Go.Token.ofText source.toList)
    let header : List Go.Token := [⟨.word "F", 28⟩, ⟨.punct "(", 29⟩, ⟨.punct ")", 30⟩,
      ⟨.punct "\x7b", 32⟩, ⟨.punct "\x7d", 33⟩]
    have htokens : tokens = ⟨.word "package", 3⟩ :: ([⟨.word "p", 11⟩] ++ ⟨.newline, 13⟩ ::
        ⟨.word "func", 23⟩ :: (header ++ [⟨.newline, 34⟩])) := by
      decide +kernel
    let decl : Go.Printed.Func :=
      { name := ⟨'F', [], rfl, rfl, by decide⟩, params := .named [] }
    have hitem := Go.Printed.readItem_func decl (show header.map (·.lexeme) = _ from rfl) 23
      [⟨.newline, 34⟩]
    have hitems : (Go.readItems (tokens.length + 1) tokens).1 = [decl.item 23] := by
      rw [htokens, Go.readItems_cons _ (by decide) rfl, List.length_cons, List.length_append,
        List.length_cons, Go.readItems_cons _ (by decide) hitem]
      rfl
    show (Go.functionsOf _ (Go.readItems (tokens.length + 1) tokens).1).map _ = _
    rw [hitems]
    decide +kernel
  obtain ⟨-, hcoherent⟩ := parse_sites_coherent "a.go" source
  obtain ⟨hin, -, hfound⟩ := hcoherent small
  exact ⟨small, hsites, fun f hf => (hin f hf).1, fun rules => (hfound rules _ rfl).1⟩

end RequiredArgs
