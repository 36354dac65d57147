/-
# Cutting texts into tokens

`Token.cut` gives the tokens of a text that matter, from any byte on. It has one equation for each
kind of lexeme (`Token.cut_word`, `Token.cut_bracket`, `Token.cut_string`, …), whose condition says
what must not follow for the lexeme to end there.

`Token.Scans` composes these equations: a text scans to a list of lexemes in front of `rest` if its
tokens have these lexemes and the tokens of `rest` follow.
-/

import RequiredArgs.Proofs.DeclarationSites

namespace RequiredArgs
namespace Go

namespace Token

/-- Fuel for every character of the text is enough. -/
theorem scan_eq_of_le {m n offset : Nat} {cs : List Char} (hm : cs.length ≤ m)
    (hn : cs.length ≤ n) : scan m offset cs = scan n offset cs := by
  induction m generalizing n offset cs with
  | zero =>
    obtain rfl : cs = [] := List.length_eq_zero_iff.1 (by omega)
    cases n <;> rfl
  | succ m ih =>
    cases cs with
    | nil => cases n <;> rfl
    | cons c rest =>
      obtain ⟨n, rfl⟩ : ∃ k, n = k + 1 := ⟨n - 1, by simp at hn; omega⟩
      simp only [List.length_cons, Nat.add_le_add_iff_right] at hm hn
      unfold scan
      split
      · exact ih hm hn
      · have hdrop : (rest.drop (Lexeme.next c rest).2).length ≤ rest.length := by simp
        exact congrArg _ (ih (Nat.le_trans hdrop hm) (Nat.le_trans hdrop hn))

/-- The tokens that matter of a text whose first character is at byte `offset`. -/
def cut (offset : Nat) (cs : List Char) : List Token := significant (scan cs.length offset cs)

/-- An empty text has no tokens. -/
@[simp] theorem cut_nil (offset : Nat) : cut offset [] = [] := rfl

/-- White space is no token. -/
theorem cut_space {c : Char} (hc : Lexeme.isSpace c = true) (offset : Nat) (rest : List Char) :
    cut offset (c :: rest) = cut (offset + c.utf8Size) rest := by
  simp only [cut, List.length_cons, scan, hc, if_true]

/-- A lexeme is cut off with the characters that it is said to have. -/
theorem cut_lexeme {c : Char} {more rest : List Char} {l : Lexeme} (hc : Lexeme.isSpace c = false)
    (hl : l ≠ .comment) (hnext : Lexeme.next c (more ++ rest) = (l, more.length)) (offset : Nat) :
    cut offset (c :: more ++ rest) = ⟨l, offset⟩ :: cut (offset + byteSize (c :: more)) rest := by
  have hscan : scan (more ++ rest).length (offset + byteSize (c :: more)) rest =
      scan rest.length (offset + byteSize (c :: more)) rest :=
    scan_eq_of_le (by simp) (Nat.le_refl _)
  simp only [cut, List.cons_append, List.length_cons, scan, hc, hnext, List.take_left,
    List.drop_left]
  rw [hscan, if_neg Bool.false_ne_true, significant, List.filter_cons_of_pos (by simpa using hl)]
  rfl

end Token

namespace Lexeme

/-- A run of digits ends in front of a character that is none. -/
theorem digitRun_of_not {p : Char → Bool} {c : Char} (hc : p c = false) (rest : List Char) :
    digitRun p (c :: rest) = 0 := by
  unfold digitRun
  split <;> simp_all

/-- No number starts with a character that is neither a digit nor a point in front of one. -/
theorem numberLength_of_not {c : Char} {rest : List Char} (hc : c.isDigit = false)
    (hpoint : c = '.' → digitRun Char.isDigit rest = 0) : numberLength (c :: rest) = 0 := by
  have hrun : digitRun Char.isDigit (c :: rest) = 0 := digitRun_of_not hc rest
  have hzero : c ≠ '0' := by rintro rfl; exact absurd hc (by decide)
  have hint : integerLength (c :: rest) = 0 := by
    unfold integerLength
    split <;> simp_all
  have hfloat : decimalFloatLength (c :: rest) = 0 := by
    simp only [decimalFloatLength, hrun, List.drop_zero]
    split <;> simp_all
  have hhex : hexFloatLength (c :: rest) = 0 := by
    unfold hexFloatLength
    split <;> simp_all
  simp [numberLength, hrun, hint, hfloat, hhex]

/-- The text cannot go on with an identifier. -/
def WordEnds (rest : List Char) : Prop := ∀ c ∈ rest.head?, Unicode.isIdentContinue c = false

/-- A character that goes on with no word ends one. -/
theorem WordEnds.cons {c : Char} (hc : Unicode.isIdentContinue c = false) (rest : List Char) :
    WordEnds (c :: rest) := by
  simpa [WordEnds] using hc

/-- The characters of an identifier or a keyword. -/
def isWordText : List Char → Bool
  | [] => false
  | c :: more => Unicode.isIdentStart c && more.all Unicode.isIdentContinue

/-- No word starts with white space or a line end. -/
theorem not_isSpace_of_isIdentStart {c : Char} (hc : Unicode.isIdentStart c = true) :
    isSpace c = false ∧ c ≠ '\n' := by
  refine ⟨Bool.eq_false_iff.2 fun h => ?_, ?_⟩
  · simp only [isSpace, Bool.or_eq_true, beq_iff_eq] at h
    rcases h with (((rfl | rfl) | rfl) | rfl) | rfl <;> exact absurd hc (by decide)
  · rintro rfl
    exact absurd hc (by decide)

/-- What is taken ends where the property does. -/
theorem takeWhile_append_of_all {p : Char → Bool} {more rest : List Char}
    (hmore : more.all p = true) (hrest : ∀ c ∈ rest.head?, p c = false) :
    (more ++ rest).takeWhile p = more := by
  rw [List.takeWhile_append_of_pos (by simpa using hmore)]
  cases rest with
  | nil => simp
  | cons c rest => simp [hrest c rfl]

/-- A character that stands for itself in a string literal. -/
def isPlainChar (c : Char) : Bool := c != '"' && c != '\n' && c != '\\'

/-- A string ends at the first quotation mark behind characters that are none and escape none. -/
theorem stringLength?_append {cs : List Char} (hcs : cs.all isPlainChar = true)
    (rest : List Char) : stringLength? (cs ++ '"' :: rest) = some (cs.length + 1) := by
  induction cs with
  | nil => rfl
  | cons c cs ih =>
    rw [List.all_cons, Bool.and_eq_true] at hcs
    have hc : c ≠ '"' ∧ c ≠ '\n' ∧ c ≠ '\\' := by simpa [isPlainChar, and_assoc] using hcs.1
    rw [List.cons_append, stringLength?, ih hcs.2]
    · rfl
    all_goals grind

end Lexeme

namespace Token

open Lexeme

/-- A word is one token up to a character that does not go on with it. -/
theorem cut_word {w rest : List Char} (hw : isWordText w = true) (hrest : WordEnds rest)
    (offset : Nat) :
    cut offset (w ++ rest) = ⟨.word (.ofList w), offset⟩ :: cut (offset + byteSize w) rest := by
  cases w with
  | nil => cases hw
  | cons c more =>
    obtain ⟨hc, hmore⟩ := Bool.and_eq_true_iff.1 hw
    obtain ⟨hspace, hline⟩ := not_isSpace_of_isIdentStart hc
    have htake := takeWhile_append_of_all hmore hrest
    refine cut_lexeme hspace (by simp) ?_ offset
    simp [Lexeme.next, hline, hc, htake]

/-- Only the operators that start with the first character of a text can be found there. -/
theorem find?_punctuation (c : Char) (rest : List Char) :
    (punctuation.find? fun p => p.toList.isPrefixOf (c :: rest)) =
      (punctuation.filter (·.toList.head?.all (· == c))).find? fun p =>
        p.toList.isPrefixOf (c :: rest) := by
  rw [List.find?_filter]
  congr 1
  funext p
  cases p.toList with
  | nil => simp
  | cons d more =>
    by_cases hd : d = c
    · simp only [hd, List.head?_cons, Option.all_some, beq_self_eq_true, true_and,
        Bool.decide_eq_true]
    · simp [List.isPrefixOf, hd]

/-- A character of one byte that starts no lexeme but operators, or a number if it is a point. -/
def isOperatorChar (c : Char) : Bool :=
  !isSpace c && !c.isDigit && !Unicode.isIdentStart c && c.utf8Size == 1 &&
    c != '\n' && c != '"' && c != '\x60' && c != '\'' && c != '/'

/-- An operator of one character, if no longer one and no number starts here. -/
theorem cut_punct {c : Char} {p : String} {rest : List Char} (hc : isOperatorChar c = true)
    (hp : p.length = 1) (hpoint : c = '.' → digitRun Char.isDigit rest = 0)
    (hfind : (punctuation.find? fun p => p.toList.isPrefixOf (c :: rest)) = some p)
    (offset : Nat) : cut offset (c :: rest) = ⟨.punct p, offset⟩ :: cut (offset + 1) rest := by
  simp only [isOperatorChar, Bool.and_eq_true, Bool.not_eq_true', beq_iff_eq, bne_iff_ne, and_assoc]
    at hc
  obtain ⟨hspace, hdigit, hstart, hsize, hother⟩ := hc
  have hnumber := numberLength_of_not hdigit hpoint
  have hnext : Lexeme.next c ([] ++ rest) = (.punct p, 0) := by
    simp [Lexeme.next, hstart, hnumber, hfind, hp, hother]
  have hcut : cut offset (c :: [] ++ rest) = _ := cut_lexeme hspace (by simp) hnext offset
  simpa [hsize] using hcut

/-- The operators that are lexemes of their own whatever follows them. -/
def brackets : List (Char × String) :=
  [('(', "("), (')', ")"), ('[', "["), (']', "]"), ('\x7b', "\x7b"), ('\x7d', "\x7d"), (',', ",")]

/-- A bracket is one token whatever follows. -/
theorem cut_bracket {c : Char} {p : String} (h : (c, p) ∈ brackets) (offset : Nat)
    (rest : List Char) :
    cut offset (c :: rest) = ⟨.punct p, offset⟩ :: cut (offset + 1) rest := by
  simp only [brackets, List.mem_cons, List.not_mem_nil, Prod.mk.injEq, or_false] at h
  rcases h with h | h | h | h | h | h | h <;> obtain ⟨rfl, rfl⟩ := h <;>
    exact cut_punct (by decide) (by decide) (by simp) (by rfl) offset

/-- A star is one token unless an equals sign follows. -/
theorem cut_star {rest : List Char} (hrest : rest.head? ≠ some '=') (offset : Nat) :
    cut offset ('*' :: rest) = ⟨.punct "*", offset⟩ :: cut (offset + 1) rest := by
  have hstar : punctuation.filter (·.toList.head?.all (· == '*')) = ["*=", "*"] := by decide
  refine cut_punct (by decide) (by decide) (by simp) ?_ offset
  rw [find?_punctuation, hstar]
  cases rest with
  | nil => rfl
  | cons c rest =>
    have hc : '=' ≠ c := by simpa [eq_comm] using hrest
    simp [hc]

/-- A point is one token unless a digit or another point follows. -/
theorem cut_point {c : Char} {rest : List Char} (hc : c.isDigit = false) (hpoint : c ≠ '.')
    (offset : Nat) :
    cut offset ('.' :: c :: rest) = ⟨.punct ".", offset⟩ :: cut (offset + 1) (c :: rest) := by
  refine cut_punct (by decide) (by decide) (fun _ => digitRun_of_not hc rest) ?_ offset
  have hdots : punctuation.filter (·.toList.head?.all (· == '.')) = ["...", "."] := by decide
  rw [find?_punctuation, hdots]
  simp [hpoint.symm]

/-- A line end is one token. -/
theorem cut_newline (offset : Nat) (rest : List Char) :
    cut offset ('\n' :: rest) = ⟨.newline, offset⟩ :: cut (offset + 1) rest := by
  have hnext : Lexeme.next '\n' ([] ++ rest) = (.newline, 0) := by simp [Lexeme.next]
  exact cut_lexeme (by decide) (by simp) hnext offset

/-- A string without escapes is one token, with its quotation marks. -/
theorem cut_string {cs : List Char} (hcs : cs.all isPlainChar = true) (offset : Nat)
    (rest : List Char) :
    cut offset ('"' :: (cs ++ ['"']) ++ rest) =
      ⟨.str (.ofList ('"' :: (cs ++ ['"']))), offset⟩ ::
        cut (offset + byteSize ('"' :: (cs ++ ['"']))) rest := by
  have hlength : stringLength? (cs ++ ['"'] ++ rest) = some (cs ++ ['"']).length := by
    simpa using stringLength?_append hcs rest
  refine cut_lexeme (by decide) (by simp) ?_ offset
  rw [Lexeme.next, if_neg (by decide), if_neg (by decide), if_pos (by decide), hlength]
  simp only [List.take_left]

/-- In front of `rest`, the text is cut into tokens with the given lexemes. -/
def Scans (text : List Char) (ls : List Lexeme) (rest : List Char) : Prop :=
  ∀ offset, ∃ ts, ts.map (·.lexeme) = ls ∧
    cut offset (text ++ rest) = ts ++ cut (offset + byteSize text) rest

namespace Scans

variable {a b rest : List Char} {l m : List Lexeme}

/-- No text scans to no lexemes. -/
theorem nil : Scans [] [] rest := fun _ => ⟨[], rfl, rfl⟩

/-- Texts one behind the other scan to their lexemes one behind the other. -/
theorem append (ha : Scans a l (b ++ rest)) (hb : Scans b m rest) :
    Scans (a ++ b) (l ++ m) rest := by
  intro offset
  obtain ⟨ts, rfl, hts⟩ := ha offset
  obtain ⟨us, rfl, hus⟩ := hb (offset + byteSize a)
  refine ⟨ts ++ us, List.map_append, ?_⟩
  rw [List.append_assoc, hts, hus, byteSize_append, List.append_assoc, Nat.add_assoc]

/-- A text that is cut off as one token scans to its lexeme. -/
theorem of_cut {t : Lexeme} (h : ∀ offset, cut offset (a ++ rest) =
    ⟨t, offset⟩ :: cut (offset + byteSize a) rest) : Scans a [t] rest :=
  fun offset => ⟨[⟨t, offset⟩], rfl, h offset⟩

/-- White space scans to nothing. -/
theorem space {c : Char} (hc : isSpace c = true) : Scans [c] [] rest :=
  fun offset => ⟨[], rfl, cut_space hc offset rest⟩

/-- A blank scans to nothing. -/
theorem blank : Scans [' '] [] rest := space (by decide)

/-- A line end scans to itself. -/
theorem newline : Scans ['\n'] [.newline] rest := of_cut fun offset => cut_newline offset rest

/-- A word scans to itself in front of everything that does not go on with it. -/
theorem word (ha : isWordText a = true) (hrest : WordEnds rest) :
    Scans a [.word (.ofList a)] rest :=
  of_cut (cut_word ha hrest)

/-- A keyword in front of a text that starts with a character of no word. -/
theorem keyword {w : String} {c : Char} (hw : isWordText w.toList = true)
    (hc : Unicode.isIdentContinue c = false) (hb : Scans (c :: b) m rest) :
    Scans (w.toList ++ c :: b) (.word w :: m) rest := by
  have hword := (word hw (.cons hc (b ++ rest))).append hb
  rwa [String.ofList_toList] at hword

/-- A bracket scans to itself whatever follows. -/
theorem bracket {c : Char} {p : String} (h : (c, p) ∈ brackets) : Scans [c] [.punct p] rest := by
  have hsize : ∀ x ∈ brackets, x.1.utf8Size = 1 := by decide
  refine of_cut fun offset => ?_
  rw [byteSize_cons, hsize _ h]
  exact cut_bracket h offset rest

end Scans

end Token

end Go
end RequiredArgs
