/-
# Reading back printed JSON

The indented layout of a value is read back as that value (`Value.parse?_pretty`), if the value is no
deeper than the reader goes and its numbers are integers of 64 bits (`Value.Fits`). A reader is followed
over the text that a printer wrote with anything behind it that cannot go on with it, so that each part
of a value has one statement: what the reader makes of the part's text and where it stops.

| part | printer | reader | statement |
| --- | --- | --- | --- |
| string | `escapeChar` | `stringTail` | `stringTail_escaped` |
| integer | `intDigits` | `number?` | `value?_int` |
| array | `layoutItems` | `items?` | `items?_layout` |
| object | `layoutMembers` | `members?` | `members?_layout` |
| value | `layout` | `value?` | `value?_layout` |
-/

import Mathlib.Data.List.Basic
import RequiredArgs.Json.Printer
import RequiredArgs.Json.Reader

namespace RequiredArgs
namespace Json

/-! ## Strings -/

/-- A backslash and a letter are read as the character that the letter stands for. -/
theorem stringTail_short {e c : Char} (h : shortEscape? e = some c) (rest : List Char) :
    stringTail ('\\' :: e :: rest) = (stringTail rest).map fun (s, r) => (c :: s, r) := by
  have hu : e ≠ 'u' := by
    rintro rfl
    cases h
  rw [stringTail, h]
  · exact fun _ _ _ _ _ _ _ _ _ he _ => hu he
  · exact fun _ _ _ _ _ he _ => hu he

/-- A character other than quotation mark, backslash and control characters stands for itself. -/
theorem stringTail_plain {c : Char} (hquote : c ≠ '"') (hslash : c ≠ '\\') (hc : 0x20 ≤ c.toNat)
    (rest : List Char) : stringTail (c :: rest) = (stringTail rest).map fun (s, r) => (c :: s, r) := by
  rw [stringTail, if_neg (by omega)]
  · exact hquote
  · exact fun _ _ _ _ _ _ _ _ _ he _ => hslash he
  · exact fun _ _ _ _ _ he _ => hslash he
  · exact fun _ _ he _ => hslash he

/-- An escape by code that is no half of a pair, whether or not another one follows it. -/
theorem stringTail_unit {a b c d : Char} {n : Nat} (h : unit? a b c d = some n)
    (hlead : isLeadUnit n = false) (htrail : isTrailUnit n = false) (rest : List Char) :
    stringTail ('\\' :: 'u' :: a :: b :: c :: d :: rest) =
      (stringTail rest).map fun (s, r) => (Char.ofNat n :: s, r) := by
  by_cases hpair : ∃ e f g h more, rest = '\\' :: 'u' :: e :: f :: g :: h :: more
  · obtain ⟨e, f, g, h', more, rfl⟩ := hpair
    rw [stringTail, h]
    simp only [hlead, htrail, Bool.false_eq_true, if_false]
  · rw [stringTail, h]
    · simp only [hlead, htrail, Bool.or_self, Bool.false_eq_true, if_false]
    · exact fun e f g h more hrest => hpair ⟨e, f, g, h, more, hrest⟩

/-- The four digits of a control character are read as its code. -/
theorem unit?_hexDigit : ∀ n, n < 0x20 →
    unit? '0' '0' (hexDigit (n / 16)) (hexDigit (n % 16)) = some n := by
  decide

/-- One character is read back from the way it is written. -/
theorem stringTail_escapeChar (c : Char) (rest : List Char) :
    stringTail (escapeChar c ++ rest) = (stringTail rest).map fun (s, r) => (c :: s, r) := by
  unfold escapeChar
  split_ifs with h₁ h₂ h₃ h₄ h₅ h₆ h₇ hcontrol
  · exact stringTail_short (by simp [h₁, shortEscape?]) rest
  · exact stringTail_short (by simp [h₂, shortEscape?]) rest
  · exact stringTail_short (by simp [h₃, shortEscape?]) rest
  · exact stringTail_short (by simp [h₄, shortEscape?]) rest
  · exact stringTail_short (by simp [h₅, shortEscape?]) rest
  · exact stringTail_short (by simp [h₆, shortEscape?]) rest
  · exact stringTail_short (by simp [h₇, shortEscape?]) rest
  · have hlead : isLeadUnit c.toNat = false := by
      simp only [isLeadUnit, Bool.and_eq_false_iff, decide_eq_false_iff_not]
      omega
    have htrail : isTrailUnit c.toNat = false := by
      simp only [isTrailUnit, Bool.and_eq_false_iff, decide_eq_false_iff_not]
      omega
    have hunit := stringTail_unit (unit?_hexDigit c.toNat hcontrol) hlead htrail rest
    rwa [Char.ofNat_toNat] at hunit
  · exact stringTail_plain h₁ h₂ (by omega) rest

/-- The characters of a string are read back from between its marks. -/
theorem stringTail_escaped (s rest : List Char) :
    stringTail (s.flatMap escapeChar ++ '"' :: rest) = some (s, rest) := by
  induction s with
  | nil => rw [List.flatMap_nil, List.nil_append, stringTail]
  | cons c s ih =>
    rw [List.flatMap_cons, List.append_assoc, stringTail_escapeChar, ih]
    rfl

/-! ## Numbers -/

/-- The characters from `0` on are digits. -/
theorem isDigit_ofNat : ∀ n, n < 10 → (Char.ofNat (48 + n)).isDigit = true := by
  decide

/-- A digit is worth its distance from `0`. -/
theorem toNat_digit : ∀ n, n < 10 → (Char.ofNat (48 + n)).toNat - 48 = n := by
  decide

/-- A number has at least one digit. -/
theorem natDigits_ne_nil (n : Nat) : natDigits n ≠ [] := by
  rw [natDigits]
  split <;> simp

/-- The digits of a number are digits. -/
theorem isDigit_of_mem_natDigits {n : Nat} {c : Char} (h : c ∈ natDigits n) :
    c.isDigit = true := by
  induction n using natDigits.induct with
  | case1 n hn =>
    rw [natDigits, if_pos hn, List.mem_singleton] at h
    exact h ▸ isDigit_ofNat n hn
  | case2 n hn ih =>
    rw [natDigits, if_neg hn, List.mem_append, List.mem_singleton] at h
    rcases h with h | rfl
    · exact ih h
    · exact isDigit_ofNat _ (Nat.mod_lt _ (by decide))

/-- A number is read back from its digits. -/
theorem digitsValue_natDigits (n : Nat) : digitsValue (natDigits n) = n := by
  induction n using natDigits.induct with
  | case1 n hn =>
    rw [natDigits, if_pos hn]
    simp only [digitsValue, List.foldl_cons, List.foldl_nil, toNat_digit n hn]
    omega
  | case2 n hn ih =>
    rw [digitsValue] at ih
    rw [natDigits, if_neg hn, digitsValue, List.foldl_append, ih]
    simp only [List.foldl_cons, List.foldl_nil, toNat_digit _ (Nat.mod_lt n (show 0 < 10 by decide))]
    omega

/-- Only zero is written with a leading zero. -/
theorem head?_natDigits_ne {n : Nat} (hpos : 0 < n) : (natDigits n).head? ≠ some '0' := by
  induction n using natDigits.induct with
  | case1 n hn =>
    have hdigit : ∀ n, n < 10 → 0 < n → some (Char.ofNat (48 + n)) ≠ some '0' := by decide
    rw [natDigits, if_pos hn]
    exact hdigit n hn hpos
  | case2 n hn ih =>
    rw [natDigits, if_neg hn, List.head?_append_of_ne_nil _ (natDigits_ne_nil _)]
    exact ih (by omega)

/-- A text that does not go on with a number in front of it. -/
def EndsNumber (rest : List Char) : Prop :=
  ∀ c ∈ rest.head?, c.isDigit = false ∧ c ≠ '.' ∧ c ≠ 'e' ∧ c ≠ 'E'

/-- A character that goes on with no number ends one. -/
theorem EndsNumber.cons {c : Char} (h : c.isDigit = false ∧ c ≠ '.' ∧ c ≠ 'e' ∧ c ≠ 'E')
    (rest : List Char) : EndsNumber (c :: rest) := by
  intro x hx
  obtain rfl : c = x := Option.some.inj hx
  exact h

/-- Where a number ends there is no fraction. -/
theorem EndsNumber.fraction? {rest : List Char} (h : EndsNumber rest) :
    fraction? rest = some ([], rest) := by
  cases rest with
  | nil => rfl
  | cons c rest =>
    rw [Json.fraction?]
    intro _ hpoint
    exact (h c rfl).2.1 (List.cons.inj hpoint).1

/-- Where a number ends there is no exponent. -/
theorem EndsNumber.exponent? {rest : List Char} (h : EndsNumber rest) :
    exponent? rest = some ([], rest) := by
  cases rest with
  | nil => rfl
  | cons c rest =>
    obtain ⟨-, -, he, hE⟩ := h c rfl
    simp [Json.exponent?, he, hE]

/-- The digits of a number are taken up to its end. -/
theorem EndsNumber.span_digits {rest : List Char} (h : EndsNumber rest) (n : Nat) :
    (natDigits n ++ rest).takeWhile Char.isDigit = natDigits n ∧
      (natDigits n ++ rest).dropWhile Char.isDigit = rest := by
  have hdigits : ∀ c ∈ natDigits n, c.isDigit = true := fun _ => isDigit_of_mem_natDigits
  rw [List.takeWhile_append_of_pos hdigits, List.dropWhile_append_of_pos hdigits]
  cases rest with
  | nil => exact ⟨by simp, rfl⟩
  | cons c rest =>
    have hc : ¬c.isDigit = true := by simp [(h c rfl).1]
    rw [List.takeWhile_cons_of_neg hc, List.dropWhile_cons_of_neg hc]
    exact ⟨List.append_nil _, rfl⟩

/-- The digits of a number of 64 bits are read back, behind a sign only if it is not zero. -/
theorem number?_natDigits (negative : Bool) (n : Nat) {i : Int}
    (hi : i = if negative then -(n : Int) else n) (hsign : negative = true → 0 < n)
    (hlow : Int64.minValue.toInt ≤ i) (hhigh : i < 18446744073709551616) {rest : List Char}
    (hrest : EndsNumber rest) : number? negative (natDigits n ++ rest) = some (.int i, rest) := by
  obtain ⟨htake, hdrop⟩ := hrest.span_digits n
  have hwritten : ((natDigits n).isEmpty ||
      (decide (1 < (natDigits n).length) && (natDigits n).head? == some '0')) = false := by
    have hne : (natDigits n).isEmpty = false := by simpa using natDigits_ne_nil n
    rw [hne, Bool.false_or]
    rcases Nat.eq_zero_or_pos n with rfl | hpos
    · simp [natDigits]
    · simp [head?_natDigits_ne hpos]
  have hminus : (negative && i == 0) = false := by
    cases negative with
    | false => rfl
    | true =>
      have hpos := hsign rfl
      simp only [if_true] at hi
      simp only [Bool.true_and, beq_eq_false_iff_ne]
      omega
  unfold number?
  simp only [htake, hdrop, hwritten, digitsValue_natDigits, hrest.fraction?, hrest.exponent?, ← hi,
    hminus, hlow, hhigh, Bool.false_eq_true, if_false, Option.bind_eq_bind, Option.bind_some,
    List.isEmpty_nil, Bool.and_self, Bool.not_false, decide_true, if_true, Option.pure_def]

/-! ## Values -/

/-- The value can be written and read with at most `depth` levels of arrays and objects: it holds no
number but integers of 64 bits, signed or unsigned. -/
def Value.Fits : Nat → Value → Prop
  | _, .null | _, .bool _ | _, .str _ => True
  | _, .int n => Int64.minValue.toInt ≤ n ∧ n < 18446744073709551616
  | _, .real _ => False
  | 0, .arr _ | 0, .obj _ => False
  | depth + 1, .arr vs => ∀ v ∈ vs, v.Fits depth
  | depth + 1, .obj ms => ∀ m ∈ ms, m.2.Fits depth

/-- The characters that a value can start with. -/
def isValueStart (c : Char) : Bool :=
  c.isDigit || ['-', '"', '[', '\x7b', 'n', 't', 'f'].contains c

/-- A value that fits is no number with a fraction or an exponent. -/
theorem Value.Fits.ne_real {depth : Nat} {v : Value} (h : v.Fits depth) (lexeme : String) :
    v ≠ .real lexeme := by
  rintro rfl
  cases depth <;> exact h

/-- The layout of a value starts with one of a few characters, none of which is white space. -/
theorem exists_layout_cons {v : Value} (h : ∀ lexeme, v ≠ .real lexeme) (level : Nat) :
    ∃ c cs, v.layout level = c :: cs ∧ isValueStart c = true := by
  cases v with
  | null => exact ⟨_, _, rfl, rfl⟩
  | bool b => cases b <;> exact ⟨_, _, rfl, rfl⟩
  | int n =>
    cases n with
    | ofNat n =>
      obtain ⟨c, cs, hcs⟩ := List.exists_cons_of_ne_nil (natDigits_ne_nil n)
      refine ⟨c, cs, by rw [Value.layout, intDigits, hcs], ?_⟩
      have hc : c.isDigit = true := isDigit_of_mem_natDigits (hcs ▸ List.mem_cons_self)
      rw [isValueStart, hc, Bool.true_or]
    | negSucc n => exact ⟨_, _, by rw [Value.layout, intDigits], rfl⟩
  | real lexeme => exact absurd rfl (h lexeme)
  | str s => exact ⟨_, _, by rw [Value.layout, quote], rfl⟩
  | arr vs => cases vs <;> exact ⟨_, _, by rw [Value.layout], rfl⟩
  | obj ms => cases ms <;> exact ⟨_, _, by rw [Value.layout], rfl⟩

/-- A line break and its indentation are white space. -/
theorem isGap_of_mem_lineBreak {c : Char} {level : Nat} (h : c ∈ lineBreak level) :
    isGap c = true := by
  rcases List.mem_cons.1 h with rfl | h
  · rfl
  · rw [List.eq_of_mem_replicate h]
    rfl

/-- A line break in front is skipped. -/
@[simp] theorem skipGap_lineBreak (level : Nat) (cs : List Char) :
    skipGap (lineBreak level ++ cs) = skipGap cs :=
  List.dropWhile_append_of_pos fun _ => isGap_of_mem_lineBreak

/-- At a character that is no white space nothing is skipped. -/
theorem skipGap_cons {c : Char} (h : isGap c = false) (cs : List Char) :
    skipGap (c :: cs) = c :: cs :=
  List.dropWhile_cons_of_neg (by simp [h])

/-- No value starts with white space. -/
theorem isGap_eq_false_of_isValueStart {c : Char} (h : isValueStart c = true) :
    isGap c = false := by
  have hne : c ≠ ' ' ∧ c ≠ '\n' ∧ c ≠ '\r' ∧ c ≠ '\t' := by
    refine ⟨?_, ?_, ?_, ?_⟩ <;>
      · rintro rfl
        exact absurd h (by decide)
  simp [isGap, hne]

/-- In front of a value nothing is skipped. -/
theorem skipGap_layout {v : Value} (h : ∀ lexeme, v ≠ .real lexeme) (level : Nat)
    (rest : List Char) : skipGap (v.layout level ++ rest) = v.layout level ++ rest := by
  obtain ⟨c, cs, hcs, hc⟩ := exists_layout_cons h level
  rw [hcs, List.cons_append, skipGap_cons (isGap_eq_false_of_isValueStart hc)]

/-- What starts with a digit is read as a number. -/
theorem value?_of_isDigit {c : Char} (h : c.isDigit = true) (depth fuel : Nat) (cs : List Char) :
    value? depth (fuel + 1) (c :: cs) = number? false (c :: cs) := by
  rw [value?]
  all_goals
    intro rest hcs
    rw [(List.cons.inj hcs).1] at h
    exact absurd h (by decide)

/-- An integer of 64 bits is read back from its digits, in front of everything that ends a number.
-/
theorem value?_int {n : Int} {depth fuel : Nat} (h : (Value.int n).Fits depth) {rest : List Char}
    (hrest : EndsNumber rest) :
    value? depth (fuel + 1) (intDigits n ++ rest) = some (.int n, rest) := by
  obtain ⟨hlow, hhigh⟩ : Int64.minValue.toInt ≤ n ∧ n < 18446744073709551616 := by
    cases depth <;> exact h
  cases n with
  | ofNat n =>
    obtain ⟨c, cs, hcs⟩ := List.exists_cons_of_ne_nil (natDigits_ne_nil n)
    have hc : c.isDigit = true := isDigit_of_mem_natDigits (hcs ▸ List.mem_cons_self)
    have hread := number?_natDigits false n rfl (by simp) hlow hhigh hrest
    rw [intDigits]
    rw [hcs, List.cons_append] at hread ⊢
    rw [value?_of_isDigit hc, hread]
    rfl
  | negSucc n =>
    rw [intDigits, List.cons_append, value?]
    exact number?_natDigits true (n + 1) rfl (fun _ => Nat.succ_pos n) hlow hhigh hrest

/-- An entry and the entries behind it are followed by a comma or by the line of the closing sign. -/
theorem endsNumber_layoutItems (level outer : Nat) (vs : List Value) (rest : List Char) :
    EndsNumber (Value.layoutItems level vs ++ (lineBreak outer ++ rest)) := by
  cases vs with
  | nil => exact EndsNumber.cons (by decide) _
  | cons v vs =>
    rw [Value.layoutItems]
    exact EndsNumber.cons (by decide) _

/-- What follows a value in an object ends a number: a comma or a line break. -/
theorem endsNumber_layoutMembers (level outer : Nat) (ms : List (String × Value))
    (rest : List Char) :
    EndsNumber (Value.layoutMembers level ms ++ (lineBreak outer ++ rest)) := by
  cases ms with
  | nil => exact EndsNumber.cons (by decide) _
  | cons m ms =>
    rw [Value.layoutMembers]
    exact EndsNumber.cons (by decide) _

/-- A line break in front of an item is passed over. -/
@[simp] theorem items?_lineBreak (depth fuel level : Nat) (cs : List Char) :
    items? depth fuel (lineBreak level ++ cs) = items? depth fuel cs := by
  cases fuel with
  | zero => rfl
  | succ fuel => rw [items?, items?, skipGap_lineBreak]

/-- A line break in front of a member is passed over. -/
@[simp] theorem members?_lineBreak (depth fuel level : Nat) (cs : List Char) :
    members? depth fuel (lineBreak level ++ cs) = members? depth fuel cs := by
  cases fuel with
  | zero => rfl
  | succ fuel => rw [members?, members?, skipGap_lineBreak]

section Entries

/-! The entries of an array or object are read one level deeper, where by hypothesis every value is
read from its layout. -/

variable {depth : Nat} (read : ∀ {v : Value} {fuel level : Nat} {rest : List Char}, v.Fits depth →
  (v.layout level).length ≤ fuel → EndsNumber rest →
    value? depth fuel (v.layout level ++ rest) = some (v, rest))
include read

/-- The items of an array are read back, by induction on those behind the first. -/
theorem items?_layout {level outer fuel : Nat} {v : Value} {vs : List Value} {rest : List Char}
    (hv : v.Fits depth) (hvs : ∀ w ∈ vs, w.Fits depth)
    (hfuel : (v.layout level).length + (Value.layoutItems level vs).length < fuel) :
    items? depth fuel (v.layout level ++
        (Value.layoutItems level vs ++ (lineBreak outer ++ ']' :: rest))) =
      some (v :: vs, rest) := by
  induction vs generalizing v fuel with
  | nil =>
    obtain ⟨fuel, rfl⟩ := Nat.exists_eq_add_one_of_ne_zero (n := fuel) (by omega)
    rw [items?, skipGap_layout hv.ne_real, read hv (by omega) (endsNumber_layoutItems level outer [] _)]
    simp only [Value.layoutItems, List.nil_append, skipGap_lineBreak, skipGap_cons (c := ']') rfl]
  | cons w vs ih =>
    obtain ⟨fuel, rfl⟩ := Nat.exists_eq_add_one_of_ne_zero (n := fuel) (by omega)
    obtain ⟨hw, hvs⟩ := List.forall_mem_cons.1 hvs
    rw [items?, skipGap_layout hv.ne_real, read hv (by omega) (endsNumber_layoutItems level outer _ _)]
    rw [Value.layoutItems] at hfuel ⊢
    simp only [List.length_cons, List.length_append] at hfuel
    simp only [List.cons_append, List.append_assoc, skipGap_cons (c := ',') rfl, items?_lineBreak]
    rw [ih hw hvs (by omega)]
    rfl

/-- One member is read up to the end of its value; the next sign tells whether more follow. -/
theorem members?_quote {level fuel : Nat} {v : Value} {rest : List Char} (hv : v.Fits depth)
    (hfuel : (v.layout level).length ≤ fuel) (hrest : EndsNumber rest) (k : String) :
    (∀ more, skipGap rest = ',' :: more →
      members? depth (fuel + 1) (quote k ++ (':' :: ' ' :: (v.layout level ++ rest))) =
        (members? depth fuel more).map fun read => ((k, v) :: read.1, read.2)) ∧
    (∀ more, skipGap rest = '\x7d' :: more →
      members? depth (fuel + 1) (quote k ++ (':' :: ' ' :: (v.layout level ++ rest))) =
        some ([(k, v)], more)) := by
  have hblank : skipGap (' ' :: (v.layout level ++ rest)) = v.layout level ++ rest :=
    skipGap_layout hv.ne_real level rest
  rw [members?, quote, List.cons_append, List.append_assoc, skipGap_cons rfl]
  simp only [List.cons_append, List.nil_append, stringTail_escaped, skipGap_cons (c := ':') rfl,
    hblank, read hv hfuel hrest, String.ofList_toList]
  refine ⟨fun more hmore => ?_, fun more hmore => ?_⟩
  · rw [hmore]
    rfl
  · rw [hmore]
    rfl

/-- The members of an object are read back, by induction on those behind the first. -/
theorem members?_layout {level outer fuel : Nat} {k : String} {v : Value}
    {ms : List (String × Value)} {rest : List Char} (hv : v.Fits depth)
    (hms : ∀ m ∈ ms, m.2.Fits depth)
    (hfuel : (v.layout level).length + (Value.layoutMembers level ms).length < fuel) :
    members? depth fuel (quote k ++ (':' :: ' ' :: (v.layout level ++
        (Value.layoutMembers level ms ++ (lineBreak outer ++ '\x7d' :: rest))))) =
      some ((k, v) :: ms, rest) := by
  induction ms generalizing k v fuel with
  | nil =>
    obtain ⟨fuel, rfl⟩ := Nat.exists_eq_add_one_of_ne_zero (n := fuel) (by omega)
    have hclose : skipGap (Value.layoutMembers level [] ++ (lineBreak outer ++ '\x7d' :: rest)) =
        '\x7d' :: rest := by
      rw [Value.layoutMembers, List.nil_append, skipGap_lineBreak, skipGap_cons rfl]
    have hroom : (v.layout level).length ≤ fuel := by omega
    exact (members?_quote read hv hroom (endsNumber_layoutMembers level outer [] _) k).2 rest hclose
  | cons m ms ih =>
    obtain ⟨fuel, rfl⟩ := Nat.exists_eq_add_one_of_ne_zero (n := fuel) (by omega)
    obtain ⟨hm, hms⟩ := List.forall_mem_cons.1 hms
    have hroom : (v.layout level).length ≤ fuel := by omega
    obtain ⟨hcomma, -⟩ := members?_quote read hv hroom (endsNumber_layoutMembers level outer _ _) k
    rw [Value.layoutMembers] at hfuel hcomma ⊢
    simp only [List.length_cons, List.length_append] at hfuel
    simp only [List.cons_append, List.append_assoc] at hcomma ⊢
    rw [hcomma _ (skipGap_cons rfl _), members?_lineBreak, ih hm hms (by omega)]
    rfl

end Entries

/-- Behind the opening bracket and a gap, what does not close the array is its first item. -/
theorem value?_open_arr (depth fuel level : Nat) {c : Char} (hgap : isGap c = false)
    (hclose : c ≠ ']') (cs : List Char) :
    value? (depth + 1) (fuel + 1) ('[' :: (lineBreak level ++ c :: cs)) =
      (items? depth fuel (c :: cs)).map fun (vs, r) => (.arr vs, r) := by
  rw [value?]
  simp only [skipGap_lineBreak, skipGap_cons hgap]
  split
  · rename_i rest hcs
    exact absurd (List.cons.inj hcs).1 hclose
  · rfl

/-- A brace and a line break open an object, whose members are read one level deeper. -/
theorem value?_open_obj (depth fuel level : Nat) {c : Char} (hgap : isGap c = false)
    (hclose : c ≠ '\x7d') (cs : List Char) :
    value? (depth + 1) (fuel + 1) ('\x7b' :: (lineBreak level ++ c :: cs)) =
      (members? depth fuel (c :: cs)).map fun (ms, r) => (.obj ms, r) := by
  rw [value?]
  simp only [skipGap_lineBreak, skipGap_cons hgap]
  split
  · rename_i rest hcs
    exact absurd (List.cons.inj hcs).1 hclose
  · rfl

/-- The layout of a value is read back as the value, whatever stands behind it. The recursion is on
the depth, since the entries of a value lie one level deeper. -/
theorem value?_layout {depth fuel level : Nat} {v : Value} {rest : List Char} (h : v.Fits depth)
    (hfuel : (v.layout level).length ≤ fuel) (hrest : EndsNumber rest) :
    value? depth fuel (v.layout level ++ rest) = some (v, rest) := by
  obtain ⟨fuel, rfl⟩ : ∃ n, fuel = n + 1 := by
    obtain ⟨c, cs, hcs, -⟩ := exists_layout_cons h.ne_real level
    rw [hcs, List.length_cons] at hfuel
    exact Nat.exists_eq_add_one_of_ne_zero (by omega)
  cases v with
  | null => rfl
  | bool b => cases b <;> rfl
  | int n => exact value?_int h hrest
  | real lexeme => cases depth <;> exact h.elim
  | str s =>
    rw [Value.layout, quote, List.cons_append, List.append_assoc, value?]
    simp only [List.cons_append, List.nil_append, stringTail_escaped, Option.map_some,
      String.ofList_toList]
  | arr vs =>
    cases depth with
    | zero => exact h.elim
    | succ depth =>
      cases vs with
      | nil => rfl
      | cons v vs =>
        obtain ⟨hv, hvs⟩ := List.forall_mem_cons.1 h
        obtain ⟨c, cs, hcs, hc⟩ := exists_layout_cons hv.ne_real (level + 1)
        have hclose : c ≠ ']' := by
          rintro rfl
          exact absurd hc (by decide)
        rw [Value.layout] at hfuel ⊢
        simp only [List.length_cons, List.length_append] at hfuel
        have hitems : items? depth fuel (v.layout (level + 1) ++
            (Value.layoutItems (level + 1) vs ++ (lineBreak level ++ ']' :: rest))) =
              some (v :: vs, rest) :=
          items?_layout (fun h => value?_layout h) hv hvs (by omega)
        simp only [List.cons_append, List.append_assoc, List.nil_append]
        rw [hcs, List.cons_append] at hitems ⊢
        rw [value?_open_arr _ _ _ (isGap_eq_false_of_isValueStart hc) hclose, hitems]
        rfl
  | obj ms =>
    cases depth with
    | zero => exact h.elim
    | succ depth =>
      cases ms with
      | nil => rfl
      | cons m ms =>
        obtain ⟨k, v⟩ := m
        obtain ⟨hv, hms⟩ := List.forall_mem_cons.1 h
        rw [Value.layout] at hfuel ⊢
        simp only [List.length_cons, List.length_append] at hfuel
        have hmembers : members? depth fuel (quote k ++ (':' :: ' ' :: (v.layout (level + 1) ++
            (Value.layoutMembers (level + 1) ms ++ (lineBreak level ++ '\x7d' :: rest))))) =
              some ((k, v) :: ms, rest) :=
          members?_layout (fun h => value?_layout h) hv hms (by omega)
        simp only [List.cons_append, List.append_assoc, List.nil_append]
        rw [quote, List.cons_append] at hmembers ⊢
        rw [value?_open_obj _ _ _ rfl (by decide), hmembers]
        rfl
termination_by depth

/-- A value that fits is read back from its indented layout. -/
theorem Value.parse?_pretty {v : Value} (h : v.Fits maxDepth) : Value.parse? v.pretty = some v := by
  have hread : value? maxDepth (2 * (v.layout 0).length + 2) (v.layout 0 ++ []) = some (v, []) :=
    value?_layout h (by omega) (by simp [EndsNumber])
  have hgap := skipGap_layout h.ne_real 0 []
  rw [List.append_nil] at hread hgap
  rw [Value.parse?, Value.pretty, String.toList_ofList]
  simp only [hgap, hread]
  rfl

end Json
end RequiredArgs
