/-
# Reading back configurations and reports

A record is written as an object with one member for each of its fields, some of which are left out. Its
fields with what is written for them are its slots, and a reader finds in the object what stands in the
slots (`Json.field?_written`). So a record is read back if every field is read back from its slot, where
a slot that is left out must stand for the value that the reader takes for an absent member.

A configuration is read back from its text as it was (`Config.ofJsonText?_json`). Of a report only the
numbers of rules are lost, which none of its texts shows (`Report.ofJsonText?_json`).
-/

import Mathlib.Data.List.Nodup
import Mathlib.Data.Option.Basic
import RequiredArgs.Proofs.JsonText
import RequiredArgs.Report.Human
import RequiredArgs.Report.Json

namespace RequiredArgs

namespace Json

/-! ## Records -/

/-- The members of a record with the given slots: the names of its fields, and what is written for
them. -/
def written (slots : List (String × Option Value)) : List (String × Value) :=
  slots.flatMap fun (name, v) => optionalMember name v

/-- The members of the first slot stand in front. -/
theorem written_cons (name : String) (v : Option Value) (slots : List (String × Option Value)) :
    written ((name, v) :: slots) = optionalMember name v ++ written slots := rfl

/-- A member is written exactly if its slot is filled with its value. -/
theorem mem_written_iff {slots : List (String × Option Value)} {m : String × Value} :
    m ∈ written slots ↔ (m.1, some m.2) ∈ slots := by
  obtain ⟨name, v⟩ := m
  simp only [written, optionalMember, List.mem_flatMap, Option.mem_toList, Option.map_eq_some_iff,
    Prod.mk.injEq, Prod.exists]
  constructor
  · rintro ⟨_, _, hs, v, rfl, rfl, rfl⟩
    exact hs
  · intro hs
    exact ⟨name, some v, hs, v, rfl, rfl, rfl⟩

/-- The members that are written stand in the order of the slots. -/
theorem map_fst_written_sublist (slots : List (String × Option Value)) :
    ((written slots).map Prod.fst).Sublist (slots.map Prod.fst) := by
  induction slots with
  | nil => exact List.Sublist.slnil
  | cons s slots ih =>
    obtain ⟨name, _ | v⟩ := s
    · exact ih.cons name
    · exact ih.cons_cons name

/-- Names without repetition pass the test of the reader. -/
theorem distinctNames_of_nodup {ms : List (String × Value)} (h : (ms.map Prod.fst).Nodup) :
    distinctNames ms = true := by
  induction ms with
  | nil => rfl
  | cons m ms ih =>
    rw [List.map_cons, List.nodup_cons] at h
    obtain ⟨hm, hms⟩ := h
    have hany : (ms.any fun n => n.1 == m.1) = false := by
      rw [List.any_eq_false]
      intro n hn heq
      exact hm (List.mem_map.2 ⟨n, hn, by simpa using heq⟩)
    rw [distinctNames, hany, ih hms]
    rfl

/-- A reader finds in an object what stands in the slot of the field. -/
theorem field?_written {slots : List (String × Option Value)} (hnodup : (slots.map Prod.fst).Nodup)
    {name : String} {v : Option Value} (h : (name, v) ∈ slots) {α : Type} (absent : Option α)
    (f : Value → Option α) : field? (written slots) name absent f = v.elim absent f := by
  have hname : ∀ w : Value, (name, w) ∈ written slots ↔ some w = v := by
    intro w
    rw [mem_written_iff]
    constructor
    · intro hw
      exact (Prod.mk.inj (List.inj_on_of_nodup_map hnodup hw h rfl)).2
    · rintro rfl
      exact h
  rw [field?]
  cases hfind : (written slots).find? (·.1 == name) with
  | none =>
    cases v with
    | none => rfl
    | some w =>
      have := List.find?_eq_none.1 hfind _ ((hname w).2 rfl)
      simp at this
  | some m =>
    obtain ⟨n, w⟩ := m
    obtain rfl : n = name := by simpa using List.find?_some hfind
    rw [← (hname w).1 (List.mem_of_find?_eq_some hfind)]
    rfl

/-- The members that the reader of a record finds in an object with the record's slots. -/
theorem record_written {fields : List String} {slots : List (String × Option Value)}
    (hfields : slots.map Prod.fst = fields) (hnodup : fields.Nodup) :
    ∃ ms, recordMembers? fields (.obj (written slots)) = some ms ∧
      (ms.all (fields.contains ·.1) && distinctNames ms) = true ∧
      ∀ (name : String) (v : Option Value), (name, v) ∈ slots → ∀ {α : Type} (absent : Option α)
        (f : Value → Option α), field? ms name absent f = v.elim absent f := by
  subst hfields
  have hnames : ((written slots).map Prod.fst).Nodup := hnodup.sublist (map_fst_written_sublist slots)
  refine ⟨written slots, rfl, ?_, fun name v h => field?_written hnodup h⟩
  rw [distinctNames_of_nodup hnames, Bool.and_true, List.all_eq_true]
  intro m hm
  rw [List.contains_iff_mem]
  exact List.mem_map_of_mem (mem_written_iff.1 hm)

/-- The members that a reader finds that asks for its fields and skips others. -/
theorem openRecord_written {fields : List String} {slots : List (String × Option Value)}
    (hfields : slots.map Prod.fst = fields) (hnodup : fields.Nodup) :
    ∃ ms, recordMembers? fields (.obj (written slots)) = some ms ∧
      distinctNames (ms.filter (fields.contains ·.1)) = true ∧
      ∀ (name : String) (v : Value), (name, some v) ∈ slots → ∀ {α : Type} (f : Value → Option α),
        field? ms name none f = f v := by
  subst hfields
  have hnames : ((written slots).map Prod.fst).Nodup := hnodup.sublist (map_fst_written_sublist slots)
  refine ⟨written slots, rfl, ?_, fun name v h _ f => field?_written hnodup h none f⟩
  exact distinctNames_of_nodup (hnames.sublist (List.filter_sublist.map _))

/-- A record is one level deeper than what stands in its slots. -/
theorem fits_written {depth : Nat} {slots : List (String × Option Value)}
    (h : ∀ s ∈ slots, ∀ v ∈ s.2, v.Fits depth) : (Value.obj (written slots)).Fits (depth + 1) :=
  fun _ hm => h _ (mem_written_iff.1 hm) _ rfl

/-- A list whose members are each read back as `h` says. -/
theorem listOf?_map_map {α β : Type} {f : Value → Option β} {g : α → Value} {h : α → β}
    (hread : ∀ a, f (g a) = some (h a)) (l : List α) :
    Value.listOf? f (.arr (l.map g)) = some (l.map h) := by
  induction l with
  | nil => rfl
  | cons a l ih =>
    have ih : (l.map g).mapM f = some (l.map h) := ih
    show (g a :: l.map g).mapM f = some (h a :: l.map h)
    rw [List.mapM_cons, hread, ih]
    rfl

/-- A list is read back if each of its members is. -/
theorem listOf?_map {α : Type} {f : Value → Option α} {g : α → Value}
    (hread : ∀ a, f (g a) = some a) (l : List α) : Value.listOf? f (.arr (l.map g)) = some l := by
  rw [listOf?_map_map hread, List.map_id']

/-! A slot that may be left out is read back if what is left out is what an absent member stands for. -/

/-- An optional field is read back, an absent member standing for no value. -/
theorem elim_optional {α : Type} {f : Value → Option α} {g : α → Value}
    (h : ∀ a, Value.optional? f (g a) = some (some a)) (o : Option α) :
    (o.map g).elim (some none) (Value.optional? f) = some o := by
  cases o with
  | none => rfl
  | some a => exact h a

/-- A flag is read back, an absent member standing for `false`. -/
theorem elim_flag (b : Bool) :
    (if b then some (Value.bool true) else none).elim (some false) Value.bool? = some b := by
  cases b <;> rfl

/-- A list of texts is read back, an absent member standing for the empty list. -/
theorem elim_strings (l : List String) :
    (if l.isEmpty then none else some (Value.arr (l.map .str))).elim (some [])
      (Value.listOf? Value.str?) = some l := by
  cases l with
  | nil => rfl
  | cons s l => exact listOf?_map (g := .str) (fun _ => rfl) (s :: l)

/-- A text is read as itself. -/
theorem str?_str (s : String) : (Value.str s).str? = some s := rfl

/-! Numbers are read back as words of their size. -/

/-- An integer is read as a signed word if it is in the range of one. -/
theorem int64?_int (n : Int) : (Value.int n).int64? =
    if Int64.minValue.toInt ≤ n ∧ n ≤ Int64.maxValue.toInt then some (.ofInt n) else none := rfl

/-- An integer is read as a word of 32 bits if it is in the range of one. -/
theorem word32?_int (n : Int) : (Value.int n).word32? =
    if 0 ≤ n ∧ n < 4294967296 then some (.ofNat n.toNat) else none := rfl

/-- An integer is read as a word of 64 bits if it is in the range of one. -/
theorem word64?_int (n : Int) : (Value.int n).word64? =
    if 0 ≤ n ∧ n < 18446744073709551616 then some (.ofNat n.toNat) else none := rfl

/-- A signed word is read back from its number. -/
theorem int64?_toInt (i : Int64) : (Value.int i.toInt).int64? = some i := by
  have hrange : Int64.minValue.toInt ≤ i.toInt ∧ i.toInt ≤ Int64.maxValue.toInt :=
    ⟨Int64.minValue_le_toInt i, Int64.toInt_le i⟩
  rw [int64?_int, if_pos hrange, Int64.ofInt_toInt]

/-- A word of 32 bits is read back from its number. -/
theorem word32?_toNat (w : UInt32) : (Value.int w.toNat).word32? = some w := by
  have hlt : w.toNat < 2 ^ 32 := w.toNat_lt
  have hrange : 0 ≤ (w.toNat : Int) ∧ (w.toNat : Int) < 4294967296 := by omega
  rw [word32?_int, if_pos hrange, Int.toNat_natCast, UInt32.ofNat_toNat]

/-- A word of 64 bits is read back from its number. -/
theorem word64?_toNat (w : UInt64) : (Value.int w.toNat).word64? = some w := by
  have hlt : w.toNat < 2 ^ 64 := w.toNat_lt
  have hrange : 0 ≤ (w.toNat : Int) ∧ (w.toNat : Int) < 18446744073709551616 := by omega
  rw [word64?_int, if_pos hrange, Int.toNat_natCast, UInt64.ofNat_toNat]

/-! What is written of strings, flags and words fits at any depth. -/

/-- A text fits at every depth. -/
@[simp] theorem fits_str (depth : Nat) (s : String) : (Value.str s).Fits depth := by
  cases depth <;> trivial

/-- A truth value fits at every depth. -/
@[simp] theorem fits_bool (depth : Nat) (b : Bool) : (Value.bool b).Fits depth := by
  cases depth <;> trivial

/-- An integer fits if it is one of 64 bits, signed or unsigned; the depth does not matter. -/
theorem fits_int_iff {depth : Nat} {n : Int} :
    (Value.int n).Fits depth ↔ Int64.minValue.toInt ≤ n ∧ n < 18446744073709551616 := by
  cases depth <;> rfl

/-- A signed word fits at every depth. -/
@[simp] theorem fits_int64 (depth : Nat) (i : Int64) : (Value.int i.toInt).Fits depth := by
  have hhigh : i.toInt < 2 ^ 63 := Int64.toInt_lt i
  exact fits_int_iff.2 ⟨Int64.minValue_le_toInt i, by omega⟩

/-- A number below `2 ^ 64` fits at every depth. -/
theorem fits_natCast (depth : Nat) {n : Nat} (h : n < 18446744073709551616) :
    (Value.int n).Fits depth := by
  have hlow : Int64.minValue.toInt ≤ 0 := by decide
  exact fits_int_iff.2 ⟨by omega, by omega⟩

/-- A word of 32 bits fits at every depth. -/
@[simp] theorem fits_word32 (depth : Nat) (w : UInt32) : (Value.int w.toNat).Fits depth := by
  have hlt : w.toNat < 2 ^ 32 := w.toNat_lt
  exact fits_natCast depth (by omega)

/-- A word of 64 bits fits at every depth. -/
@[simp] theorem fits_word64 (depth : Nat) (w : UInt64) : (Value.int w.toNat).Fits depth :=
  fits_natCast depth w.toNat_lt

/-- A list is one level deeper than its members. -/
theorem fits_arr_map {α : Type} {depth : Nat} {g : α → Value} {l : List α}
    (h : ∀ a ∈ l, (g a).Fits depth) : (Value.arr (l.map g)).Fits (depth + 1) := by
  intro v hv
  obtain ⟨a, ha, rfl⟩ := List.mem_map.1 hv
  exact h a ha

end Json

open Json (Value written)

/-! ## Policies, rules and configurations -/

namespace Policy

/-- What is written for the fields of a policy. -/
def slots (p : Policy) : List (String × Option Value) :=
  [("type", some (.str p.typeName)), ("pkg", p.pkg.map .str), ("pkg_name", p.pkgName.map .str),
    ("is_ptr", if p.isPtr then some (.bool true) else none),
    ("is_array", if p.isArray then some (.bool true) else none),
    ("index", p.index.map fun i => .int i.toInt)]

/-- A policy is written slot by slot. -/
theorem toJson_eq (p : Policy) : p.toJson = .obj (written p.slots) := by
  simp only [toJson, slots, Json.written_cons, List.append_assoc]
  rw [Json.written, List.flatMap_nil, List.append_nil]
  rfl

/-- The slots of a policy are its fields, in the order in which they are declared. -/
theorem map_fst_slots (p : Policy) : p.slots.map Prod.fst = fields := rfl

/-- A policy is read back from what is written of it. -/
theorem ofJson?_toJson (p : Policy) : Policy.ofJson? p.toJson = some p := by
  obtain ⟨ms, hms, hguard, hfield⟩ := Json.record_written p.map_fst_slots (by decide)
  have hsome : ∀ i : Int64, Value.optional? Value.int64? (.int i.toInt) = some (some i) := fun i =>
    congrArg (Option.map some) (Json.int64?_toInt i)
  have htype := hfield "type" (some (.str p.typeName)) (by simp [slots]) none Value.str?
  have hpkg := (hfield "pkg" (p.pkg.map .str) (by simp [slots]) _ _).trans
    (Json.elim_optional (f := Value.str?) (fun _ => rfl) p.pkg)
  have hname := (hfield "pkg_name" (p.pkgName.map .str) (by simp [slots]) _ _).trans
    (Json.elim_optional (f := Value.str?) (fun _ => rfl) p.pkgName)
  have hptr := (hfield "is_ptr" _ (by simp [slots]) _ _).trans (Json.elim_flag p.isPtr)
  have harray := (hfield "is_array" _ (by simp [slots]) _ _).trans (Json.elim_flag p.isArray)
  have hindex := (hfield "index" _ (by simp [slots]) _ _).trans (Json.elim_optional hsome p.index)
  simp only [toJson_eq, ofJson?, hms, hguard, htype, hpkg, hname, hptr, harray, hindex,
    Option.bind_eq_bind, Option.bind_some, guard_true, Option.pure_def, Option.elim_some, Value.str?]

/-- A policy takes one level. -/
theorem fits_toJson (p : Policy) (depth : Nat) : p.toJson.Fits (depth + 1) := by
  rw [toJson_eq]
  refine Json.fits_written ?_
  simp [slots]

end Policy

namespace Rule

/-- What is written for the fields of a rule. -/
def slots (r : Rule) : List (String × Option Value) :=
  ("name", r.name.map .str) :: ("args", some (.arr (r.args.map Policy.toJson))) ::
    Gate.all.map fun g =>
      (g.key, if (r.patterns g).isEmpty then none else some (.arr ((r.patterns g).map .str)))

/-- The slots of a rule are its fields, in the order in which they are declared. -/
theorem map_fst_slots (r : Rule) : r.slots.map Prod.fst = fields := rfl

/-- A rule is written slot by slot. -/
theorem toJson_eq (r : Rule) : r.toJson = .obj (written r.slots) := by
  rw [toJson, slots, Json.written_cons, Json.written_cons, Json.written, List.flatMap_map]
  rfl

/-- A rule is read back, each of its six pattern lists from the slot of its gate. -/
theorem ofJson?_toJson (r : Rule) : Rule.ofJson? r.toJson = some r := by
  obtain ⟨ms, hms, hguard, hfield⟩ := Json.record_written r.map_fst_slots (by decide)
  have hname := (hfield "name" (r.name.map .str) (by simp [slots]) _ _).trans
    (Json.elim_optional (f := Value.str?) (fun _ => rfl) r.name)
  have hargs := (hfield "args" (some (.arr (r.args.map Policy.toJson))) (by simp [slots]) (some [])
    (Value.listOf? Policy.ofJson?)).trans (Json.listOf?_map Policy.ofJson?_toJson r.args)
  have hgate : ∀ g ∈ Gate.all, Json.field? ms g.key (some []) (Value.listOf? Value.str?) =
      some (r.patterns g) := by
    intro g hg
    have hslot : (g.key, if (r.patterns g).isEmpty then none
        else some (Value.arr ((r.patterns g).map .str))) ∈ r.slots :=
      .tail _ (.tail _ (List.mem_map.2 ⟨g, hg, rfl⟩))
    exact (hfield _ _ hslot _ _).trans (Json.elim_strings (r.patterns g))
  simp only [Gate.all, List.forall_mem_cons, patterns] at hgate
  simp only [toJson_eq, ofJson?, hms, hguard, hname, hargs, hgate,
    Option.bind_eq_bind, Option.bind_some, guard_true, Option.pure_def]

/-- A rule takes three levels: itself, the list of its policies, and a policy. -/
theorem fits_toJson (r : Rule) (depth : Nat) : r.toJson.Fits (depth + 3) := by
  rw [toJson_eq]
  refine Json.fits_written ?_
  simp only [slots, List.forall_mem_cons, List.forall_mem_map]
  refine ⟨by simp, ?_, fun g _ v hv => ?_⟩
  · intro v hv
    rw [← Option.some.inj hv]
    exact Json.fits_arr_map fun p _ => p.fits_toJson depth
  · split at hv
    · cases hv
    · rw [← Option.some.inj hv]
      exact Json.fits_arr_map fun s _ => Json.fits_str _ s

end Rule

namespace Config

/-- What is written for the field of a configuration. -/
def slots (c : Config) : List (String × Option Value) :=
  [("rules", some (.arr (c.rules.map Rule.toJson)))]

/-- A configuration has one slot, for its rules. -/
theorem map_fst_slots (c : Config) : c.slots.map Prod.fst = ["rules"] := rfl

/-- A configuration is written slot by slot. -/
theorem toJson_eq (c : Config) : c.toJson = .obj (written c.slots) := rfl

/-- A configuration is read back from what is written of it. -/
theorem ofJson?_toJson (c : Config) : Config.ofJson? c.toJson = some c := by
  obtain ⟨ms, hms, hguard, hfield⟩ := Json.record_written c.map_fst_slots (by decide)
  have hrules := (hfield "rules" _ (List.mem_singleton_self _) (some [])
    (Value.listOf? Rule.ofJson?)).trans (Json.listOf?_map Rule.ofJson?_toJson c.rules)
  simp only [toJson_eq, ofJson?, hms, hguard, hrules,
    Option.bind_eq_bind, Option.bind_some, guard_true, Option.pure_def]

/-- A configuration takes two levels more than a rule. -/
theorem fits_toJson (c : Config) (depth : Nat) : c.toJson.Fits (depth + 5) := by
  rw [toJson_eq]
  refine Json.fits_written ?_
  rw [slots, List.forall_mem_singleton]
  intro v hv
  rw [← Option.some.inj hv]
  exact Json.fits_arr_map fun r _ => r.fits_toJson depth

/-- The configuration that a JSON text writes. -/
def ofJsonText? (text : String) : Option Config := (Value.parse? text).bind Config.ofJson?

/-- **A configuration is read back from its text.** -/
theorem ofJsonText?_json (c : Config) : ofJsonText? c.json = some c := by
  rw [ofJsonText?, json, Value.parse?_pretty (c.fits_toJson 122), Option.bind_some, ofJson?_toJson]

/-- The JSON listing of a configuration, valid or not, loses nothing: it is read back as it was. So a
text that is read as a configuration and listed again is read as the same configuration, and listing
that one gives the same listing. -/
theorem json_lossless (c : Config) :
    ofJsonText? c.json = some c ∧
    ∀ text, ofJsonText? text = some c → ∃ again,
      ofJsonText? c.json = some again ∧ again = c ∧ again.json = c.json :=
  ⟨c.ofJsonText?_json, fun _ _ => ⟨c, c.ofJsonText?_json, rfl, rfl⟩⟩

end Config

/-! ## Diagnostics and reports -/

namespace Diagnostic

/-- What is written for the fields of a diagnostic. -/
def slots (d : Diagnostic) : List (String × Option Value) :=
  [("kind", some (.str d.kind.word)), ("code", some (.str d.code)), ("file", some (.str d.file)),
    ("line", some (.int d.line.toNat)), ("column", some (.int d.column.toNat)),
    ("offset", some (.int d.offset.toNat)), ("function", some (.str d.function)),
    ("rule", some (.str d.rule)), ("message", some (.str d.message))]

/-- The slots of a diagnostic are its fields without the number of the rule. -/
theorem map_fst_slots (d : Diagnostic) : d.slots.map Prod.fst = fields := rfl

/-- A diagnostic is written slot by slot. -/
theorem toJson_eq (d : Diagnostic) : d.toJson = .obj (written d.slots) := rfl

/-- The diagnostic without the number of its rule. -/
def withoutRuleIndex (d : Diagnostic) : Diagnostic := { d with ruleIndex := 0 }

/-- The kind of a diagnostic is read back from its word. -/
theorem ofWord?_word (kind : DiagnosticKind) : DiagnosticKind.ofWord? kind.word = some kind := by
  cases kind <;> decide

/-- A diagnostic is read back but for the number of its rule, which is not written. -/
theorem ofJson?_toJson (d : Diagnostic) : Diagnostic.ofJson? d.toJson = some d.withoutRuleIndex := by
  obtain ⟨ms, hms, hguard, hfield⟩ := Json.openRecord_written d.map_fst_slots (by decide)
  have hkind := (hfield "kind" (.str d.kind.word) (by simp [slots])
    fun v => v.str?.bind DiagnosticKind.ofWord?).trans (ofWord?_word d.kind)
  simp only [toJson_eq, ofJson?, hms, hguard, hkind, hfield "code" (.str d.code) (by simp [slots]),
    hfield "file" (.str d.file) (by simp [slots]),
    hfield "line" (.int d.line.toNat) (by simp [slots]),
    hfield "column" (.int d.column.toNat) (by simp [slots]),
    hfield "offset" (.int d.offset.toNat) (by simp [slots]),
    hfield "function" (.str d.function) (by simp [slots]),
    hfield "rule" (.str d.rule) (by simp [slots]),
    hfield "message" (.str d.message) (by simp [slots]), Json.str?_str, Json.word32?_toNat,
    Json.word64?_toNat, Option.bind_eq_bind, Option.bind_some, guard_true, Option.pure_def]
  rfl

/-- A diagnostic takes one level. -/
theorem fits_toJson (d : Diagnostic) (depth : Nat) : d.toJson.Fits (depth + 1) := by
  rw [toJson_eq]
  refine Json.fits_written ?_
  simp [slots]

end Diagnostic

namespace Report

/-- What is written for the counters. -/
def Info.slots (i : Info) : List (String × Option Value) :=
  [("rules", some (.int i.rules.toNat)), ("functions_analyzed", some (.int i.functionsAnalyzed.toNat)),
    ("functions_skipped", some (.int i.functionsSkipped.toNat)),
    ("parse_failures", some (.int i.parseFailures.toNat))]

/-- The slots of the counters are their fields, in the order in which they are declared. -/
theorem Info.map_fst_slots (i : Info) : i.slots.map Prod.fst = Info.fields := rfl

/-- The counters are written slot by slot. -/
theorem Info.toJson_eq (i : Info) : i.toJson = .obj (written i.slots) := rfl

/-- The counters are read back from what is written of them. -/
theorem Info.ofJson?_toJson (i : Info) : Info.ofJson? i.toJson = some i := by
  obtain ⟨ms, hms, hguard, hfield⟩ := Json.openRecord_written i.map_fst_slots (by decide)
  simp only [Info.toJson_eq, Info.ofJson?, hms, hguard,
    hfield "rules" (.int i.rules.toNat) (by simp [slots]),
    hfield "functions_analyzed" (.int i.functionsAnalyzed.toNat) (by simp [slots]),
    hfield "functions_skipped" (.int i.functionsSkipped.toNat) (by simp [slots]),
    hfield "parse_failures" (.int i.parseFailures.toNat) (by simp [slots]), Json.word32?_toNat,
    Option.bind_eq_bind, Option.bind_some, guard_true, Option.pure_def]

/-- The counters take one level. -/
theorem Info.fits_toJson (i : Info) (depth : Nat) : i.toJson.Fits (depth + 1) := by
  rw [Info.toJson_eq]
  refine Json.fits_written ?_
  simp [Info.slots]

/-- What is written for the fields of a report. -/
def slots (r : Report) : List (String × Option Value) :=
  [("version", some (.str r.version)), ("command", some (.str r.command)),
    ("status", some (.str r.status)), ("files_analyzed", some (.arr (r.filesAnalyzed.map .str))),
    ("diagnostics", some (.arr (r.diagnostics.map Diagnostic.toJson))), ("info", some r.info.toJson)]

/-- The slots of a report are its fields, in the order in which they are declared. -/
theorem map_fst_slots (r : Report) : r.slots.map Prod.fst = fields := rfl

/-- A report is written slot by slot. -/
theorem toJson_eq (r : Report) : r.toJson = .obj (written r.slots) := rfl

/-- The report without the numbers of rules. -/
def withoutRuleIndexes (r : Report) : Report :=
  { r with diagnostics := r.diagnostics.map Diagnostic.withoutRuleIndex }

/-- A report is read back but for the numbers of rules in its diagnostics. -/
theorem ofJson?_toJson (r : Report) : Report.ofJson? r.toJson = some r.withoutRuleIndexes := by
  obtain ⟨ms, hms, hguard, hfield⟩ := Json.openRecord_written r.map_fst_slots (by decide)
  have hfiles := (hfield "files_analyzed" (.arr (r.filesAnalyzed.map .str)) (by simp [slots])
    (Value.listOf? Value.str?)).trans (Json.listOf?_map Json.str?_str r.filesAnalyzed)
  have hdiagnostics := (hfield "diagnostics" (.arr (r.diagnostics.map Diagnostic.toJson))
    (by simp [slots]) (Value.listOf? Diagnostic.ofJson?)).trans
      (Json.listOf?_map_map Diagnostic.ofJson?_toJson r.diagnostics)
  simp only [toJson_eq, ofJson?, hms, hguard, hfield "version" (.str r.version) (by simp [slots]),
    hfield "command" (.str r.command) (by simp [slots]),
    hfield "status" (.str r.status) (by simp [slots]), hfiles, hdiagnostics,
    hfield "info" r.info.toJson (by simp [slots]), Info.ofJson?_toJson, Json.str?_str,
    Option.bind_eq_bind, Option.bind_some, guard_true, Option.pure_def]
  rfl

/-- A report takes two levels more than a diagnostic. -/
theorem fits_toJson (r : Report) (depth : Nat) : r.toJson.Fits (depth + 3) := by
  rw [toJson_eq]
  refine Json.fits_written ?_
  simp only [slots, List.forall_mem_cons, Option.mem_some_iff, forall_eq']
  exact ⟨Json.fits_str _ _, Json.fits_str _ _, Json.fits_str _ _,
    Json.fits_arr_map fun s _ => Json.fits_str _ s,
    Json.fits_arr_map fun d _ => d.fits_toJson depth, r.info.fits_toJson (depth + 1), by simp⟩

/-- The report that a JSON text writes. -/
def ofJsonText? (text : String) : Option Report := (Value.parse? text).bind Report.ofJson?

/-- **A report is read back from its text**, but for the numbers of rules. -/
theorem ofJsonText?_json (r : Report) : ofJsonText? r.json = some r.withoutRuleIndexes := by
  rw [ofJsonText?, json, Value.parse?_pretty (r.fits_toJson 124), Option.bind_some, ofJson?_toJson]

/-- The numbers of rules are not seen in the JSON text. -/
theorem toJson_withoutRuleIndexes (r : Report) : r.withoutRuleIndexes.toJson = r.toJson := by
  have hdiagnostics : (r.diagnostics.map Diagnostic.withoutRuleIndex).map Diagnostic.toJson =
      r.diagnostics.map Diagnostic.toJson := List.map_map
  rw [toJson, toJson, withoutRuleIndexes, hdiagnostics]

/-- The numbers of rules are not seen in the summary. -/
theorem summary_withoutRuleIndexes (r : Report) : r.withoutRuleIndexes.summary = r.summary := by
  have hcount : ∀ kind, r.withoutRuleIndexes.count kind = r.count kind := fun kind =>
    List.countP_map
  have hlength : r.withoutRuleIndexes.diagnostics.length = r.diagnostics.length := List.length_map _
  simp only [summary, hcount, hlength]
  rfl

/-- The numbers of rules are not seen on the terminal. -/
theorem human_withoutRuleIndexes (r : Report) : r.withoutRuleIndexes.human = r.human := by
  have hlines : (r.diagnostics.map Diagnostic.withoutRuleIndex).map Diagnostic.human =
      r.diagnostics.map Diagnostic.human := List.map_map
  have hempty : r.withoutRuleIndexes.diagnostics.isEmpty = r.diagnostics.isEmpty := List.isEmpty_map
  rw [human, human, hempty, summary_withoutRuleIndexes]
  show (if _ then _ else String.join ((r.diagnostics.map _).map _) ++ _) = _
  rw [hlines]

/-- The JSON text of a report is enough to print it for the terminal. What is read from it is the
report without the numbers of rules; its JSON text is the same again, and so is the text for the
terminal. -/
theorem json_reproduces_human (r : Report) :
    ∃ read, ofJsonText? r.json = some read ∧ read = r.withoutRuleIndexes ∧
      read.json = r.json ∧ read.human = r.human :=
  ⟨_, r.ofJsonText?_json, rfl, congrArg Value.pretty r.toJson_withoutRuleIndexes,
    r.human_withoutRuleIndexes⟩

end Report
end RequiredArgs
