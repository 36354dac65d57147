/-
# Listings of rules as configuration files

The JSON listing of a configuration is a YAML text for the same configuration (`Config.decode_json`), so
it can be loaded if the configuration is valid. The decoder of a record sets its fields in the order of
the entries, beginning with a record of defaults: it ends with the record that was written if each slot
is decoded as the field's value and a slot that is left out stands for the default (`Stands`, `Fills`).

Every string is quoted in a listing, and so none is taken for `null`, a boolean or a number. The only
plain scalars are `true` and the integers, and these are no spelling of an absent value either.
-/

import RequiredArgs.Config.Decode
import RequiredArgs.Proofs.JsonRecords
import RequiredArgs.Proofs.YamlDocument

namespace RequiredArgs

open Json (Value written intDigits natDigits)
open Yaml (Node Writes WritesItems WritesMembers Printable isPrintable)

namespace Yaml

/-! ## Integers -/

/-- A decimal digit is read as its value. -/
theorem digit?_ofNat : ∀ n, n < 10 → digit? (Char.ofNat (48 + n)) = some n := by
  decide

/-- A number is read back from its decimal digits. -/
theorem digits?_natDigits (n : Nat) : digits? 10 (natDigits n) = some n := by
  have hfold : ∀ cs : List Char, cs ≠ [] → digits? 10 cs = cs.foldlM (fun n c =>
      (digit? c).bind fun d => if d < 10 then some (n * 10 + d) else none) 0 := by
    intro cs hcs
    rw [digits?]
    exact hcs
  rw [hfold _ (Json.natDigits_ne_nil n)]
  induction n using Json.natDigits.induct with
  | case1 n hn =>
    rw [natDigits, if_pos hn]
    simp [digit?_ofNat n hn, hn]
  | case2 n hn ih =>
    have hlt : n % 10 < 10 := Nat.mod_lt n (by decide)
    rw [natDigits, if_neg hn, List.foldlM_append, ih]
    simp [digit?_ofNat _ hlt, hlt, Nat.div_add_mod']

/-- The digits of a number have no zero in front that would make them a string. -/
theorem magnitude?_natDigits (n : Nat) : magnitude? (natDigits n) = some n := by
  have hdigits := digits?_natDigits n
  rcases Nat.eq_zero_or_pos n with rfl | hpos
  · rw [natDigits]
    rfl
  · obtain ⟨x, cs, hcs⟩ := List.exists_cons_of_ne_nil (Json.natDigits_ne_nil n)
    have hzero : x ≠ '0' := by
      rintro rfl
      exact Json.head?_natDigits_ne hpos (by rw [hcs]; rfl)
    have hpadded : isPadded (x :: cs) = false := by
      rw [isPadded]
      intro c cs' h
      exact absurd (List.cons.inj h).1 hzero
    rw [hcs] at hdigits ⊢
    rw [magnitude?, hpadded]
    · exact hdigits
    all_goals
      intro ds h
      exact absurd (List.cons.inj h).1 hzero

/-- An integer is read back from its digits and its sign. -/
theorem integer?_intDigits (n : Int) : integer? (.ofList (intDigits n)) = some n := by
  rw [integer?, String.toList_ofList]
  cases n with
  | ofNat n =>
    obtain ⟨x, cs, hcs⟩ := List.exists_cons_of_ne_nil (Json.natDigits_ne_nil n)
    have hx : x.isDigit = true := Json.isDigit_of_mem_natDigits (hcs ▸ List.mem_cons_self)
    have hne : ∀ y ∈ ['-', '+'], x ≠ y := forall_ne_of_class hx (by decide)
    have hmagnitude := magnitude?_natDigits n
    rw [hcs] at hmagnitude
    rw [intDigits, hcs]
    split
    · exact absurd (List.cons.inj ‹_›).1 (hne _ (by simp))
    · exact absurd (List.cons.inj ‹_›).1 (hne _ (by simp))
    · rw [hmagnitude]
      rfl
  | negSucc n =>
    rw [intDigits]
    simp only [magnitude?_natDigits]
    rfl

/-- A signed word is read back from the digits of its number, at the ends of its range as well. -/
theorem int64?_intDigits (i : Int64) : int64? (.ofList (intDigits i.toInt)) = some i := by
  have hrange : Int64.minValue.toInt ≤ i.toInt ∧ i.toInt ≤ Int64.maxValue.toInt :=
    ⟨Int64.minValue_le_toInt i, Int64.toInt_le i⟩
  rw [int64?, integer?_intDigits, Option.bind_some, if_pos hrange, Int64.ofInt_toInt]

/-- An integer is not taken for an absent value. -/
theorem not_isNull_intDigits (n : Int) :
    ((String.ofList (intDigits n)).isEmpty || isNull (.ofList (intDigits n))) = false := by
  have hword : ∀ s ∈ ["", "null", "Null", "NULL", "~"], String.ofList (intDigits n) ≠ s := by
    intro s hs heq
    have hread := integer?_intDigits n
    have hnone : ∀ s ∈ ["", "null", "Null", "NULL", "~"], integer? s = none := by decide
    rw [heq, hnone s hs] at hread
    cases hread
  have hempty : (String.ofList (intDigits n)).isEmpty = false := by
    simpa using hword "" (by simp)
  simp [hempty, isNull, hword]

end Yaml

namespace Config.Decode

/-! ## Decoding values -/

/-- The decoder takes every node that writes `v` for `a`. -/
def Accepts {α : Type} (f : Decodes α) (v : Value) (a : α) : Prop :=
  ∀ path n, Writes n v → f path n = .ok a

/-- What is written has no aliases. -/
theorem resolve_of_writes {n : Node} {v : Value} (h : Writes n v) (root : Node) :
    resolve root n = n := by
  cases h <;> rfl

/-- A quoted string is taken for itself, whatever word of YAML it would be without its marks. -/
theorem accepts_string (root : Node) (s : String) : Accepts (string root) (.str s) s := by
  intro path n h
  rw [string, resolve_of_writes h]
  cases h
  rfl

/-- The words `true` and `false` are taken for the truth values. -/
theorem accepts_bool (root : Node) (b : Bool) : Accepts (bool root) (.bool b) b := by
  intro path n h
  rw [bool, resolve_of_writes h]
  cases h
  cases b <;> rfl

/-- Digits are taken for the word of their number. -/
theorem accepts_int64 (root : Node) (i : Int64) : Accepts (int64 root) (.int i.toInt) i := by
  intro path n h
  rw [int64, resolve_of_writes h]
  cases h
  simp only [Yaml.int64?_intDigits, if_true]

/-- A value that is there is not taken for an absent one, whatever its text is. -/
theorem accepts_option {α : Type} {f : Decodes α} {v : Value} {a : α} (h : Accepts f v a)
    (hnull : v ≠ .null) (root : Node) : Accepts (option root f) v (some a) := by
  intro path n hn
  rw [option, resolve_of_writes hn, h path n hn]
  cases hn with
  | null => exact absurd rfl hnull
  | bool _ b => cases b <;> rfl
  | int _ n =>
    simp only [Yaml.not_isNull_intDigits, Bool.false_eq_true, if_false]
    rfl
  | str => rfl
  | arr => rfl
  | obj => rfl

/-- The items of a sequence are decoded one by one, each under its number in the path. -/
theorem items_of_writes {α : Type} {f : Decodes α} {g : α → Value} (h : ∀ a, Accepts f (g a) a)
    (path : String) {l : List α} {ns : List Node} (hns : WritesItems ns (l.map g)) (i : Nat) :
    items f path i ns = .ok l := by
  induction l generalizing ns i with
  | nil =>
    cases hns
    rfl
  | cons a l ih =>
    cases hns with
    | cons head tail =>
      rw [items, h a _ _ head, ih tail (i + 1)]
      rfl

/-- A sequence is taken for the list of what its items are taken for. -/
theorem accepts_list {α : Type} {f : Decodes α} {g : α → Value} (h : ∀ a, Accepts f (g a) a)
    (root : Node) (l : List α) : Accepts (list root f) (.arr (l.map g)) l := by
  intro path n hn
  rw [list, resolve_of_writes hn]
  cases hn with
  | arr _ hns => exact items_of_writes h path hns 0

/-! ## Decoding records -/

/-- Setting the fields of the slots one after the other, those that are left out excepted, leads from one
value to another. -/
inductive Fills {α : Type} (set : String → String → Node → α → Except ParseError α) :
    List (String × Option Value) → α → α → Prop
  | nil (a : α) : Fills set [] a a
  | cons {name : String} {slot : Option Value} {slots : List (String × Option Value)} {a b c : α}
      (put : ∀ v ∈ slot, ∀ path n, Writes n v → set name path n a = .ok b)
      (skip : slot = none → a = b) (rest : Fills set slots b c) :
      Fills set ((name, slot) :: slots) a c

section Records

variable {α : Type} {set : String → String → Node → α → Except ParseError α}
  {slots : List (String × Option Value)} {a b : α}

/-- The entries of a record fill its slots, and their names are seen. -/
theorem entries_written (h : Fills set slots a b) (root : Node) {fields seen : List String}
    (path : String) (mark : Yaml.Mark) {es : List (Node × Node)}
    (hes : WritesMembers es (written slots)) (hfields : ∀ s ∈ slots, s.1 ∈ fields)
    (hnodup : (slots.map Prod.fst).Nodup) (hseen : ∀ s ∈ slots, s.1 ∉ seen) :
    entries root fields path mark set es seen a =
      .ok (b, ((written slots).map Prod.fst).reverse ++ seen) := by
  induction h generalizing es seen with
  | nil a =>
    cases hes
    rfl
  | @cons name slot slots a b c put skip rest ih =>
    obtain ⟨hfield, hfields'⟩ := List.forall_mem_cons.1 hfields
    obtain ⟨hnew, hseen'⟩ := List.forall_mem_cons.1 hseen
    rw [List.map_cons, List.nodup_cons] at hnodup
    cases slot with
    | none =>
      -- nothing is written for the slot, so the entries are those of the others
      rw [skip rfl]
      exact ih hes hfields' hnodup.2 hseen'
    | some v =>
      -- the entry has the slot's name, which no entry before had
      have hes : WritesMembers es ((name, v) :: written slots) := hes
      cases hes with
      | @cons m n _ _ es _ head tail =>
        have hmore : ∀ s ∈ slots, s.1 ∉ name :: seen := by
          intro s hs hmem
          rcases List.mem_cons.1 hmem with heq | hmem
          · have hname : s.1 ∈ slots.map Prod.fst := List.mem_map_of_mem hs
            rw [heq] at hname
            exact hnodup.1 hname
          · exact hseen' s hs hmem
        have hkey : key root fields path (.scalar m {} .doubleQuoted name) = .ok name :=
          if_pos (List.contains_iff_mem.2 hfield)
        have hcontains : seen.contains name = false := by simpa using hnew
        have hset : set name (keyPath path name) n a = .ok b := put v rfl _ n head
        have hnames : ((written ((name, some v) :: slots)).map Prod.fst).reverse ++ seen =
            ((written slots).map Prod.fst).reverse ++ name :: seen := by
          simp [Json.written_cons, Json.optionalMember]
        rw [entries, hkey, hnames, ← ih tail hfields' hnodup.2 hmore]
        simp only [Yaml.Reads.ok_bind, hcontains, Bool.false_eq_true, if_false, hset]

/-- A record is decoded if its slots are filled and those of the required fields are not left out. -/
theorem accepts_struct (h : Fills set slots a b) (root : Node) (name : String)
    {fields required : List String} (hfields : slots.map Prod.fst = fields) (hnodup : fields.Nodup)
    (hrequired : ∀ f ∈ required, ∃ v, (f, some v) ∈ slots) :
    Accepts (struct root name fields required set a) (.obj (written slots)) b := by
  intro path n hn
  cases hn with
  | @obj m es _ hes =>
    have hmem : ∀ s ∈ slots, s.1 ∈ fields := fun s hs => hfields ▸ List.mem_map_of_mem hs
    have hread : entries root fields path m set es [] a =
        .ok (b, ((written slots).map Prod.fst).reverse ++ []) :=
      entries_written h root path m hes hmem (hfields ▸ hnodup) (by simp)
    have hseen : required.find?
        (!(((written slots).map Prod.fst).reverse ++ []).contains ·) = none := by
      rw [List.find?_eq_none]
      intro f hf
      obtain ⟨v, hv⟩ := hrequired f hf
      have hname : f ∈ (written slots).map Prod.fst :=
        List.mem_map.2 ⟨(f, v), Json.mem_written_iff.2 hv, rfl⟩
      simpa using hname
    simp only [struct, resolve, Node.mark, hread, Yaml.Reads.ok_bind, hseen]
    rfl

end Records

/-! ## Policies, rules and configurations -/

/-- The slot is decoded as `a`, which is what is taken for a slot that is left out. -/
structure Stands {α : Type} (f : Decodes α) (slot : Option Value) (absent a : α) : Prop where
  accepts : ∀ v ∈ slot, Accepts f v a
  eq_absent : slot = none → a = absent

/-- A slot that is filled is decoded, whatever stands for one that is left out. -/
theorem stands_some {α : Type} {f : Decodes α} {v : Value} {a : α} (h : Accepts f v a) (absent : α) :
    Stands f (some v) absent a where
  accepts := fun _ hv => Option.some.inj hv ▸ h
  eq_absent := nofun

/-- An optional field stands for no value if it is left out. -/
theorem stands_option {α : Type} {f : Decodes α} {g : α → Value} (h : ∀ a, Accepts f (g a) a)
    (hnull : ∀ a, g a ≠ .null) (root : Node) (o : Option α) :
    Stands (option root f) (o.map g) none o := by
  cases o with
  | none => exact ⟨nofun, fun _ => rfl⟩
  | some a => exact stands_some (accepts_option (h a) (hnull a) root) none

/-- A flag is written if it is set, and stands for `false` if it is left out. -/
theorem stands_flag (root : Node) (b : Bool) :
    Stands (bool root) (if b then some (.bool true) else none) false b := by
  cases b with
  | false => exact ⟨nofun, fun _ => rfl⟩
  | true => exact stands_some (accepts_bool root true) false

/-- A list of strings is written if it is not empty, and stands for the empty list if it is left
out. -/
theorem stands_strings (root : Node) (l : List String) :
    Stands (list root (string root)) (if l.isEmpty then none else some (.arr (l.map .str))) [] l := by
  cases l with
  | nil => exact ⟨nofun, fun _ => rfl⟩
  | cons s l => exact stands_some (accepts_list (accepts_string root) root (s :: l)) []

/-- Setting a field to what stands in its slot. -/
theorem Fills.field {α β : Type} {set : String → String → Node → α → Except ParseError α}
    {f : Decodes β} {name : String} {slot : Option Value} {slots : List (String × Option Value)}
    {absent x : β} {a c : α} {put : β → α} (hslot : Stands f slot absent x)
    (hset : ∀ path n, set name path n a = (f path n >>= fun x => pure (put x)))
    (habsent : put absent = a) (hrest : Fills set slots (put x) c) :
    Fills set ((name, slot) :: slots) a c := by
  refine .cons (fun v hv path n hn => ?_) (fun hnone => ?_) hrest
  · rw [hset, hslot.accepts v hv path n hn]
    rfl
  · rw [hslot.eq_absent hnone, habsent]

/-- The slots of a policy, set one after the other, make up the policy. -/
theorem fills_policy (root : Node) (p : Policy) :
    Fills (setPolicy root) p.slots { typeName := "" } p := by
  have hstring := fun s => stands_option (accepts_string root) nofun root s
  have hindex := stands_option (accepts_int64 root) nofun root p.index
  exact .field (stands_some (accepts_string root p.typeName) "") (fun _ _ => rfl) rfl <|
    .field (hstring p.pkg) (fun _ _ => rfl) rfl <|
    .field (hstring p.pkgName) (fun _ _ => rfl) rfl <|
    .field (stands_flag root p.isPtr) (fun _ _ => rfl) rfl <|
    .field (stands_flag root p.isArray) (fun _ _ => rfl) rfl <|
    .field hindex (fun _ _ => rfl) rfl <| .nil p

/-- What is written of a policy is taken for that policy. -/
theorem accepts_policy (root : Node) (p : Policy) : Accepts (policy root) p.toJson p := by
  rw [Policy.toJson_eq]
  refine accepts_struct (fills_policy root p) root "ArgumentPolicy" p.map_fst_slots (by decide) ?_
  simp [Policy.slots]

/-- The slots of a rule, set one after the other, make up the rule. -/
theorem fills_rule (root : Node) (r : Rule) : Fills (setRule root) r.slots {} r := by
  have hname := stands_option (accepts_string root) nofun root r.name
  have hargs := stands_some (accepts_list (accepts_policy root) root r.args) []
  have hgate := fun g => stands_strings root (r.patterns g)
  exact .field hname (fun _ _ => rfl) rfl <|
    .field hargs (fun _ _ => rfl) rfl <|
    .field (hgate .fileInclude) (fun _ _ => rfl) rfl <|
    .field (hgate .fileExclude) (fun _ _ => rfl) rfl <|
    .field (hgate .funcInclude) (fun _ _ => rfl) rfl <|
    .field (hgate .funcExclude) (fun _ _ => rfl) rfl <|
    .field (hgate .recvInclude) (fun _ _ => rfl) rfl <|
    .field (hgate .recvExclude) (fun _ _ => rfl) rfl <| .nil r

/-- What is written of a rule is taken for that rule. -/
theorem accepts_rule (root : Node) (r : Rule) : Accepts (rule root) r.toJson r := by
  rw [Rule.toJson_eq]
  exact accepts_struct (fills_rule root r) root "Rule" r.map_fst_slots (by decide) (by simp)

/-- **A document that writes a configuration is decoded as it.** -/
theorem config_of_writes {root : Node} {c : Config} (h : Writes root c.toJson) :
    config root = .ok c := by
  have hrules := stands_some (accepts_list (accepts_rule root) root c.rules) []
  have hfills : Fills (setConfig root) c.slots {} c := .field hrules (fun _ _ => rfl) rfl (.nil c)
  exact accepts_struct hfills root "Config" c.map_fst_slots (by decide) (by simp) "" root h

end Config.Decode

/-! ## Listings -/

/-- The strings of a policy. -/
def Policy.strings (p : Policy) : List String :=
  p.typeName :: (p.pkg.toList ++ p.pkgName.toList)

/-- The strings of a rule. -/
def Rule.strings (r : Rule) : List String :=
  r.name.toList ++ (r.args.flatMap Policy.strings ++ Gate.all.flatMap r.patterns)

/-- The strings of a configuration. -/
def Config.strings (c : Config) : List String := c.rules.flatMap Rule.strings

namespace Yaml

/-- A record is printable if its fields have short names and what is written for them is printable. -/
theorem printable_written {depth : Nat} {fields : List String} {slots : List (String × Option Value)}
    (hfields : slots.map Prod.fst = fields)
    (hnames : (fields.all fun name =>
      name.toList.all isPrintable && (Json.quote name).length ≤ maxKeyLength) = true)
    (h : ∀ s ∈ slots, ∀ v ∈ s.2, Printable depth v) : Printable (depth + 1) (.obj (written slots)) := by
  intro m hm
  have hm := Json.mem_written_iff.1 hm
  have hname := List.all_eq_true.1 hnames m.1 (hfields ▸ List.mem_map_of_mem hm)
  rw [Bool.and_eq_true, List.all_eq_true, decide_eq_true_eq] at hname
  exact ⟨hname.1, hname.2, h _ hm _ rfl⟩

/-- A list is printable one level deeper than its members. -/
theorem printable_arr_map {α : Type} {depth : Nat} {g : α → Value} {l : List α}
    (h : ∀ a ∈ l, Printable depth (g a)) : Printable (depth + 1) (.arr (l.map g)) := by
  intro v hv
  obtain ⟨a, ha, rfl⟩ := List.mem_map.1 hv
  exact h a ha

/-- A string is printable if its characters are. -/
@[simp] theorem printable_str_iff {depth : Nat} {s : String} :
    Printable depth (.str s) ↔ ∀ x ∈ s.toList, isPrintable x = true := by
  cases depth <;> rfl

/-- A truth value is printable at every depth. -/
@[simp] theorem printable_bool (depth : Nat) (b : Bool) : Printable depth (.bool b) := by
  cases depth <;> trivial

/-- An integer is printable at every depth. -/
@[simp] theorem printable_int (depth : Nat) (n : Int) : Printable depth (.int n) := by
  cases depth <;> trivial

end Yaml

/-- A policy is printable if its strings are; the names of its fields are. -/
theorem Policy.printable_toJson {p : Policy}
    (h : ∀ s ∈ p.strings, ∀ x ∈ s.toList, isPrintable x = true) (depth : Nat) :
    Printable (depth + 1) p.toJson := by
  rw [toJson_eq]
  refine Yaml.printable_written p.map_fst_slots (by decide) ?_
  simp only [strings, List.forall_mem_cons, List.forall_mem_append, Option.mem_toList] at h
  simpa [slots] using h

/-- A rule is printable if its strings are: its name, those of its policies, and its patterns. -/
theorem Rule.printable_toJson {r : Rule}
    (h : ∀ s ∈ r.strings, ∀ x ∈ s.toList, isPrintable x = true) (depth : Nat) :
    Printable (depth + 3) r.toJson := by
  rw [toJson_eq]
  refine Yaml.printable_written r.map_fst_slots (by decide) ?_
  simp only [strings, List.forall_mem_append, List.forall_mem_flatMap, Option.mem_toList] at h
  obtain ⟨hname, hargs, hgates⟩ := h
  simp only [slots, List.forall_mem_cons, List.forall_mem_map]
  refine ⟨by simpa using hname, ?_, fun g hg v hv => ?_⟩
  · intro v hv
    rw [← Option.some.inj hv]
    exact Yaml.printable_arr_map fun p hp => p.printable_toJson (hargs p hp) depth
  · split at hv
    · cases hv
    · rw [← Option.some.inj hv]
      exact Yaml.printable_arr_map fun s hs => Yaml.printable_str_iff.2 (hgates g hg s hs)

/-- A configuration is printable, within the levels that are read, if its strings are. -/
theorem Config.printable_toJson {c : Config}
    (h : ∀ s ∈ c.strings, ∀ x ∈ s.toList, isPrintable x = true) : Printable 5 c.toJson := by
  rw [toJson_eq]
  refine Yaml.printable_written c.map_fst_slots (by decide) ?_
  rw [strings, List.forall_mem_flatMap] at h
  rw [slots, List.forall_mem_singleton]
  intro v hv
  rw [← Option.some.inj hv]
  exact Yaml.printable_arr_map fun r hr => r.printable_toJson (h r hr) 0

namespace Config

/-- The JSON text of a configuration, read as YAML, is decoded as the configuration. -/
theorem decode_json {c : Config} (h : ∀ s ∈ c.strings, ∀ x ∈ s.toList, isPrintable x = true) :
    decode c.json = .ok c := by
  have hprintable := printable_toJson h
  rw [toJson_eq] at hprintable
  obtain ⟨root, hstream, hroot⟩ := Yaml.ofText_pretty hprintable
  have hconfig : Decode.config root = .ok c := Decode.config_of_writes (c.toJson_eq ▸ hroot)
  rw [decode, json, toJson_eq, hstream]
  simp only [hconfig, Bool.false_eq_true, if_false]

/-- The text of a configuration is not blank, so it is not taken for the empty one. -/
theorem allBlank_json (c : Config) : Text.allBlank c.json = false := by
  obtain ⟨rest, hrest⟩ := Yaml.exists_layout_obj (written c.slots) 0
  rw [Text.allBlank, json, toJson_eq, Value.pretty, String.toList_ofList, hrest]
  rfl

/-- The JSON listing of a valid configuration is a configuration file for it, if its strings hold
printable characters of ASCII only. -/
theorem ofYaml_json (c : Config) (hvalid : c.validate = .ok c)
    (hprintable : ∀ s ∈ c.strings, ∀ x ∈ s.toList, 0x20 ≤ x.toNat ∧ x.toNat ≤ 0x7E) :
    ofYaml c.json = .ok c := by
  have hstrings : ∀ s ∈ c.strings, ∀ x ∈ s.toList, isPrintable x = true := by
    intro s hs x hx
    rw [isPrintable, Bool.and_eq_true, decide_eq_true_eq, decide_eq_true_eq]
    exact hprintable s hs x hx
  rw [ofYaml, c.allBlank_json, decode_json hstrings]
  simp only [Bool.false_eq_true, if_false, hvalid]

/-- Strings that would be signs or words of YAML without their marks, an empty name, and the least
index. -/
def awkward : Config where
  rules := [{
    name := some ""
    args := [{
      typeName := "null"
      pkg := some "a\\b \"c\": [#"
      isPtr := true
      index := some (-9223372036854775808) }]
    filePatterns := ["~", "0x1F", ", -"] }, {}]

/-- The configuration `awkward` is valid, and its listing is read back as it. -/
theorem ofYaml_json_awkward : awkward.validate = .ok awkward ∧ ofYaml awkward.json = .ok awkward := by
  have hvalid : awkward.validate = .ok awkward := rfl
  have hprintable : (awkward.strings.all fun s => s.toList.all isPrintable) = true := rfl
  simp only [List.all_eq_true, isPrintable, Bool.and_eq_true, decide_eq_true_eq] at hprintable
  exact ⟨hvalid, ofYaml_json awkward hvalid hprintable⟩

end Config
end RequiredArgs
