/-
# The import table after any history

A table starts empty and takes import declarations one by one. A declaration is recorded if its path is
not empty and its name is neither `_` nor `.`; it is recorded under its name, or under the last segment of
its path if it has none (`ImportTable.Records`). The path is the text without the white space around it
and then without the quotation marks around that (`Go.WritesPath`).

One more declaration puts its path under its alias or changes nothing (`ImportTable.resolve?_add`). So an
alias resolves to the path of the last declaration that was recorded under it, whatever came before and in
between, and the table has as many entries as there are aliases (`ImportTable.ofList_history`).
-/

import Mathlib.Data.Set.Card
import RequiredArgs.Proofs.ExtractedSlots
import RequiredArgs.Proofs.StrippedText

namespace RequiredArgs

namespace Go

/-! ### One declaration -/

/-- The text of an import writes the path: white space stands around the text and quotation marks around
the path. -/
def WritesPath (text path : String) : Prop :=
  ∃ inner, Text.Strips Text.isBlank text.toList inner ∧ Text.Strips isQuoteMark inner path.toList

/-- The path of a text is the one that the text writes. -/
theorem unquotePath_eq_iff {text path : String} : unquotePath text = path ↔ WritesPath text path := by
  constructor
  · rintro rfl
    refine ⟨_, Text.strips_stripWhile Text.isBlank text.toList, ?_⟩
    rw [unquotePath, String.toList_ofList]
    exact Text.strips_stripWhile isQuoteMark _
  · rintro ⟨inner, hblank, hquote⟩
    rw [unquotePath, hblank.eq, hquote.eq, String.ofList_toList]

/-- The default alias is what stands behind the last slash of the path, if it has one. -/
theorem defaultAlias_segment (text : String) :
    '/' ∉ (defaultAlias text).toList ∧ ∃ dir : String, WritesPath text (dir ++ defaultAlias text) ∧
      (dir = "" ∨ dir.toList.getLast? = some '/') := by
  have halias : (defaultAlias text).toList = (unquotePath text).toList.rtakeWhile (· != '/') := by
    rw [defaultAlias, String.toList_ofList]
    rfl
  constructor
  · rw [halias]
    intro hmem
    simpa using List.mem_rtakeWhile_imp hmem
  · let front := (unquotePath text).toList.rdropWhile (· != '/')
    refine ⟨.ofList front, ?_, ?_⟩
    · rw [← unquotePath_eq_iff, ← String.toList_inj, String.toList_append, String.toList_ofList, halias,
        List.rdropWhile_append_rtakeWhile]
    · by_cases hfront : front = []
      · exact .inl (by rw [hfront])
      · have hlast := List.rdropWhile_last_not (· != '/') (unquotePath text).toList hfront
        rw [String.toList_ofList, List.getLast?_eq_some_getLast hfront]
        exact .inr (by simpa using hlast)

namespace ImportTable

/-- The declaration with the given path and name is recorded: `q` is put under `key`. -/
structure Records (path : String) (name : Option String) (key q : String) : Prop where
  written : WritesPath path q
  nonempty : q ≠ ""
  named : ∀ n, name = some n → n ≠ "_" ∧ n ≠ "." ∧ key = n
  unnamed : name = none → key = defaultAlias q

/-- What a declaration records is read off its path and name. -/
theorem recorded?_eq_some_iff {path : String} {name : Option String} {key q : String} :
    recorded? path name = some (key, q) ↔ Records path name key q := by
  cases name with
  | none =>
    simp only [recorded?, Option.ite_none_left_eq_some, String.isEmpty_iff, Option.some.injEq,
      Prod.mk.injEq]
    constructor
    · rintro ⟨hne, rfl, rfl⟩
      exact ⟨unquotePath_eq_iff.1 rfl, hne, nofun, fun _ => rfl⟩
    · rintro ⟨hpath, hne, -, hkey⟩
      obtain rfl := unquotePath_eq_iff.2 hpath
      exact ⟨hne, (hkey rfl).symm, rfl⟩
  | some n =>
    simp only [recorded?, Option.ite_none_left_eq_some, String.isEmpty_iff, Option.some.injEq,
      Prod.mk.injEq, Bool.or_eq_true, beq_iff_eq, not_or]
    constructor
    · rintro ⟨hne, ⟨hblank, hdot⟩, rfl, rfl⟩
      exact ⟨unquotePath_eq_iff.1 rfl, hne, fun n' h => Option.some.inj h ▸ ⟨hblank, hdot, rfl⟩, nofun⟩
    · rintro ⟨hpath, hne, hname, -⟩
      obtain rfl := unquotePath_eq_iff.2 hpath
      obtain ⟨hblank, hdot, rfl⟩ := hname n rfl
      exact ⟨hne, ⟨hblank, hdot⟩, rfl, rfl⟩

/-- A declaration is recorded under one alias and with one path. -/
theorem Records.unique {path : String} {name : Option String} {key q key' q' : String}
    (h : Records path name key q) (h' : Records path name key' q') : key = key' ∧ q = q' := by
  rw [← recorded?_eq_some_iff] at h h'
  exact Prod.mk.inj (Option.some.inj (h.symm.trans h'))

/-- A declaration that is recorded puts its path under its alias. -/
theorem Records.add_eq {path : String} {name : Option String} {key q : String}
    (h : Records path name key q) (t : ImportTable) : t.add path name = t.insert key q := by
  rw [add, recorded?_eq_some_iff.2 h]

/-- A declaration that is not recorded leaves the table as it was. -/
theorem add_eq_self {path : String} {name : Option String} (h : ∀ key q, ¬Records path name key q)
    (t : ImportTable) : t.add path name = t := by
  cases hrec : recorded? path name with
  | none => rw [add, hrec]
  | some x => exact absurd (recorded?_eq_some_iff.1 hrec) (h x.1 x.2)

/-! ### One step -/

/-- What is taken out of the table is no longer found, and all else is. -/
theorem find?_filter_key (es : List (String × String)) (key key' : String) :
    (es.filter (·.1 != key)).find? (·.1 == key') =
      if key' = key then none else es.find? (·.1 == key') := by
  split
  · rename_i h
    subst h
    simp [List.find?_eq_none]
  · rename_i h
    rw [List.find?_filter]
    refine congrArg (es.find? ·) (funext fun x => ?_)
    by_cases hx : x.1 = key'
    · simp [hx, h]
    · simp [hx]

/-- Behind an insertion its alias resolves to the new path, and every other alias as before. -/
theorem resolve?_insert (t : ImportTable) (key path key' : String) :
    (t.insert key path).resolve? key' = if key' = key then some path else t.resolve? key' := by
  rw [resolve?, insert, List.find?_append, find?_filter_key]
  split
  · rename_i h
    simp [h]
  · rename_i h
    have hlast : [(key, path)].find? (·.1 == key') = none := by simp [Ne.symm h]
    rw [hlast, Option.or_none]
    rfl

/-- The alias of an insertion is the last key, and stands among the keys once. -/
theorem keys_insert (t : ImportTable) (key path : String) :
    (t.insert key path).keys = t.keys.filter (· != key) ++ [key] := by
  rw [keys, insert, List.map_append, keys, List.filter_map]
  rfl

/-- An insertion keeps the keys distinct. -/
theorem nodup_keys_insert {t : ImportTable} (h : t.keys.Nodup) (key path : String) :
    (t.insert key path).keys.Nodup := by
  rw [keys_insert, List.nodup_append]
  refine ⟨h.filter _, List.nodup_singleton key, ?_⟩
  intro a ha b hb
  obtain rfl := List.mem_singleton.1 hb
  simpa using (List.mem_filter.1 ha).2

/-- After one more declaration an alias has the path that the declaration records for it, or what it had. -/
theorem resolve?_add (t : ImportTable) (path : String) (name : Option String) (key q : String) :
    (t.add path name).resolve? key = some q ↔ Records path name key q ∨
      (∀ q', ¬Records path name key q') ∧ t.resolve? key = some q := by
  by_cases hrec : ∃ key' q', Records path name key' q'
  · obtain ⟨key', q', hrec⟩ := hrec
    rw [hrec.add_eq, resolve?_insert]
    by_cases hkey : key = key'
    · subst hkey
      rw [if_pos rfl, Option.some.injEq]
      constructor
      · rintro rfl
        exact .inl hrec
      · rintro (h | ⟨h, -⟩)
        · exact (hrec.unique h).2
        · exact absurd hrec (h q')
    · have hother : ∀ q, ¬Records path name key q := fun q h => hkey (h.unique hrec).1
      rw [if_neg hkey, or_iff_right (hother q), and_iff_right hother]
  · have hnone : ∀ key q, ¬Records path name key q := fun key q h => hrec ⟨key, q, h⟩
    rw [add_eq_self hnone, or_iff_right (hnone key q), and_iff_right (hnone key)]

/-- One more declaration keeps the keys distinct, recorded or not. -/
theorem nodup_keys_add {t : ImportTable} (h : t.keys.Nodup) (path : String) (name : Option String) :
    (t.add path name).keys.Nodup := by
  unfold add
  split
  · exact nodup_keys_insert h _ _
  · exact h

/-! ### All steps -/

/-- The last of the declarations that is recorded under the alias has the path. -/
def LastRecord (calls : List (String × Option String)) (key q : String) : Prop :=
  ∃ before call after, calls = before ++ call :: after ∧ Records call.1 call.2 key q ∧
    ∀ c ∈ after, ∀ q', ¬Records c.1 c.2 key q'

/-- Without declarations nothing is recorded. -/
theorem not_lastRecord_nil (key q : String) : ¬LastRecord [] key q := by
  rintro ⟨before, call, after, h, -⟩
  exact absurd h.symm (List.append_ne_nil_of_right_ne_nil before (List.cons_ne_nil call after))

/-- One more declaration is the last that is recorded under its alias; for any other alias the last
one stays the last. -/
theorem lastRecord_concat {calls : List (String × Option String)} {call : String × Option String}
    {key q : String} : LastRecord (calls ++ [call]) key q ↔ Records call.1 call.2 key q ∨
      (∀ q', ¬Records call.1 call.2 key q') ∧ LastRecord calls key q := by
  constructor
  · rintro ⟨before, c, after, h, hrec, hlast⟩
    -- the added declaration is the recorded one if nothing stands behind that, else the last behind it
    rcases List.eq_nil_or_concat after with rfl | ⟨after', c', rfl⟩
    · obtain ⟨-, hc⟩ := List.append_inj' h rfl
      obtain rfl : call = c := List.singleton_inj.1 hc
      exact .inl hrec
    · rw [List.concat_eq_append, ← List.cons_append, ← List.append_assoc] at h
      obtain ⟨rfl, hc⟩ := List.append_inj' h rfl
      obtain rfl : call = c' := List.singleton_inj.1 hc
      rw [List.concat_eq_append, List.forall_mem_append] at hlast
      exact .inr ⟨hlast.2 call (List.mem_singleton_self call), before, c, after', rfl, hrec, hlast.1⟩
  · rintro (hrec | ⟨hnot, before, c, after, rfl, hrec, hlast⟩)
    · exact ⟨calls, call, [], rfl, hrec, by simp⟩
    · refine ⟨before, c, after ++ [call], by simp, hrec, ?_⟩
      rw [List.forall_mem_append, List.forall_mem_singleton]
      exact ⟨hlast, hnot⟩

/-- A table of declarations takes the last of them last. -/
theorem ofList_concat (calls : List (String × Option String)) (call : String × Option String) :
    ofList (calls ++ [call]) = (ofList calls).add call.1 call.2 := by
  simp only [ofList, List.foldl_append, List.foldl_cons, List.foldl_nil]

/-- **The last record wins**: by induction on the history, taking one more declaration at its end.
-/
theorem resolve?_ofList_iff (calls : List (String × Option String)) (key q : String) :
    (ofList calls).resolve? key = some q ↔ LastRecord calls key q := by
  induction calls using List.reverseRecOn with
  | nil => exact iff_of_false (by simp [ofList, resolve?]) (not_lastRecord_nil key q)
  | append_singleton calls call ih => rw [ofList_concat, resolve?_add, lastRecord_concat, ih]

/-- The keys of a table are distinct. -/
theorem nodup_keys_ofList (calls : List (String × Option String)) : (ofList calls).keys.Nodup := by
  induction calls using List.reverseRecOn with
  | nil => exact List.nodup_nil
  | append_singleton calls call ih =>
    rw [ofList_concat]
    exact nodup_keys_add ih call.1 call.2

/-- Among the declarations that are recorded under an alias there is a last one. -/
theorem exists_lastRecord_iff (calls : List (String × Option String)) (key : String) :
    (∃ q, LastRecord calls key q) ↔ ∃ call ∈ calls, ∃ q, Records call.1 call.2 key q := by
  induction calls using List.reverseRecOn with
  | nil => simp [not_lastRecord_nil]
  | append_singleton calls call ih =>
    constructor
    · rintro ⟨q, hq⟩
      rcases lastRecord_concat.1 hq with hrec | ⟨-, hlast⟩
      · exact ⟨call, List.mem_append_right calls (List.mem_singleton_self call), q, hrec⟩
      · obtain ⟨c, hc, hrec⟩ := ih.1 ⟨q, hlast⟩
        exact ⟨c, List.mem_append_left _ hc, hrec⟩
    · rintro ⟨c, hc, hrec⟩
      by_cases hcall : ∃ q, Records call.1 call.2 key q
      · obtain ⟨q, hq⟩ := hcall
        exact ⟨q, lastRecord_concat.2 (.inl hq)⟩
      · have hbefore : c ∈ calls := by
          rcases List.mem_append.1 hc with hc | hc
          · exact hc
          · obtain rfl := List.mem_singleton.1 hc
            exact absurd hrec hcall
        obtain ⟨q, hq⟩ := ih.2 ⟨c, hbefore, hrec⟩
        exact ⟨q, lastRecord_concat.2 (.inr ⟨not_exists.1 hcall, hq⟩)⟩

/-- The keys of a table are the aliases under which some declaration is recorded. -/
theorem mem_keys_ofList_iff (calls : List (String × Option String)) (key : String) :
    key ∈ (ofList calls).keys ↔ ∃ call ∈ calls, ∃ q, Records call.1 call.2 key q := by
  rw [← isSome_resolve?_iff, Option.isSome_iff_exists, ← exists_lastRecord_iff]
  simp only [resolve?_ofList_iff]

/-- The table after any history of declarations. An alias resolves to the path of the last declaration that
is recorded under it and to nothing if there is none; a declaration is recorded if it writes a path that
is not empty and has a name other than `_` and `.`, which is its alias, or no name, and then the default
alias of its path. Any other declaration leaves the table as it was. The table has one entry for each
alias. A default alias is the last segment of a path, so it has no slash, and a recorded path is not empty
and neither starts nor ends with a quotation mark. -/
theorem ofList_history (calls : List (String × Option String)) :
    (∀ key q, (ofList calls).resolve? key = some q ↔ LastRecord calls key q) ∧
    (∀ path name, (∀ key q, ¬Records path name key q) → ∀ t : ImportTable, t.add path name = t) ∧
    (ofList calls).size = {key | ∃ call ∈ calls, ∃ q, Records call.1 call.2 key q}.ncard ∧
    (∀ path, '/' ∉ (defaultAlias path).toList ∧ ∃ dir : String,
      WritesPath path (dir ++ defaultAlias path) ∧ (dir = "" ∨ dir.toList.getLast? = some '/')) ∧
    (∀ path name key q, recorded? path name = some (key, q) ↔ Records path name key q) ∧
    ∀ path name key q, recorded? path name = some (key, q) → q ≠ "" ∧
      ∀ c, q.toList.head? = some c ∨ q.toList.getLast? = some c → isQuoteMark c = false := by
  refine ⟨resolve?_ofList_iff calls, fun path name h => add_eq_self h, ?_, defaultAlias_segment,
    fun path name key q => recorded?_eq_some_iff, ?_⟩
  · have hkeys : {key | ∃ call ∈ calls, ∃ q, Records call.1 call.2 key q} =
        ((ofList calls).keys.toFinset : Set String) := by
      ext key
      rw [List.coe_toFinset, Set.mem_ofPred_eq, Set.mem_ofPred_eq, mem_keys_ofList_iff]
    rw [hkeys, Set.ncard_coe_finset, List.toFinset_card_of_nodup (nodup_keys_ofList calls), keys,
      List.length_map, size]
  · intro path name key q h
    have hrec := recorded?_eq_some_iff.1 h
    obtain ⟨inner, -, hquote⟩ := hrec.written
    refine ⟨hrec.nonempty, ?_⟩
    rintro c (hc | hc)
    · exact hquote.first c hc
    · exact hquote.last c hc

/-- Two packages under the alias `rand`, a blank import between them, and one with a name. -/
theorem ofList_history_rand :
    let calls : List (String × Option String) := [("\"crypto/rand\"", none), ("\"embed\"", some "_"),
      (" `math/rand`\n", none), ("\"os\"", some "stdos")]
    LastRecord calls "rand" "math/rand" ∧
    ((∀ key q, ¬Records "\"embed\"" (some "_") key q) ∧
      (ofList calls).add "\"embed\"" (some "_") = ofList calls) ∧
    {key | ∃ call ∈ calls, ∃ q, Records call.1 call.2 key q}.ncard = 2 ∧
    recorded? "\"os\"" (some "stdos") = some ("stdos", "os") ∧ Records "\"os\"" (some "stdos") "stdos" "os" ∧
      ∀ c, "os".toList.head? = some c ∨ "os".toList.getLast? = some c → isQuoteMark c = false := by
  intro calls
  obtain ⟨resolves, unchanged, size_eq, -, recorded, bare⟩ := ofList_history calls
  have hblank : ∀ key q, ¬Records "\"embed\"" (some "_") key q := fun key q h => (h.named "_" rfl).1 rfl
  have hrand : (ofList calls).resolve? "rand" = some "math/rand" := by decide +kernel
  have hsize : (ofList calls).size = 2 := by decide +kernel
  have hos : recorded? "\"os\"" (some "stdos") = some ("stdos", "os") := by decide +kernel
  exact ⟨(resolves "rand" "math/rand").1 hrand,
    ⟨hblank, unchanged "\"embed\"" (some "_") hblank (ofList calls)⟩,
    size_eq.symm.trans hsize, hos, (recorded "\"os\"" (some "stdos") "stdos" "os").1 hos,
    (bare "\"os\"" (some "stdos") "stdos" "os" hos).2⟩

end ImportTable
end Go
end RequiredArgs
