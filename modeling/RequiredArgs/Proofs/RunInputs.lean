/-
# What a run reads

A run reads a configuration and, for `check`, the sources under its roots. `Place.Configured` says
which configuration it is: the one in the file at the explicit path, or in the first file with a
default name in the current directory, if the text of that file writes a valid configuration.
`Place.ConfigFault` lists the ways in which there can be none, and there is no other
(`Place.config_eq_ok_iff`, `Place.config_eq_error_iff`). `Place.Reads` says which sources are read:
every file that a walk finds, in that order, under its name without a leading `./`
(`Place.sources_eq_ok_iff`).
-/

import Mathlib.Data.List.Forall2
import RequiredArgs.Cli.Run

namespace RequiredArgs

/-- The text writes the configuration, which is valid; a text of white space writes the empty one. -/
def Config.Written (text : String) (c : Config) : Prop :=
  (Text.allBlank text = true ∧ c = {}) ∨
    (Text.allBlank text = false ∧ Config.decode text = .ok c ∧ c.invalid? = none)

/-- A text is read as the configuration that it writes. -/
theorem Config.ofYaml_eq_ok_iff {text : String} {c : Config} :
    Config.ofYaml text = .ok c ↔ Config.Written text c := by
  unfold Config.ofYaml Config.Written
  cases hblank : Text.allBlank text with
  | true => simp [eq_comm]
  | false =>
    cases hdecode : Config.decode text with
    | error e => simp
    | ok c' =>
      cases hvalid : c'.invalid? with
      | none =>
        simp only [Config.validate, hvalid, Bool.false_eq_true, if_false, Except.ok.injEq,
          false_and, true_and, false_or]
        constructor
        · rintro rfl
          exact ⟨rfl, hvalid⟩
        · exact And.left
      | some e =>
        simp only [Config.validate, hvalid, Bool.false_eq_true, if_false, reduceCtorEq, false_and,
          true_and, false_or, Except.ok.injEq, false_iff]
        rintro ⟨rfl, hnone⟩
        rw [hvalid] at hnone
        cases hnone

namespace Cli
namespace Place

open Files (joinPath)

/-- The file that holds the configuration: the one at the explicit path, whatever it holds, or the
first with a default name that is a file in the current directory. -/
inductive ConfigAt (p : Place) : Option String → String → Prop
  | given (path : String) : ConfigAt p (some path) path
  | discovered {before after : List String} {name : String}
      (order : Config.defaultNames = before ++ name :: after)
      (isFile : p.tree.isFileAt p.base (joinPath p.cwd name) = true)
      (first : ∀ n ∈ before, p.tree.isFileAt p.base (joinPath p.cwd n) = false) :
      ConfigAt p none (joinPath p.cwd name)

/-- The configuration of a run with the given explicit path. -/
def Configured (p : Place) (explicit : Option String) (c : Config) : Prop :=
  ∃ path text, p.ConfigAt explicit path ∧ p.tree.readText p.base path = .ok text ∧
    Config.Written text c

/-- How a run can be without a configuration. -/
inductive ConfigFault (p : Place) (explicit : Option String) : Prop
  | unresolved (notGiven : explicit = none) (missing : ∀ name ∈ Config.defaultNames,
      p.tree.isFileAt p.base (joinPath p.cwd name) = false)
  | unreadable {path : String} {e : Files.AccessError} (place : p.ConfigAt explicit path)
      (fault : p.tree.readText p.base path = .error e)
  | malformed {path text : String} {e : Config.ParseError} (place : p.ConfigAt explicit path)
      (read : p.tree.readText p.base path = .ok text) (filled : Text.allBlank text = false)
      (fault : Config.decode text = .error e)
  | invalid {path text : String} {c : Config} {e : Config.Invalid}
      (place : p.ConfigAt explicit path) (read : p.tree.readText p.base path = .ok text)
      (filled : Text.allBlank text = false) (decoded : Config.decode text = .ok c)
      (fault : c.invalid? = some e)

/-- The path at which a configuration is looked for. -/
def configPath? (p : Place) : Option String → Except Config.LoadError String
  | some path => .ok path
  | none => Config.discover p.tree p.base p.cwd

/-- A configuration is looked for in the file that holds it. -/
theorem configPath?_eq_ok_iff {p : Place} {explicit : Option String} {path : String} :
    p.configPath? explicit = .ok path ↔ p.ConfigAt explicit path := by
  cases explicit with
  | some given =>
    constructor
    · intro h
      obtain rfl := Except.ok.inj h
      exact .given given
    · rintro ⟨⟩
      rfl
  | none =>
    simp only [configPath?, Config.discover, List.find?_map]
    cases hfind : Config.defaultNames.find? (p.tree.isFileAt p.base ∘ joinPath p.cwd) with
    | none =>
      simp only [Option.map_none, reduceCtorEq, false_iff]
      rintro ⟨⟩
      rename_i before after name order isFile first
      refine List.find?_eq_none.1 hfind name ?_ isFile
      rw [order]
      exact List.mem_append_right before List.mem_cons_self
    | some name =>
      obtain ⟨isFile, before, after, order, first⟩ := List.find?_eq_some_iff_append.1 hfind
      simp only [Option.map_some, Except.ok.injEq]
      constructor
      · rintro rfl
        exact .discovered order isFile fun n hn => by simpa using first n hn
      · rintro ⟨⟩
        rename_i before' after' name' order' isFile' first'
        -- the first of the default names that is a file is the only first one
        have hfind' : Config.defaultNames.find? (p.tree.isFileAt p.base ∘ joinPath p.cwd) =
            some name' :=
          List.find?_eq_some_iff_append.2
            ⟨isFile', before', after', order', fun n hn => by simpa using first' n hn⟩
        rw [Option.some.inj (hfind.symm.trans hfind')]

/-- There is no file to look in exactly if no path is given and no file has a default name. -/
theorem configPath?_eq_error_iff {p : Place} {explicit : Option String} :
    (∃ e, p.configPath? explicit = .error e) ↔ explicit = none ∧
      ∀ name ∈ Config.defaultNames, p.tree.isFileAt p.base (joinPath p.cwd name) = false := by
  cases explicit with
  | some given => simp [configPath?]
  | none =>
    simp only [configPath?, Config.discover, List.find?_map]
    cases hfind : Config.defaultNames.find? (p.tree.isFileAt p.base ∘ joinPath p.cwd) with
    | some name =>
      simp only [Option.map_some, reduceCtorEq, exists_false, true_and, false_iff]
      intro missing
      have isFile := List.find?_some hfind
      rw [Function.comp_apply, missing name (List.mem_of_find?_eq_some hfind)] at isFile
      cases isFile
    | none =>
      refine ⟨fun _ => ⟨trivial, fun name hn => ?_⟩, fun _ => ⟨_, rfl⟩⟩
      simpa using List.find?_eq_none.1 hfind name hn

/-- The configuration of a command is the one that is looked for. -/
theorem config_eq (p : Place) (command : String) (explicit : Option String) :
    p.config command explicit = match p.configPath? explicit with
      | .error e => .error s!"{programName} {command}: {e.message}\n"
      | .ok path =>
        match Config.load p.tree p.base path with
        | .error e => .error s!"{programName} {command}: {path}: {e.message}\n"
        | .ok c => .ok c := by
  cases explicit <;> rfl

/-- **A run has exactly the configuration that is written where it looks.** -/
theorem config_eq_ok_iff {p : Place} {command : String} {explicit : Option String} {c : Config} :
    p.config command explicit = .ok c ↔ p.Configured explicit c := by
  rw [config_eq]
  constructor
  · intro h
    split at h
    · cases h
    · rename_i path hpath
      split at h
      · cases h
      · rename_i c' hload
        obtain rfl := Except.ok.inj h
        unfold Config.load at hload
        split at hload
        · cases hload
        · rename_i text hread
          exact ⟨path, text, configPath?_eq_ok_iff.1 hpath, hread,
            Config.ofYaml_eq_ok_iff.1 hload⟩
  · rintro ⟨path, text, hpath, hread, hwritten⟩
    simp only [configPath?_eq_ok_iff.2 hpath, Config.load, hread,
      Config.ofYaml_eq_ok_iff.2 hwritten]

/-- A run has no configuration in exactly the ways that are listed. -/
theorem config_eq_error_iff {p : Place} {command : String} {explicit : Option String} :
    (∃ e, p.config command explicit = .error e) ↔ p.ConfigFault explicit := by
  constructor
  · rintro ⟨e, h⟩
    rw [config_eq] at h
    split at h
    · obtain ⟨notGiven, missing⟩ := configPath?_eq_error_iff.1 ⟨_, ‹_›⟩
      exact .unresolved notGiven missing
    · rename_i path hpath
      have place := configPath?_eq_ok_iff.1 hpath
      split at h
      · rename_i hload
        unfold Config.load at hload
        split at hload
        · exact .unreadable place ‹_›
        · rename_i text hread
          unfold Config.ofYaml at hload
          split at hload
          · cases hload
          · rename_i hfilled
            rw [Bool.not_eq_true] at hfilled
            split at hload
            · exact .malformed place hread hfilled ‹_›
            · rename_i c hdecode
              cases hvalid : c.invalid? with
              | none => simp [Config.validate, hvalid] at hload
              | some fault => exact .invalid place hread hfilled hdecode hvalid
      · cases h
  · intro hfault
    rw [config_eq]
    cases hfault with
    | unresolved notGiven missing =>
      obtain ⟨e, hpath⟩ := configPath?_eq_error_iff.2 ⟨notGiven, missing⟩
      simp only [hpath]
      exact ⟨_, rfl⟩
    | unreadable place fault =>
      simp only [configPath?_eq_ok_iff.2 place, Config.load, fault]
      exact ⟨_, rfl⟩
    | malformed place read filled fault =>
      simp only [configPath?_eq_ok_iff.2 place, Config.load, read, Config.ofYaml, filled,
        Bool.false_eq_true, if_false, fault]
      exact ⟨_, rfl⟩
    | invalid place read filled decoded fault =>
      simp only [configPath?_eq_ok_iff.2 place, Config.load, read, Config.ofYaml, filled,
        Bool.false_eq_true, if_false, decoded, Config.validate, fault]
      exact ⟨_, rfl⟩

/-- The sources that a run reads: all roots exist, and every file that a walk finds is read, under its
name without a leading `./`. -/
def Reads (p : Place) (roots : List String) (sources : List (String × String)) : Prop :=
  (∀ root ∈ roots, p.tree.pathExists p.base root = true) ∧
    List.Forall₂ (fun file source => source.1 = Files.withoutCurrent file ∧
      p.tree.readText p.base file = .ok source.2) (p.tree.walk p.base roots) sources

/-- A list is read if each of its members is. -/
theorem mapM_eq_ok_iff {α β ε : Type} {f : α → Except ε β} {l : List α} {l' : List β} :
    l.mapM f = .ok l' ↔ List.Forall₂ (fun a b => f a = .ok b) l l' := by
  induction l generalizing l' with
  | nil =>
    rw [List.forall₂_nil_left_iff]
    show Except.ok [] = Except.ok l' ↔ _
    rw [Except.ok.injEq, eq_comm]
  | cons a l ih =>
    rw [List.mapM_cons, List.forall₂_cons_left_iff]
    cases hb : f a with
    | error e => simp [bind, Except.bind]
    | ok b =>
      cases hl : l.mapM f with
      | error e => simp [bind, Except.bind, ← ih, hl]
      | ok bs => simp [bind, Except.bind, pure, Except.pure, ← ih, hl, eq_comm]

/-- Reading a list fails exactly if reading one of its members does. -/
theorem mapM_eq_error_iff {α β ε : Type} {f : α → Except ε β} {l : List α} :
    (∃ e, l.mapM f = .error e) ↔ ∃ a ∈ l, ∃ e, f a = .error e := by
  induction l with
  | nil =>
    simp only [List.not_mem_nil, false_and, exists_false, iff_false, not_exists]
    intro e h
    cases h
  | cons a l ih =>
    rw [List.mapM_cons, List.exists_mem_cons_iff, ← ih]
    cases hb : f a with
    | error e => simp [bind, Except.bind]
    | ok b =>
      cases hl : l.mapM f with
      | error e => simp [bind, Except.bind]
      | ok bs => simp [bind, Except.bind, pure, Except.pure]

/-- A run reads exactly the sources that a walk finds. -/
theorem sources_eq_ok_iff {p : Place} {roots : List String} {sources : List (String × String)} :
    p.sources roots = .ok sources ↔ p.Reads roots sources := by
  unfold Place.sources Reads
  split
  · rename_i missing hfind
    simp only [reduceCtorEq, false_iff, not_and]
    intro hexist
    have hmissing := List.find?_some hfind
    rw [hexist missing (List.mem_of_find?_eq_some hfind)] at hmissing
    cases hmissing
  · rename_i hfind
    have hexist : ∀ root ∈ roots, p.tree.pathExists p.base root = true := fun root hroot => by
      simpa using List.find?_eq_none.1 hfind root hroot
    rw [mapM_eq_ok_iff, and_iff_right hexist]
    constructor
    · refine fun h => h.imp fun file source hread => ?_
      split at hread
      · obtain rfl := Except.ok.inj hread
        exact ⟨rfl, ‹_›⟩
      · cases hread
    · refine fun h => h.imp fun file source hread => ?_
      obtain ⟨hname, htext⟩ := hread
      rw [htext, ← hname]

/-- Reading the sources fails exactly if a root is missing or a source cannot be read. -/
theorem sources_eq_error_iff {p : Place} {roots : List String} :
    (∃ e, p.sources roots = .error e) ↔
      (∃ root ∈ roots, p.tree.pathExists p.base root = false) ∨
        ∃ file ∈ p.tree.walk p.base roots, ∃ e, p.tree.readText p.base file = .error e := by
  unfold Place.sources
  split
  · rename_i missing hfind
    have hmissing : p.tree.pathExists p.base missing = false := by
      simpa using List.find?_some hfind
    exact iff_of_true ⟨_, rfl⟩ (.inl ⟨missing, List.mem_of_find?_eq_some hfind, hmissing⟩)
  · rename_i hfind
    have hexist : ¬∃ root ∈ roots, p.tree.pathExists p.base root = false := by
      rintro ⟨root, hroot, hmissing⟩
      refine List.find?_eq_none.1 hfind root hroot ?_
      rw [hmissing]
      rfl
    rw [mapM_eq_error_iff, or_iff_right hexist]
    refine exists_congr fun file => and_congr_right fun _ => ?_
    cases p.tree.readText p.base file <;> simp

end Place
end Cli
end RequiredArgs
