/-
# Forms of a receiver's type

A method belongs to the type that its receiver names. Parentheses aside, a receiver's type is to have
one of four forms for that:

| form | name |
| --- | --- |
| `T`, `*T` | `T` |
| `T[…]`, `*T[…]` | `T` |
| anything else | none |

`TypeExpr.receiverForm?` is this table. `TypeExpr.receiverName` follows pointers to any depth, so the two
agree except behind two or more stars: a method of `**T` belongs to `T` all the same
(`receiverOf_exact`, `parse_receiver_two_stars`).

A syntax tree could have type arguments behind any type. `TypeExpr.isWritten` rules out those that no
source has, and the second part shows that the reader builds no such tree, function by function from
types up to the items of a file.
-/

import RequiredArgs.Proofs.SourceRoundTrip

namespace RequiredArgs
namespace Go

namespace TypeExpr

/-- The type without parentheses at any level. -/
def unparen : TypeExpr → TypeExpr
  | pointer t => pointer t.unparen
  | slice t => slice t.unparen
  | array t => array t.unparen
  | paren t => t.unparen
  | negated t => negated t.unparen
  | generic base => generic base.unparen
  | t => t

/-- Type arguments stand behind names only, qualified or not. -/
def isWritten : TypeExpr → Bool
  | pointer t | slice t | array t | paren t | negated t => t.isWritten
  | generic (name _) | generic (qualified _ _) => true
  | generic _ => false
  | _ => true

/-- The type behind `k` stars. -/
def pointers : Nat → TypeExpr → TypeExpr
  | 0, t => t
  | k + 1, t => pointer (pointers k t)

/-- The name in a type of one of the forms `T`, `*T`, `T[…]` and `*T[…]`. -/
def receiverForm? : TypeExpr → Option String
  | name n | pointer (name n) | generic (name n) | pointer (generic (name n)) => some n
  | _ => none

/-- The type is the name behind `k` stars, with or without type arguments. The four forms are those
with at most one star (`receiverForm?_eq_some_iff`). -/
def IsStarred (k : Nat) (n : String) (t : TypeExpr) : Prop :=
  t = pointers k (name n) ∨ t = pointers k (generic (name n))

/-! ### Stars in front of a name -/

/-- Parentheses do not change the name. -/
theorem receiverName_unparen (t : TypeExpr) : t.unparen.receiverName = t.receiverName := by
  induction t with
  | pointer t ih | paren t ih | generic t ih => exact ih
  | name | qualified | slice | array | negated | map | channel | function | interface | struct => rfl

/-- Stars do not change the name, however many there are. -/
@[simp] theorem receiverName_pointers (k : Nat) (t : TypeExpr) :
    (pointers k t).receiverName = t.receiverName := by
  induction k with
  | zero => rfl
  | succ k ih => exact ih

/-- One more star. -/
theorem IsStarred.pointer {k : Nat} {n : String} {t : TypeExpr} (h : IsStarred k n t) :
    IsStarred (k + 1) n (pointer t) :=
  h.imp (congrArg TypeExpr.pointer) (congrArg TypeExpr.pointer)

/-- A name behind any number of stars is the name that is found. -/
theorem IsStarred.receiverName {k : Nat} {n : String} {t : TypeExpr} (h : IsStarred k n t) :
    t.receiverName = n := by
  rcases h with rfl | rfl <;> exact receiverName_pointers _ _

/-- A name is only found behind stars. -/
theorem exists_isStarred {t : TypeExpr} (written : t.isWritten) {n : String} (hn : n ≠ "")
    (h : t.receiverName = n) : ∃ k, IsStarred k n t.unparen := by
  induction t with
  | name m =>
    obtain rfl : m = n := h
    exact ⟨0, .inl rfl⟩
  | pointer t ih =>
    obtain ⟨k, hk⟩ := ih written h
    exact ⟨k + 1, hk.pointer⟩
  | paren t ih => exact ih written h
  | generic base =>
    cases base with
    | name m =>
      obtain rfl : m = n := h
      exact ⟨0, .inr rfl⟩
    | qualified => exact absurd h.symm hn
    -- no other type has arguments
    | _ => cases written
  | qualified | slice | array | negated | map | channel | function | interface | struct =>
    exact absurd h.symm hn

/-- A name is found exactly if it stands behind some number of stars, parentheses aside. -/
theorem receiverName_eq_iff {t : TypeExpr} (written : t.isWritten) {n : String} (hn : n ≠ "") :
    t.receiverName = n ↔ ∃ k, IsStarred k n t.unparen := by
  refine ⟨exists_isStarred written hn, fun ⟨k, hk⟩ => ?_⟩
  rw [← receiverName_unparen, hk.receiverName]

/-- The four forms are a name behind at most one star. -/
theorem receiverForm?_eq_some_iff {t : TypeExpr} {n : String} :
    t.receiverForm? = some n ↔ ∃ k ≤ 1, IsStarred k n t := by
  constructor
  · intro h
    unfold receiverForm? at h
    split at h
    · exact ⟨0, by omega, .inl (by cases h; rfl)⟩
    · exact ⟨1, by omega, .inl (by cases h; rfl)⟩
    · exact ⟨0, by omega, .inr (by cases h; rfl)⟩
    · exact ⟨1, by omega, .inr (by cases h; rfl)⟩
    · cases h
  · rintro ⟨k, hk, rfl | rfl⟩
    · obtain rfl | rfl := Nat.le_one_iff_eq_zero_or_eq_one.1 hk <;> rfl
    · obtain rfl | rfl := Nat.le_one_iff_eq_zero_or_eq_one.1 hk <;> rfl

/-- A name behind two or more stars has none of the four forms. -/
theorem IsStarred.receiverForm?_eq_none {k : Nat} {n : String} {t : TypeExpr} (h : IsStarred k n t)
    (hk : 2 ≤ k) : t.receiverForm? = none := by
  obtain ⟨k, rfl⟩ := Nat.exists_eq_add_of_le' hk
  rcases h with rfl | rfl <;> rfl

/-- For the four forms the name is the one in the table. -/
theorem receiverName_of_receiverForm? {t : TypeExpr} {n : String}
    (h : t.unparen.receiverForm? = some n) : t.receiverName = n := by
  obtain ⟨k, -, hk⟩ := receiverForm?_eq_some_iff.1 h
  rw [← receiverName_unparen, hk.receiverName]

/-- The name is another one than that of the form exactly for a name behind two or more stars. -/
theorem receiverName_ne_receiverForm?_iff {t : TypeExpr} (written : t.isWritten) :
    t.receiverName ≠ t.unparen.receiverForm?.getD "" ↔
      ∃ n k, n ≠ "" ∧ 2 ≤ k ∧ IsStarred k n t.unparen := by
  constructor
  · intro hne
    have hname : t.receiverName ≠ "" := by
      intro hempty
      cases hform : t.unparen.receiverForm? with
      | none => exact hne (by rw [hform, hempty]; rfl)
      | some n => exact hne (by rw [hform, receiverName_of_receiverForm? hform]; rfl)
    obtain ⟨k, hk⟩ := exists_isStarred written hname rfl
    refine ⟨_, k, hname, ?_, hk⟩
    by_contra hlt
    have hform := receiverForm?_eq_some_iff.2 ⟨k, by omega, hk⟩
    exact hne (by rw [hform]; rfl)
  · rintro ⟨n, k, hn, hk, hstarred⟩
    rw [hstarred.receiverForm?_eq_none hk, ← receiverName_unparen, hstarred.receiverName]
    exact hn

end TypeExpr

/-! ### Types as they are read -/

/-- Type arguments are read behind a type that may have them. -/
theorem genericSuffix_isWritten (c : Place) {base : TypeExpr} (ts : List Token)
    (h : base.isWritten) (hgeneric : (TypeExpr.generic base).isWritten) :
    (genericSuffix c base ts).1.isWritten := by
  unfold genericSuffix
  split
  · exact hgeneric
  · exact h

/-- What is read from a word on is a name, qualified or not, with or without type arguments. -/
theorem namedType_isWritten (c : Place) (w : String) (ts : List Token) :
    (namedType c w ts).1.isWritten := by
  unfold namedType
  dsimp only
  split
  · split
    · exact genericSuffix_isWritten c _ rfl rfl
    · exact genericSuffix_isWritten c _ rfl rfl
  · exact genericSuffix_isWritten c _ rfl rfl

/-- The types that keywords start have no arguments. -/
theorem keywordType?_isWritten {w : String} {t : TypeExpr} (h : keywordType? w = some t) :
    t.isWritten := by
  unfold keywordType? at h
  split at h <;> cases h <;> rfl

/-- What is read is written, whatever is left behind it. -/
theorem typeExpr?_isWritten {fuel : Nat} {c : Place} {ts : List Token} {p : TypeExpr × List Token}
    (h : typeExpr? fuel c ts = some p) : p.1.isWritten := by
  fun_induction typeExpr? fuel c ts generalizing p with
  | case1 | case7 | case11 => cases h
  | case2 _ _ _ _ _ _ ih | case3 _ _ _ _ _ _ ih | case5 _ _ _ _ _ _ _ _ ih
  | case6 _ _ _ _ _ _ _ _ _ _ ih =>
    obtain ⟨inner, hinner, rfl⟩ := Option.map_eq_some_iff.1 h
    exact (ih hinner :)
  | case4 _ _ _ _ _ _ ih =>
    obtain ⟨inner, hinner, hclose⟩ := Option.bind_eq_some_iff.1 h
    obtain ⟨r, -, rfl⟩ := Option.map_eq_some_iff.1 hclose
    exact (ih hinner :)
  | case8 =>
    obtain ⟨r, -, rfl⟩ := Option.map_eq_some_iff.1 h
    rfl
  | case9 _ _ _ _ _ _ _ _ hkeyword =>
    obtain ⟨r, -, rfl⟩ := Option.map_eq_some_iff.1 h
    exact keywordType?_isWritten hkeyword
  | case10 =>
    obtain rfl := Option.some.inj h
    exact namedType_isWritten _ _ _

/-- The type of a parameter is one that a source can have. -/
theorem innerType?_isWritten {ts : List Token} {p : TypeExpr × List Token}
    (h : innerType? ts = some p) : p.1.isWritten :=
  typeExpr?_isWritten h

namespace ParamEntry

/-- The type of an entry. -/
def type : ParamEntry → TypeExpr
  | bare t | named _ t | variadic _ t => t

variable {w : String} {ts : List Token} {p : ParamEntry × List Token}

/-- An entry made of a type that was read has a type that a source can have. -/
theorem isWritten_of_map {make : TypeExpr → ParamEntry} (hmake : ∀ t, (make t).type = t)
    (h : (innerType? ts).map (fun (t, r) => (make t, r)) = some p) : p.1.type.isWritten := by
  obtain ⟨inner, hinner, rfl⟩ := Option.map_eq_some_iff.1 h
  rw [hmake]
  exact innerType?_isWritten hinner

/-- An entry with a name and a type has a type that a source can have. -/
theorem ofNamed?_isWritten (h : ofNamed? w ts = some p) : p.1.type.isWritten := by
  unfold ofNamed? at h
  split at h
  · rename_i hinner
    split at h
    · obtain rfl := Option.some.inj h
      exact (innerType?_isWritten hinner :)
    · cases h
  · cases h

/-- So has an entry that starts with a name, whether or not a type follows. -/
theorem ofName?_isWritten (h : ofName? w ts = some p) : p.1.type.isWritten := by
  unfold ofName? at h
  split at h
  · exact isWritten_of_map (fun _ => rfl) h
  split at h
  · obtain rfl := Option.some.inj h
    rfl
  · obtain rfl := Option.some.inj h
    cases hnamed : ofNamed? w ts with
    | none => exact namedType_isWritten _ _ _
    | some q => exact ofNamed?_isWritten hnamed

/-- Every entry that is read has a type that a source can have. -/
theorem read?_isWritten {afterName : Bool} (h : read? afterName ts = some p) :
    p.1.type.isWritten := by
  unfold read? at h
  split at h
  · exact isWritten_of_map (fun _ => rfl) h
  · split at h
    · split at h
      · rename_i hnamed
        split at hnamed
        · obtain rfl := Option.some.inj h
          exact ofNamed?_isWritten hnamed
        · cases hnamed
      · exact isWritten_of_map (fun _ => rfl) h
    · exact ofName?_isWritten h
  · exact isWritten_of_map (fun _ => rfl) h

/-- Joining names with types keeps the types, and makes types of names. -/
theorem group_isWritten (pending : List String) {es : List ParamEntry}
    (h : ∀ e ∈ es, e.type.isWritten) : ∀ p ∈ group pending es, p.type.isWritten := by
  have hnames : ∀ names : List String,
      ∀ p ∈ names.map (fun n => ({ type := .name n } : Param)), p.type.isWritten := by
    intro names p hp
    obtain ⟨n, -, rfl⟩ := List.mem_map.1 hp
    rfl
  fun_induction group pending es with
  | case1 pending => exact hnames pending
  | case2 pending n es ih => exact ih fun e he => h e (List.mem_cons_of_mem _ he)
  | case3 pending t es _ ih | case4 pending n t es _ _ ih | case5 pending n t es ih =>
    obtain ⟨ht, hes⟩ := List.forall_mem_cons.1 h
    exact List.forall_mem_append.2 ⟨hnames _, List.forall_mem_cons.2 ⟨ht, ih hes⟩⟩

end ParamEntry

/-- An entry is put in front of those that are read with less fuel, so both parts of the reader go by
one induction. -/
theorem paramEntries?_isWritten {fuel : Nat} {afterName : Bool} {ts : List Token}
    {p : List ParamEntry × Bool × List Token} (h : paramEntries? fuel afterName ts = some p) :
    ∀ e ∈ p.1, e.type.isWritten := by
  induction fuel generalizing afterName ts p with
  | zero =>
    rw [paramEntries?] at h
    cases h
  | succ fuel ih =>
    have hfollow : ∀ {es sound rest}, paramEntries?.follow fuel es sound rest = some p →
        (∀ e ∈ es, e.type.isWritten) → ∀ e ∈ p.1, e.type.isWritten := by
      intro es sound rest hfollow hes
      unfold paramEntries?.follow at hfollow
      split at hfollow
      · obtain ⟨more, hmore, rfl⟩ := Option.map_eq_some_iff.1 hfollow
        exact List.forall_mem_append.2 ⟨hes, ih hmore⟩
      · obtain ⟨r, -, rfl⟩ := Option.map_eq_some_iff.1 hfollow
        exact hes
    rw [paramEntries?] at h
    split at h
    · obtain rfl := Option.some.inj h
      exact List.forall_mem_nil _
    split at h
    · rename_i hread
      have hwritten := ParamEntry.read?_isWritten hread
      split at h <;> exact hfollow h (List.forall_mem_singleton.2 hwritten)
    · exact hfollow h (List.forall_mem_nil _)

/-- The parameters of a list have types that a source can have. -/
theorem paramList?_isWritten {ts : List Token} {p : List Param × Bool × List Token}
    (h : paramList? ts = some p) : ∀ q ∈ p.1, q.type.isWritten := by
  unfold paramList? at h
  split at h
  · cases h
  split at h
  · obtain ⟨r, -, rfl⟩ := Option.map_eq_some_iff.1 h
    exact List.forall_mem_nil _
  · obtain ⟨entries, hentries, rfl⟩ := Option.map_eq_some_iff.1 h
    exact ParamEntry.group_isWritten [] (paramEntries?_isWritten hentries)

/-- The receiver and the parameters of a header have types that a source can have. -/
theorem funcHeader?_isWritten {ts : List Token}
    {p : String × List Param × List Param × Bool × List Token} (h : funcHeader? ts = some p) :
    ∀ q ∈ p.2.1 ++ p.2.2.1, q.type.isWritten := by
  unfold funcHeader? at h
  split at h
  · obtain ⟨rest, -, h⟩ := Option.bind_eq_some_iff.1 h
    obtain ⟨params, hparams, h⟩ := Option.bind_eq_some_iff.1 h
    obtain rfl := Option.some.inj h
    exact paramList?_isWritten hparams
  · obtain ⟨receiver, hreceiver, h⟩ := Option.bind_eq_some_iff.1 h
    dsimp only at h
    split at h
    · obtain ⟨params, hparams, h⟩ := Option.bind_eq_some_iff.1 h
      obtain rfl := Option.some.inj h
      have hwritten := paramList?_isWritten hparams
      exact List.forall_mem_append.2 ⟨paramList?_isWritten hreceiver, hwritten⟩
    · cases h

/-- The parameters of an item, those of its receiver in front. -/
def Item.params : Item → List Param
  | .imported _ _ => []
  | .declared _ receiver params _ => receiver ++ params

/-- An item that is no declaration has no parameters. -/
theorem Item.params_of_offset? {i : Item} (h : i.offset? = none) : i.params = [] := by
  cases i with
  | imported => rfl
  | declared => cases h

/-- What is read at one place declares only parameters with types that a source can have. -/
theorem readItem_isWritten (t : Token) (after : List Token) :
    ∀ i ∈ (readItem t after).items, ∀ p ∈ i.params, p.type.isWritten := by
  unfold readItem
  split
  · split <;> exact List.forall_mem_nil _
  · split
    · rename_i items rest hdecl
      intro i hi
      have hnone := List.filterMap_eq_nil_iff.1 (importDecl?_offsets hdecl) i hi
      rw [Item.params_of_offset? hnone]
      exact List.forall_mem_nil _
    · exact List.forall_mem_nil _
  · unfold funcDecl?
    cases hheader : funcHeader? after with
    | none =>
      rw [Option.map_none, Option.getD_none, statementItem_items]
      exact List.forall_mem_nil _
    | some header => exact List.forall_mem_singleton.2 (funcHeader?_isWritten hheader)
  · rw [statementItem_items]
    exact List.forall_mem_nil _

/-- All types of the parameters of a file are written. -/
theorem readItems_isWritten (fuel : Nat) (ts : List Token) :
    ∀ i ∈ (readItems fuel ts).1, ∀ p ∈ i.params, p.type.isWritten := by
  induction fuel generalizing ts with
  | zero => exact List.forall_mem_nil _
  | succ fuel ih =>
    rw [readItems]
    split
    · exact List.forall_mem_nil _
    · exact List.forall_mem_append.2 ⟨readItem_isWritten _ _, ih _⟩

/-- A method is read with its receiver's type as written, whatever that type is. -/
theorem Printed.readItem_method (r m : Ident) (t : Ty) {ts : List Token}
    (hts : ts.map (·.lexeme) = .punct "(" :: Entry.listLexemes [.named r t] ++ .punct ")" ::
      [.word m.text, .punct "(", .punct ")", .punct "\x7b", .punct "\x7d"])
    (offset : Nat) (more : List Token) :
    readItem ⟨.word "func", offset⟩ (ts ++ more) =
      { items := [.declared m.text [{ names := [r.text], type := t.expr }] [] offset]
        rest := more } := by
  obtain ⟨vs, hvs, -, hreceiver⟩ := paramList?_tokens [.named r t] hts more
  obtain ⟨o, xs, rfl, hxs⟩ := Token.exists_of_map_lexeme hvs
  obtain ⟨us, hus, -, hparams⟩ := paramList?_tokens [] hxs more
  obtain ⟨o', ys, rfl, hys⟩ := Token.exists_of_map_lexeme hts
  have hbody := afterHeader_empty more hus
  rw [List.cons_append] at hreceiver ⊢
  simp [readItem, funcDecl?, funcHeader?, hreceiver, hparams, hbody, Entry.read, ParamEntry.group]

/-! ### Names of receivers -/

open TypeExpr (IsStarred)

/-- The type of a receiver list: that of its first parameter, variadic ones aside. -/
def receiverType? (receiver : List Param) : Option TypeExpr :=
  (receiver.find? (!·.isVariadic)).map (·.type)

/-- The name in a receiver list whose type has one of the four forms. -/
def formName? (receiver : List Param) : Option String :=
  (receiverType? receiver).bind (·.unparen.receiverForm?)

/-- The name of a receiver is that of its type, and empty without a receiver. -/
theorem receiverOf_eq (receiver : List Param) :
    receiverOf receiver = ((receiverType? receiver).map TypeExpr.receiverName).getD "" := by
  unfold receiverOf receiverType?
  cases receiver.find? (!·.isVariadic) <;> rfl

/-- The type of a receiver is the type of one of its parameters. -/
theorem receiverType?_isWritten {receiver : List Param} {t : TypeExpr}
    (written : ∀ p ∈ receiver, p.type.isWritten) (h : receiverType? receiver = some t) :
    t.isWritten := by
  obtain ⟨p, hp, rfl⟩ := Option.map_eq_some_iff.1 h
  exact written p (List.mem_of_find?_eq_some hp)

/-- **Which name a receiver gives.**  The types of a receiver list are written if a declaration of some
file is read with it, and then:

* a type of one of the four forms gives the name in it;
* a name is given exactly by the types that are that name behind any number of stars, with or without
  type arguments, so all other types give none;
* the name given differs from that of the four forms exactly for a name behind two or more stars. -/
theorem receiverOf_exact (receiver : List Param) :
    (∀ fuel ts name params offset,
      Item.declared name receiver params offset ∈ (readItems fuel ts).1 →
        ∀ p ∈ receiver, p.type.isWritten) ∧
    ((∀ p ∈ receiver, p.type.isWritten) →
      (∀ n, formName? receiver = some n → receiverOf receiver = n) ∧
      (∀ n, n ≠ "" → (receiverOf receiver = n ↔
        ∃ t, receiverType? receiver = some t ∧ ∃ k, IsStarred k n t.unparen)) ∧
      (receiverOf receiver ≠ (formName? receiver).getD "" ↔
        ∃ t, receiverType? receiver = some t ∧
          ∃ n k, n ≠ "" ∧ 2 ≤ k ∧ IsStarred k n t.unparen)) := by
  constructor
  · intro fuel ts name params offset hread p hp
    exact readItems_isWritten fuel ts _ hread p (List.mem_append_left params hp)
  intro written
  rw [receiverOf_eq, formName?]
  cases htype : receiverType? receiver with
  | none => simp
  | some t =>
    have ht := receiverType?_isWritten written htype
    simp only [Option.map_some, Option.getD_some, Option.bind_some, Option.some.injEq,
      exists_eq_left']
    exact ⟨fun n => TypeExpr.receiverName_of_receiverForm?,
      fun n hn => TypeExpr.receiverName_eq_iff ht hn,
      TypeExpr.receiverName_ne_receiverForm?_iff ht⟩

/-- The receiver `(t *(T[K]))` belongs to `T`, and `(t []T)` to no type. -/
theorem receiverOf_exact_pointer :
    let pointer : List Param :=
      [{ names := ["t"], type := .pointer (.paren (.generic (.name "T"))) }]
    let slice : List Param := [{ names := ["t"], type := .slice (.name "T") }]
    (∀ p ∈ pointer ++ slice, p.type.isWritten) ∧
      receiverOf pointer = "T" ∧ receiverOf slice = "" := by
  intro pointer slice
  have hwritten : ∀ p ∈ pointer ++ slice, p.type.isWritten := by decide
  obtain ⟨hpointer, hslice⟩ := List.forall_mem_append.1 hwritten
  refine ⟨hwritten, ((receiverOf_exact pointer).2 hpointer).1 "T" rfl, ?_⟩
  by_contra hname
  obtain ⟨t, ht, k, hk⟩ := (((receiverOf_exact slice).2 hslice).2.1 _ hname).1 rfl
  obtain rfl := Option.some.inj ht
  cases k <;> rcases hk with h | h <;> cases h

/-- The method `M` of `func (t **T) M() {}` gets `T` for its receiver, and the source has no errors;
two stars in front of a name are none of the four forms. -/
theorem parse_receiver_two_stars :
    let source := "package p\n\nfunc (t **T) M() \x7b\x7d\n"
    let receiver : List Param := [{ names := ["t"], type := .pointer (.pointer (.name "T")) }]
    let tokens := Token.significant (Token.ofText source.toList)
    readItems (tokens.length + 1) tokens = ([.declared "M" receiver [] 11], true) ∧
    (SourceFile.parse "a.go" source).functions.map (·.receiver) = ["T"] ∧
    formName? receiver = none := by
  intro source receiver tokens
  let header : List Token := [⟨.punct "(", 16⟩, ⟨.word "t", 17⟩, ⟨.punct "*", 19⟩,
    ⟨.punct "*", 20⟩, ⟨.word "T", 21⟩, ⟨.punct ")", 22⟩, ⟨.word "M", 24⟩, ⟨.punct "(", 25⟩,
    ⟨.punct ")", 26⟩, ⟨.punct "\x7b", 28⟩, ⟨.punct "\x7d", 29⟩]
  have htokens : tokens = ⟨.word "package", 0⟩ :: ([⟨.word "p", 8⟩] ++ ⟨.newline, 9⟩ ::
      ⟨.newline, 10⟩ :: ⟨.word "func", 11⟩ :: (header ++ [⟨.newline, 30⟩])) := by
    decide +kernel
  have hitem := Printed.readItem_method ⟨'t', [], rfl, rfl, by decide⟩ ⟨'M', [], rfl, rfl, by decide⟩
    (.pointer (.pointer (.name ⟨'T', [], rfl, rfl, by decide⟩)))
    (show header.map (·.lexeme) = _ from rfl) 11 [⟨.newline, 30⟩]
  have hitems : readItems (tokens.length + 1) tokens = ([.declared "M" receiver [] 11], true) := by
    rw [htokens, readItems_cons _ (by decide) rfl, List.length_cons, List.length_append,
      List.length_cons, readItems_newline, readItems_cons _ (by decide) hitem]
    rfl
  refine ⟨hitems, ?_, rfl⟩
  show (functionsOf _ (readItems (tokens.length + 1) tokens).1).map _ = _
  rw [hitems]
  rfl

end Go
end RequiredArgs
