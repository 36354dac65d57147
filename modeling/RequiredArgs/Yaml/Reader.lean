/-
# Nodes and documents

A flow node is enclosed by its signs. A block node is laid out by columns: the parts of a collection
start in one column, and what belongs to a part starts right of that column. An implicit key and the
colon behind it stand on one line, at most `maxKeyLength` characters apart.
-/

import RequiredArgs.Yaml.Scalar

namespace RequiredArgs
namespace Yaml

/-- How far the colon may stand from the start of an implicit key. -/
def maxKeyLength : Nat := 1024

namespace Reads

/-! ## Anchors, aliases and tags -/

/-- The characters of anchor names and tag handles. -/
def isNameChar (c : Char) : Bool := c.isAlphanum || c == '_' || c == '-'

/-- Reads a name behind `&` or `*`. -/
def name : Reads String := do
  bump
  let cs ← takeWhile isNameChar
  let ends := match (← get).rest with
    | [] => true
    | c :: _ => isBlank c || isBreak c || "?:,]\x7d%@\x60".toList.contains c
  if cs.isEmpty || !ends then fail "did not find expected alphabetic or numeric character"
  return .ofList cs

/-- Gives an anchor its number: the number of the names seen before it. -/
def newAnchor (text : String) : Reads Nat := do
  let c ← get
  let n := c.anchors.length
  set { c with anchors := (text, n) :: c.anchors.filter (·.1 != text) }
  return n

/-- Reads an alias. -/
def reference : Reads Node := do
  let start ← mark
  let text ← name
  match (← get).anchors.lookup text with
  | some n => return .reference start n
  | none => throw { problem := "unknown anchor", mark := start }

/-- The characters of tags. -/
def isTagChar (c : Char) : Bool := isNameChar c || ";/?:@&=+$.%!~*'()".toList.contains c

/-- The characters of tags between angle brackets. -/
def isVerbatimTagChar (c : Char) : Bool := isTagChar c || c == ',' || c == '[' || c == ']'

/-- A percent sign stands for the byte whose code follows in two hexadecimal digits. -/
def tagBytes : List Char → Option (List UInt8)
  | [] => some []
  | '%' :: a :: b :: cs =>
    if isHexDigit a && isHexDigit b then
      (tagBytes cs).map ((hexValue [a, b]).toUInt8 :: ·)
    else none
  | c :: cs => if c == '%' then none else (tagBytes cs).map (c.toNat.toUInt8 :: ·)

/-- The text of a tag with its percent signs resolved. -/
def tagText (cs : List Char) : Reads String := do
  match (tagBytes cs).bind fun bs => String.fromUTF8? ⟨bs.toArray⟩ with
  | some text => return text
  | none => fail "did not find URI escaped octet"

/-- Reads a tag: `!<uri>`, or a handle (`!`, `!!`, `!name!`) and a suffix. -/
def tag (inFlow : Bool) : Reads String := do
  let c ← get
  let result ← match c.rest with
    | '!' :: '<' :: cs =>
      let uri := cs.takeWhile isVerbatimTagChar
      set (c.skip (2 + uri.length))
      if uri.isEmpty then fail "did not find expected tag URI"
      if (← next?) != some '>' then fail "did not find the expected '>'"
      bump
      tagText uri
    | _ =>
      let handle := (c.rest.drop 1).takeWhile isNameChar
      let isHandle := (c.rest.drop (1 + handle.length)).head? == some '!'
      let key := if isHandle then '!' :: handle ++ ['!'] else ['!']
      set (c.skip key.length)
      let suffix ← takeWhile isTagChar
      if isHandle && suffix.isEmpty then fail "did not find expected tag URI"
      match c.handles.lookup (.ofList key) with
      | some start => pure (start ++ (← tagText suffix))
      | none => fail "found undefined tag handle"
  let ends := match (← get).rest with
    | [] => true
    | x :: _ => isBlank x || isBreak x || (inFlow && x == ',')
  if !ends then fail "did not find expected whitespace or line break"
  return result

/-- Reads the properties in front of a node, as far as they stand on one line. -/
def props (inFlow : Bool) : Nat → Props → Reads Props
  | 0, p => return p
  | fuel + 1, p => do
    match ← next? with
    | some '&' =>
      if p.anchor.isSome then fail "did not find expected node content"
      let n ← newAnchor (← name)
      let _ ← takeWhile isBlank
      props inFlow fuel { p with anchor := some n }
    | some '!' =>
      if p.tag.isSome then fail "did not find expected node content"
      let text ← tag inFlow
      let _ ← takeWhile isBlank
      props inFlow fuel { p with tag := some text }
    | _ => return p

/-- A node has an anchor or a tag. -/
def hasProps (p : Props) : Bool := p.anchor.isSome || p.tag.isSome

/-- A colon follows that makes what was read since `start` an implicit key. In block context a blank
must stand behind the colon. -/
def atColon (inFlow : Bool) (start : Mark) : Reads Bool := do
  let c ← get
  let blanks := c.rest.takeWhile isBlank
  let near := c.mark.line == start.line && c.mark.index + blanks.length ≤ start.index + maxKeyLength
  match c.rest.drop blanks.length with
  | ':' :: cs => return near && (inFlow || isBlankz cs)
  | _ => return false

/-- Passes the colon behind an implicit key. -/
def passColon : Reads Unit := do
  let _ ← takeWhile isBlank
  bump

/-! ## Flow nodes -/

/-- The next character is one of the signs. -/
def atSign (signs : List Char) : Reads Bool := return (← next?).any signs.contains

/-- The signs in front of which an entry of a flow collection may lack a node. -/
def flowEnds : List Char := [',', ']', '\x7d']

/-- Passes the comma in front of a part of a flow collection that is not the first, and then the closing
sign if it comes; the result says whether it came. -/
def flowClosed (sign : Char) (isFirst : Bool) : Reads Bool := do
  skipFlow
  if !isFirst && !(← atSign [sign]) then
    if !(← atSign [',']) then fail s!"did not find expected ',' or '{sign}'"
    bump
    skipFlow
  if ← atSign [sign] then
    bump
    return true
  else return false

mutual

/-- Reads a node in flow context. `least` is the least column of the block node around it; a tab may
not stand left of it where a plain scalar goes on in a new line. -/
def flowNode (least : Nat) : Nat → Reads Node
  | 0 => orCut .cut (fail "did not find expected node content")
  | fuel + 1 => orCut .cut do
    let start ← mark
    let p ← props true (← Reads.fuel) {}
    if hasProps p then skipFlow
    let c ← get
    match c.rest with
    | '*' :: _ => if hasProps p then fail "did not find expected node content" else reference
    | '[' :: _ =>
      bump
      return .seq start p (← flowItems least fuel true)
    | '\x7b' :: _ =>
      bump
      return .map start p (← flowEntries least fuel true)
    | '"' :: _ =>
      bump
      return .scalar start p .doubleQuoted (.ofList (← doubleQuoted (← Reads.fuel)))
    | '\'' :: _ =>
      bump
      return .scalar start p .singleQuoted (.ofList (← singleQuoted (← Reads.fuel)))
    | cs =>
      if c.atAnyMarker then fail "did not find expected node content"
      else if startsPlain true cs then return .scalar start p .plain (← plain true least)
      else if hasProps p && (← atSign (':' :: flowEnds)) then return .empty start p
      else fail "did not find expected node content"

/-- Reads the items of a flow sequence up to its closing bracket. An item may be a single entry of a
mapping. -/
def flowItems (least : Nat) : Nat → Bool → Reads (List Node)
  | 0, _ => orCut (fun f => [.cut f]) (fail "did not find expected ',' or ']'")
  | fuel + 1, isFirst => orCut (fun f => [.cut f]) do
    if ← flowClosed ']' isFirst then return []
    let start ← mark
    let isPair ← atSign ['?']
    let item ← if isPair then pure (.map start {} [← flowExplicit least fuel])
      else flowNode least fuel
    if ← isCut then return [item]
    let hasValue ← atColon true start
    let item ← if !isPair && hasValue then
        passColon
        pure (.map start {} [(item, ← flowValue least fuel)])
      else pure item
    if ← isCut then return [item]
    return item :: (← flowItems least fuel false)

/-- Reads the entries of a flow mapping up to its closing brace. -/
def flowEntries (least : Nat) : Nat → Bool → Reads (List (Node × Node))
  | 0, _ => orCut (fun f => [(.cut f, .cut f)]) (fail "did not find expected ',' or '\x7d'")
  | fuel + 1, isFirst => orCut (fun f => [(.cut f, .cut f)]) do
    if ← flowClosed '\x7d' isFirst then return []
    let entry ← if ← atSign ['?'] then flowExplicit least fuel else flowEntry least fuel
    if ← isCut then return [entry]
    return entry :: (← flowEntries least fuel false)

/-- Reads an entry with an implicit key; without a colon its value is absent. -/
def flowEntry (least : Nat) : Nat → Reads (Node × Node)
  | 0 => orCut (fun f => (.cut f, .cut f)) (fail "did not find expected node content")
  | fuel + 1 => do
    let start ← mark
    let key ← flowNode least fuel
    if ← isCut then return (key, key)
    else if ← atColon true start then
      passColon
      return (key, ← flowValue least fuel)
    else return (key, .empty (← mark))

/-- Reads an entry that starts with a question mark. -/
def flowExplicit (least : Nat) : Nat → Reads (Node × Node)
  | 0 => orCut (fun f => (.cut f, .cut f)) (fail "did not find expected node content")
  | fuel + 1 => do
    bump
    let empty := Node.empty (← mark)
    skipFlow
    let key ← if ← atSign (':' :: flowEnds) then pure empty else flowNode least fuel
    if ← isCut then return (key, key)
    skipFlow
    if ← atSign [':'] then
      bump
      return (key, ← flowValue least fuel)
    else return (key, .empty (← mark))

/-- Reads what stands behind the colon of an entry. -/
def flowValue (least : Nat) : Nat → Reads Node
  | 0 => orCut .cut (fail "did not find expected node content")
  | fuel + 1 => do
    let empty := Node.empty (← mark)
    skipFlow
    if ← atSign flowEnds then return empty else flowNode least fuel

end

/-! ## Block nodes -/

/-- Reads the part of a node that is neither properties nor a block collection, if there is one. -/
def inlineContent (start : Mark) (p : Props) (least : Nat) : Reads Node := do
  let c ← get
  match c.rest with
  | '*' :: _ => if hasProps p then fail "did not find expected node content" else reference
  | '|' :: _ =>
    bump
    return .scalar start p .literal (← blockScalar true least)
  | '>' :: _ =>
    bump
    return .scalar start p .folded (← blockScalar false least)
  | '[' :: _ | '\x7b' :: _ | '"' :: _ | '\'' :: _ =>
    return (← flowNode least (4 * c.rest.length + 4)).withProps start p
  | cs =>
    if c.atIndicator '-' then fail "block sequence entries are not allowed in this context"
    else if c.atIndicator '?' then fail "mapping keys are not allowed in this context"
    else if c.atIndicator ':' then fail "mapping values are not allowed in this context"
    else if startsPlain false cs then return .scalar start p .plain (← plain false least)
    else fail "found character that cannot start any token"

/-- Nothing of a node is here: the text or the document ends, or the column is left of the least one. A
block scalar may stand one column further left, and so may a sequence as a value. -/
def isAbsent (least : Nat) (asValue : Bool) (c : Cursor) : Bool :=
  c.rest.isEmpty || c.atAnyMarker ||
    (c.mark.column < least && !(c.mark.column + 1 == least &&
      (c.rest.head? == some '|' || c.rest.head? == some '>' || (asValue && c.atIndicator '-'))))

/-- The last properties win where a node has none of a kind, and no kind may come twice. -/
def mergeProps (p q : Props) : Reads Props := do
  if (p.anchor.isSome && q.anchor.isSome) || (p.tag.isSome && q.tag.isSome) then
    fail "did not find expected node content"
  return { tag := p.tag.or q.tag, anchor := p.anchor.or q.anchor }

mutual

/-- Reads a node in block context whose parts stand in column `least` or right of it. `keyAllowed` says
that an implicit key may start here, and `asValue` that the node is the key or value of a mapping.
`before` are properties read on the lines above, with the place where they start. -/
def blockNode : Nat → Nat → Bool → Bool → Option (Mark × Props) → Reads Node
  | 0, _, _, _, _ => orCut .cut (fail "did not find expected node content")
  | fuel + 1, least, keyAllowed, asValue, before => orCut .cut do
    let here ← mark
    let keyAllowed ← skipBlock keyAllowed
    let c ← get
    let (start, p) := before.getD (c.mark, {})
    if isAbsent least asValue c then
      return match before with
        | some (m, p) => .empty m p
        | none => .empty here
    else if c.atIndicator '-' then
      if !keyAllowed then fail "block sequence entries are not allowed in this context"
      return .seq start p (← blockItems fuel c.mark.column (c.mark.column < least) true)
    else if c.atIndicator '?' then
      if !keyAllowed then fail "mapping keys are not allowed in this context"
      return .map start p (← blockEntries fuel c.mark.column true)
    else if c.atIndicator ':' then
      if !keyAllowed then fail "mapping values are not allowed in this context"
      return .map start p (← blockEntries fuel c.mark.column true)
    else
      let q ← props false (← Reads.fuel) {}
      let c' ← get
      let hasColon ← atColon false c.mark
      if hasProps q && hasColon && keyAllowed then
        return .map start p (← blockEntriesFrom fuel c.mark.column (.empty c.mark q))
      else if hasProps q && (isBlankz c'.rest || c'.rest.head? == some '#') then
        blockNode fuel least false asValue (some (start, ← mergeProps p q))
      else
        let node ← inlineContent c.mark q least
        let hasColon ← atColon false c.mark
        if keyAllowed && hasColon then
          return .map start p (← blockEntriesFrom fuel c.mark.column node)
        else if hasProps p then
          match node with
          | .reference _ _ => fail "did not find expected node content"
          | node => return node.withProps start (← mergeProps p q)
        else return node

/-- Reads the items of a block sequence in a column, of which all but the first start a line. Behind a
sequence that stands in the column of the mapping around it, the next key may follow in that column. -/
def blockItems : Nat → Nat → Bool → Bool → Reads (List Node)
  | 0, _, _, _ => orCut (fun f => [.cut f]) (fail "did not find expected '-' indicator")
  | fuel + 1, column, isOutdented, isFirst => orCut (fun f => [.cut f]) do
    let _ ← skipBlock false
    let c ← get
    if c.rest.isEmpty || c.atAnyMarker || c.mark.column < column then return []
    else if !isFirst && !c.inIndent then fail "did not find expected '-' indicator"
    else if c.mark.column == column && c.atIndicator '-' then
      bump
      let item ← blockNode fuel (column + 1) true false none
      if ← isCut then return [item]
      return item :: (← blockItems fuel column isOutdented false)
    else if isOutdented then return []
    else fail "did not find expected '-' indicator"

/-- Reads the entries of a block mapping in a column, of which all but the first start a line. -/
def blockEntries : Nat → Nat → Bool → Reads (List (Node × Node))
  | 0, _, _ => orCut (fun f => [(.cut f, .cut f)]) (fail "did not find expected key")
  | fuel + 1, column, isFirst => orCut (fun f => [(.cut f, .cut f)]) do
    let _ ← skipBlock false
    let c ← get
    if c.rest.isEmpty || c.atAnyMarker || c.mark.column < column then return []
    else if !isFirst && !c.inIndent then fail "did not find expected key"
    else if column < c.mark.column then
      fail (if c.atIndicator ':' then "mapping values are not allowed in this context"
        else "did not find expected key")
    else if c.atIndicator '?' then
      bump
      let entry ← blockExplicit fuel column
      if ← isCut then return [entry]
      return entry :: (← blockEntries fuel column false)
    else if c.atIndicator ':' then
      bump
      let value ← blockNode fuel (column + 1) true true none
      if ← isCut then return [(.empty c.mark, value)]
      return (.empty c.mark, value) :: (← blockEntries fuel column false)
    else if c.atIndicator '-' then fail "did not find expected key"
    else
      let q ← props false (← Reads.fuel) {}
      let hasKey ← atColon false c.mark
      let key ← if hasProps q && hasKey then pure (.empty c.mark q)
        else inlineContent c.mark q (column + 1)
      if ← isCut then return [(key, key)]
      if !(← atColon false c.mark) then fail "could not find expected ':'"
      blockEntriesFrom fuel column key

/-- Reads the value of a key that has just been read, and the entries behind it. -/
def blockEntriesFrom : Nat → Nat → Node → Reads (List (Node × Node))
  | 0, _, key => orCut (fun f => [(key, .cut f)]) (fail "did not find expected key")
  | fuel + 1, column, key => do
    passColon
    let value ← blockNode fuel (column + 1) false true none
    if ← isCut then return [(key, value)]
    return (key, value) :: (← blockEntries fuel column false)

/-- Reads an entry behind its question mark; its colon stands in the same column. -/
def blockExplicit : Nat → Nat → Reads (Node × Node)
  | 0, _ => orCut (fun f => (.cut f, .cut f)) (fail "did not find expected key")
  | fuel + 1, column => do
    let key ← blockNode fuel (column + 1) true true none
    if ← isCut then return (key, key)
    let _ ← skipBlock false
    let c ← get
    if c.mark.column == column && c.atIndicator ':' then
      bump
      return (key, ← blockNode fuel (column + 1) true true none)
    else return (key, .empty (c.endMark column))

end

/-! ## Documents -/

/-- Reads a decimal number of at most nine digits. -/
def versionNumber : Reads Nat := do
  let digits ← takeWhile Char.isDigit
  if digits.isEmpty then fail "did not find expected version number"
  if digits.length > 9 then fail "found extremely long version number"
  return digits.foldl (fun n c => n * 10 + (c.toNat - 48)) 0

/-- Reads the rest of a directive's line. -/
def endDirective : Reads Unit := do
  let _ ← takeWhile isBlank
  if (← next?) == some '#' then
    let _ ← takeWhile (!isBreak ·)
  match ← next? with
  | some c => if isBreak c then bump else fail "did not find expected comment or line break"
  | none => pure ()

/-- Reads the handle and the prefix that a directive gives for tags. -/
def tagDirective : Reads (String × String) := do
  let c ← get
  match c.rest with
  | '!' :: cs =>
    let inner := cs.takeWhile isNameChar
    let closed := (cs.drop inner.length).head? == some '!'
    if !inner.isEmpty && !closed then fail "did not find expected '!'"
    let handle := '!' :: inner ++ (if closed then ['!'] else [])
    set (c.skip handle.length)
    let blanks ← takeWhile isBlank
    if blanks.isEmpty then fail "did not find expected whitespace"
    let uri ← takeWhile isVerbatimTagChar
    if uri.isEmpty then fail "did not find expected tag URI"
    if !isBlankz (← get).rest then fail "did not find expected whitespace or line break"
    return (.ofList handle, ← tagText uri)
  | _ => fail "did not find expected '!'"

/-- Reads the directives in front of a document; `seen` are the handles they gave so far. The result
says whether there were any. -/
def directives : Nat → Bool → List String → Bool → Reads Bool
  | 0, _, _, any => return any
  | fuel + 1, hasVersion, seen, any => do
    let _ ← skipBlock true
    let c ← get
    if c.mark.column == 0 && c.rest.head? == some '%' then
      bump
      let word ← takeWhile isNameChar
      if word.isEmpty then fail "could not find expected directive name"
      if !isBlankz (← get).rest then fail "found unexpected non-alphabetical character"
      if word == "YAML".toList then
        if hasVersion then fail "found duplicate %YAML directive"
        let _ ← takeWhile isBlank
        let major ← versionNumber
        if (← next?) != some '.' then fail "did not find expected digit or '.' character"
        bump
        let minor ← versionNumber
        if major != 1 || (minor != 1 && minor != 2) then fail "found incompatible YAML document"
        endDirective
        directives fuel true seen true
      else if word == "TAG".toList then
        let _ ← takeWhile isBlank
        let (handle, start) ← tagDirective
        if seen.contains handle then fail "found duplicate %TAG directive"
        endDirective
        modify fun c => { c with handles := (handle, start) :: c.handles }
        directives fuel hasVersion (handle :: seen) true
      else fail "found unknown directive name"
    else return any

/-- Passes the lines that end a document. -/
def passEnds : Nat → Reads Unit
  | 0 => pure ()
  | fuel + 1 => do
    let _ ← skipBlock false
    if (← get).atMarker '.' then
      modify (Cursor.skip 3)
      passEnds fuel

/-- Reads the first document of a text, and looks whether anything follows. -/
def stream : Reads Stream := orCut (fun f => { root := some (.cut f) }) do
  let size ← fuel
  let hasDirectives ← directives size false [] false
  let c ← get
  if c.rest.isEmpty && !hasDirectives then return {}
  let root ←
    if c.atMarker '-' then do
      modify (Cursor.skip 3)
      blockNode (4 * size + 4) 0 false false none
    else if hasDirectives then fail "did not find expected <document start>"
    else if c.atMarker '.' then fail "did not find expected node content"
    else blockNode (4 * size + 4) 0 true false none
  if ← isCut then return { root := some root }
  let _ ← skipBlock false
  passEnds size
  return { root := some root, hasMore := !(← get).rest.isEmpty }

end Reads

/-- Reads a text. A byte order mark in front of it is passed. -/
def Stream.ofText (text : String) : Stream :=
  let cs := match text.toList with
    | '\uFEFF' :: cs => cs
    | cs => cs
  if cs.all isAllowed then
    match Reads.stream.run { rest := cs } with
    | .ok (s, _) => s
    | .error f => { root := some (.cut f) }
  else { root := some (.cut { problem := "control characters are not allowed", mark := {} }) }

end Yaml
end RequiredArgs
