import SurveyChecks.Yaml.Layout
import SurveyChecks.Yaml.Plain

/-!
# Documents

The nodes that the tokens of a text describe: scalars, sequences and mappings, each with a tag. They
form a table in which a collection gives its parts by their places, so that a node with a name may
be a part of several collections, even of itself. Tokens are looked at in order and no earlier than
needed: a fault counts only when everything before it is in order.
-/

namespace SurveyChecks.Yaml

/-- A node of a document; its parts are given by their places. -/
inductive Node where
  /-- A scalar. -/
  | scalar (tag : Tag) (text : String)
  /-- A sequence. -/
  | sequence (tag : Tag) (items : List Nat)
  /-- A mapping, its entries in order. -/
  | mapping (tag : Tag) (entries : List (Nat × Nat))
  deriving Inhabited

namespace Node

/-- The tag of a node. -/
def tag : Node → Tag
  | .scalar t _ | .sequence t _ | .mapping t _ => t

/-- The node with another tag. -/
def withTag (t : Tag) : Node → Node
  | .scalar _ s => .scalar t s
  | .sequence _ items => .sequence t items
  | .mapping _ entries => .mapping t entries

/-- The node that stands where nothing is written. -/
def nothing : Node := .scalar .null ""

end Node

/-- The nodes of a document and the place of the whole. -/
structure Document where
  /-- The nodes by place. -/
  nodes : Array Node
  /-- The place of the node that all others are parts of. -/
  root : Nat
  deriving Inhabited

namespace Document

/-! ## Tags -/

/-- What the handles in the texts of tags stand for. -/
abbrev Handles := List (String × String)

/-- The start of the tags of the format itself. -/
def coreStart : String := "tag:yaml.org,2002:"

/-- The handles that are known without a directive. -/
def knownHandles : Handles := [("!", "!"), ("!!", coreStart)]

/-- The tags of the format itself, by the end of their names. -/
def coreTags : List (String × Tag) :=
  [("null", .null), ("bool", .bool), ("int", .int), ("float", .float), ("timestamp", .timestamp),
    ("merge", .merge), ("value", .value), ("str", .str), ("binary", .binary), ("seq", .seq),
    ("map", .map), ("set", .set), ("pairs", .pairs), ("omap", .pairs)]

/-- The tag of a full name. -/
def tagNamed (name : String) : Tag :=
  match coreTags.find? fun (ending, _) => coreStart ++ ending == name with
  | some (_, t) => t
  | none => .other name

/-- What a tag written before a node says: nothing, that the form of the node decides, or a tag. -/
inductive Mark where
  /-- There is no tag. -/
  | absent
  /-- The form of the node decides, whatever its style. -/
  | byForm
  /-- The tag decides. -/
  | tag (t : Tag)
  deriving DecidableEq, Repr

/-- A tag as written: its handle, if it has one, and the rest. -/
abbrev WrittenTag := Option String × String

/-- The mark that a written tag makes; a handle must be known. -/
def markOf (handles : Handles) : Option WrittenTag → Except ReadError Mark
  | none => .ok .absent
  | some (none, suffix) => .ok (if suffix = "!" then .byForm else .tag (tagNamed suffix))
  | some (some handle, suffix) =>
    match handles.lookup handle with
    | some start => .ok (.tag (tagNamed (start ++ suffix)))
    | none => .error .malformed

/-- The tag of a scalar. -/
def scalarTag (text : String) (plain : Bool) : Mark → Tag
  | .absent => if plain then tagOf text else .str
  | .byForm => tagOf text
  | .tag t => t

/-- The tag of a collection, `t` unless it is marked. -/
def collectionTag (t : Tag) : Mark → Tag
  | .tag t' => t'
  | _ => t

/-! ## Building -/

/-- What is left of the tokens, and what has been built of them. -/
structure Builder where
  /-- The tokens that are left. -/
  tokens : List Token
  /-- The handles of tags. -/
  handles : Handles
  /-- The nodes by place. -/
  nodes : Array Node := #[]
  /-- The places of the nodes that have names. -/
  names : List (String × Nat) := []
  /-- The number of collections around the next node. -/
  depth : Nat := 0

/-- A step of building. -/
abbrev Build := StateT Builder (Except ReadError)

/-- The greatest depth of collections inside one another. -/
def maxDepth : Nat := 487

/-- The next token. A fault is none. -/
def peek : Build Token := do
  match (← get).tokens with
  | .fault e :: _ => throw e
  | t :: _ => return t
  | [] => throw .malformed

/-- Passes over the next token. -/
def advance : Build Unit := modify fun b => { b with tokens := b.tokens.tail }

/-- Whether the next token is one of `ts`. -/
def facing (ts : List Token) : Build Bool := return ts.contains (← peek)

/-- Passes over the next token if it is `t`; tells whether it was. -/
def accept (t : Token) : Build Bool := do
  if (← peek) = t then
    advance
    return true
  return false

/-- Passes over the next token, which must be `t`. -/
def expect (t : Token) : Build Unit := do
  unless ← accept t do throw .malformed

/-- The anchor at the next token, if there is one. -/
def anchor? : Build (Option String) := do
  match ← peek with
  | .anchor n =>
    advance
    return some n
  | _ => return none

/-- The tag at the next token, if there is one. -/
def tag? : Build (Option WrittenTag) := do
  match ← peek with
  | .tag handle suffix =>
    advance
    return some (handle, suffix)
  | _ => return none

/-- The properties before a node: anchor and tag in either order. -/
def properties : Build (Option String × Option WrittenTag) := do
  match ← anchor? with
  | some n => return (some n, ← tag?)
  | none =>
    match ← tag? with
    | some t => return (← anchor?, some t)
    | none => return (none, none)

/-- Adds a node to the table. -/
def add (n : Node) : Build Nat :=
  modifyGet fun b => (b.nodes.size, { b with nodes := b.nodes.push n })

/-- Gives a name, if there is one, to the node at a place. -/
def giveName (name : Option String) (i : Nat) : Build Unit :=
  match name with
  | none => return
  | some n => modify fun b => { b with names := (n, i) :: b.names }

/-- The place of the node of a name. -/
def named (n : String) : Build Nat := do
  match (← get).names.lookup n with
  | some i => return i
  | none => throw .malformed

/-- Fails if a name is taken; no two nodes have one name. -/
def checkFree (name : Option String) : Build Unit := do
  if (name.bind ((← get).names.lookup ·)).isSome then throw .malformed

/-- A scalar node. -/
def leaf (name : Option String) (tag : Tag) (text : String) : Build Nat := do
  let i ← add (.scalar tag text)
  giveName name i
  return i

/-- A collection. It has its place and its name before its parts are built, so they may refer to it.
-/
def collection {α : Type} (name : Option String) (parts : Build α) (node : α → Node) :
    Build Nat := do
  let i ← add .nothing
  giveName name i
  if maxDepth ≤ (← get).depth then throw .tooDeep
  modify fun b => { b with depth := b.depth + 1 }
  let xs ← parts
  modify fun b => { b with depth := b.depth - 1, nodes := b.nodes.setIfInBounds i (node xs) }
  return i

mutual

/-- A node. `block` tells whether it may be a collection by indentation, `flush` whether the items
of a sequence may stand at the indentation around them. `fuel` bounds the number of steps. -/
def node : Nat → (block flush : Bool) → Build Nat
  | 0, _, _ => throw .malformed
  | fuel + 1, block, flush => do
    if let .alias n ← peek then
      advance
      return ← named n
    let (name, written) ← properties
    let mark ← markOf (← get).handles written
    let next ← peek
    checkFree name
    match next with
    | .item =>
      if flush then collection name (flushItems fuel) (.sequence (collectionTag .seq mark))
      else emptyNode name mark
    | .scalar text plain =>
      advance
      leaf name (scalarTag text plain mark) text
    | .openBracket =>
      advance
      collection name (flowItems fuel true) (.sequence (collectionTag .seq mark))
    | .openBrace =>
      advance
      collection name (flowEntries fuel true) (.mapping (collectionTag .map mark))
    | .sequenceStart =>
      if block then
        advance
        collection name (blockItems fuel) (.sequence (collectionTag .seq mark))
      else emptyNode name mark
    | .mappingStart =>
      if block then
        advance
        collection name (blockEntries fuel) (.mapping (collectionTag .map mark))
      else emptyNode name mark
    | _ => emptyNode name mark

/-- The node for properties without anything after them. -/
def emptyNode (name : Option String) (mark : Mark) : Build Nat :=
  if name.isNone && mark == .absent then throw .malformed
  else leaf name (scalarTag "" true mark) ""

/-- A node, or nothing when one of `ts` follows. -/
def nodeUnless : Nat → List Token → (block flush : Bool) → Build Nat
  | 0, _, _, _ => throw .malformed
  | fuel + 1, ts, block, flush => do
    if ← facing ts then add .nothing else node fuel block flush

/-- The value of an entry, or nothing when one of `ts` follows or there is no colon. -/
def valueUnless : Nat → List Token → (block flush : Bool) → Build Nat
  | 0, _, _, _ => throw .malformed
  | fuel + 1, ts, block, flush => do
    if ← accept .value then nodeUnless fuel ts block flush else add .nothing

/-- The items of a sequence by indentation. -/
def blockItems : Nat → Build (List Nat)
  | 0 => throw .malformed
  | fuel + 1 => do
    if ← accept .item then
      let x ← nodeUnless fuel [.item, .blockEnd] true false
      return x :: (← blockItems fuel)
    expect .blockEnd
    return []

/-- The items of a sequence at the indentation around it. -/
def flushItems : Nat → Build (List Nat)
  | 0 => throw .malformed
  | fuel + 1 => do
    if ← accept .item then
      let x ← nodeUnless fuel [.item, .key, .value, .blockEnd] true false
      return x :: (← flushItems fuel)
    return []

/-- The entries of a mapping by indentation. -/
def blockEntries : Nat → Build (List (Nat × Nat))
  | 0 => throw .malformed
  | fuel + 1 => do
    if ← accept .key then
      let k ← nodeUnless fuel [.key, .value, .blockEnd] true true
      let v ← valueUnless fuel [.key, .value, .blockEnd] true true
      return (k, v) :: (← blockEntries fuel)
    expect .blockEnd
    return []

/-- The only entry of a mapping that a key in brackets makes. -/
def pair : Nat → Build (Nat × Nat)
  | 0 => throw .malformed
  | fuel + 1 => do
    let k ← nodeUnless fuel [.value, .comma, .closeBracket] false false
    let v ← valueUnless fuel [.comma, .closeBracket] false false
    return (k, v)

/-- The items of a sequence in brackets. A key there makes a mapping of one entry. -/
def flowItems : Nat → (first : Bool) → Build (List Nat)
  | 0, _ => throw .malformed
  | fuel + 1, first => do
    if ← accept .closeBracket then return []
    unless first do expect .comma
    if ← accept .key then
      let x ← collection none (pair fuel) fun e => .mapping .map [e]
      return x :: (← flowItems fuel false)
    if ← accept .closeBracket then return []
    let x ← node fuel false false
    return x :: (← flowItems fuel false)

/-- The entries of a mapping in braces. -/
def flowEntries : Nat → (first : Bool) → Build (List (Nat × Nat))
  | 0, _ => throw .malformed
  | fuel + 1, first => do
    if ← accept .closeBrace then return []
    unless first do expect .comma
    if ← accept .key then
      let k ← nodeUnless fuel [.value, .comma, .closeBrace] false false
      let v ← valueUnless fuel [.comma, .closeBrace] false false
      return (k, v) :: (← flowEntries fuel false)
    if ← accept .closeBrace then return []
    let k ← node fuel false false
    let v ← add .nothing
    return (k, v) :: (← flowEntries fuel false)

end

/-! ## Documents -/

/-- The directives before a document; a version must be 1 and a handle may be given once. -/
def directives : (versionSeen : Bool) → Handles → List Token →
    Except ReadError (Handles × List Token)
  | seen, hs, .directive (.version major) :: ts =>
    if seen || major != 1 then .error .malformed else directives true hs ts
  | seen, hs, .directive (.handle n s) :: ts =>
    if (hs.lookup n).isSome then .error .malformed else directives seen ((n, s) :: hs) ts
  | seen, hs, .directive .other :: ts => directives seen hs ts
  | _, hs, ts => .ok (hs, ts)

/-- Passes over the directives before a document and over the line that starts it. -/
def opening : Build Unit := do
  let (handles, tokens) ← directives false [] (← get).tokens
  modify fun b => { b with tokens, handles := handles ++ knownHandles }
  expect .documentStart

/-- The node of a document whose start is not written. -/
def bare : Build Nat := do
  node (4 * (← get).tokens.length + 4) true false

/-- The node of a document after the line that starts it; it may be empty. -/
def content : Build Nat := do
  match ← peek with
  | .directive _ | .documentStart | .documentEnd | .streamEnd => add .nothing
  | _ => bare

/-- Passes over the lines that end a document, after which nothing may come. -/
def closing : Build Unit := do
  modify fun b => { b with tokens := b.tokens.dropWhile (· == .documentEnd) }
  unless (← peek) = .streamEnd do
    opening
    throw .malformed

/-- The only document of a text; `none` when there is none. -/
def only? : Build (Option Nat) := do
  match ← peek with
  | .streamEnd => return none
  | .directive _ | .documentStart =>
    opening
    let root ← content
    closing
    return some root
  | _ =>
    let root ← bare
    closing
    return some root

/-- The only document that tokens describe; `none` when there is none. -/
def ofTokens? (tokens : List Token) : Except ReadError (Option Document) := do
  let (root, b) ← only?.run { tokens, handles := knownHandles }
  return root.map fun i => ⟨b.nodes, i⟩

end Document

end SurveyChecks.Yaml
