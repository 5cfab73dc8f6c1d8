import SurveyChecks.Yaml.Literal

/-!
# Layout

The tokens of a text, found from left to right. Collections outside brackets and braces start and
end by indentation. That a key stood somewhere is known only when its colon comes, so places where a
key may stand are remembered as candidates, one for each depth of brackets and braces, and the
tokens for the key are put in afterwards.
-/

namespace SurveyChecks.Yaml

/-- A place where a key may stand. -/
structure Candidate where
  /-- The depth of brackets and braces around it. -/
  depth : Nat
  /-- The number of tokens before it. -/
  position : Nat
  /-- Whether there must be a key here. -/
  required : Bool
  /-- The place. -/
  place : Cursor
  deriving Inhabited

/-- The tokens found so far and what decides about the next one. -/
structure Layout where
  /-- The place up to which the text has been read. -/
  cursor : Cursor
  /-- The depth of brackets and braces. -/
  depth : Nat
  /-- The column of the innermost collection by indentation, -1 outside all. -/
  indent : Int
  /-- The columns of the collections around it, innermost first. -/
  outer : List Int
  /-- Whether a key may start at the next token. -/
  keyAllowed : Bool
  /-- The candidates for keys. -/
  candidates : List Candidate
  /-- The tokens, the last one first. -/
  tokens : List Token

namespace Layout

/-- The layout before a text. -/
def start (cs : List Char) : Layout := ⟨.start cs, 0, -1, [], true, [], []⟩

/-- Adds tokens at the end. -/
def push (l : Layout) (ts : List Token) : Layout := { l with tokens := ts.reverse ++ l.tokens }

/-- Moves on. -/
def moveTo (l : Layout) (k : Cursor) : Layout := { l with cursor := k }

/-- Puts tokens in after the first `position` ones. -/
def insertAt (l : Layout) (position : Nat) (ts : List Token) : Layout :=
  let later := l.tokens.length - position
  { l with tokens := l.tokens.take later ++ ts.reverse ++ l.tokens.drop later }

/-! ## Indentation -/

/-- Whether indentation counts here. -/
def inBlock (l : Layout) : Bool := l.depth == 0

/-- Ends the collections that are indented further than `column`. -/
def endBeyond (column : Int) (tokens : List Token) : Int → List Int → Int × List Int × List Token
  | indent, [] => (indent, [], tokens)
  | indent, o :: os =>
    if column < indent then endBeyond column (.blockEnd :: tokens) o os
    else (indent, o :: os, tokens)

/-- Ends the collections that are indented further than `column`, outside brackets and braces. -/
def unwind (l : Layout) (column : Int) : Layout :=
  if l.inBlock then
    let (indent, outer, tokens) := endBeyond column l.tokens l.indent l.outer
    { l with indent, outer, tokens }
  else l

/-- Whether a collection starts at `column`: it is indented further than the innermost one. -/
def opensAt (l : Layout) (column : Nat) : Bool := decide (l.indent < column)

/-- The indentation `column`, if a collection starts there. -/
def indentTo (l : Layout) (column : Nat) : Layout :=
  if l.opensAt column then { l with indent := column, outer := l.indent :: l.outer } else l

/-- Starts a collection here unless it has started before. -/
def openBlock (l : Layout) (t : Token) : Layout :=
  let column := l.cursor.column
  if l.inBlock && l.opensAt column then (l.push [t]).indentTo column else l

/-! ## Candidates -/

/-- The greatest length of a key before its colon. -/
def maxKeyLength : Nat := 1024

/-- Whether no key can stand at a candidate any more: its line has ended or is too long. -/
def isStale (l : Layout) (c : Candidate) : Bool :=
  c.place.line != l.cursor.line || decide (maxKeyLength < l.cursor.index - c.place.index)

/-- Keeps the candidates that satisfy `p`; none of the others may be required. -/
def keepCandidates (l : Layout) (p : Candidate → Bool) : Except ReadError Layout :=
  if l.candidates.any fun c => !p c && c.required then .error .malformed
  else .ok { l with candidates := l.candidates.filter p }

/-- Gives up the candidates that are stale. -/
def dropStale (l : Layout) : Except ReadError Layout := l.keepCandidates fun c => !l.isStale c

/-- Gives up the candidate at the present depth. -/
def dropCandidate (l : Layout) : Except ReadError Layout :=
  l.keepCandidates fun c => c.depth != l.depth

/-- Remembers that a key may start here. It must when the innermost collection stands at this
column. -/
def noteCandidate (l : Layout) : Except ReadError Layout :=
  if l.keyAllowed then do
    let l ← l.dropCandidate
    let required := l.inBlock && l.indent == (l.cursor.column : Int)
    let c : Candidate := ⟨l.depth, l.tokens.length, required, l.cursor⟩
    return { l with candidates := c :: l.candidates }
  else .ok l

/-! ## Single tokens -/

/-- Takes a token of `n` characters. -/
def take (l : Layout) (n : Nat) (t : Token) : Layout := (l.push [t]).moveTo (l.cursor.skip n)

/-- Takes a token that a reader reads here. -/
def takeRead (l : Layout) (read : Cursor → Except ReadError (Token × Cursor)) :
    Except ReadError Layout := do
  let (t, k) ← read l.cursor
  return (l.push [t]).moveTo k

/-- Whether a key may start at the next token. -/
def allowKey (l : Layout) (b : Bool) : Layout := { l with keyAllowed := b }

/-- Ends all collections by indentation before a line about documents. -/
def outside (l : Layout) : Except ReadError Layout := do
  let l ← (l.unwind (-1)).dropCandidate
  return l.allowKey false

/-- The end of the text. -/
def endOfText (l : Layout) : Except ReadError Layout := do
  let l ← l.outside
  return { l with candidates := [] }.push [.streamEnd]

/-- An opening bracket or brace. -/
def openFlow (l : Layout) (t : Token) : Except ReadError Layout := do
  let l ← l.noteCandidate
  return ({ l with depth := l.depth + 1 }.allowKey true).take 1 t

/-- A closing bracket or brace. -/
def closeFlow (l : Layout) (t : Token) : Except ReadError Layout := do
  let l ← l.dropCandidate
  return ({ l with depth := l.depth - 1 }.allowKey false).take 1 t

/-- A comma. -/
def comma (l : Layout) : Except ReadError Layout := do
  let l ← (l.allowKey true).dropCandidate
  return l.take 1 .comma

/-- The hyphen before an item. -/
def item (l : Layout) : Except ReadError Layout :=
  if l.inBlock && !l.keyAllowed then .error .malformed
  else do
    let l ← ((l.openBlock .sequenceStart).allowKey true).dropCandidate
    return l.take 1 .item

/-- The question mark before a key. -/
def key (l : Layout) : Except ReadError Layout :=
  if l.inBlock && !l.keyAllowed then .error .malformed
  else do
    let l ← ((l.openBlock .mappingStart).allowKey l.inBlock).dropCandidate
    return l.take 1 .key

/-- The colon after the key at a candidate: the tokens for the key are put in before it. -/
def valueAfter (l : Layout) (c : Candidate) : Layout :=
  let column := c.place.column
  let opens := l.inBlock && l.opensAt column
  let l := l.insertAt c.position (if opens then [.mappingStart, .key] else [.key])
  let l := if l.inBlock then l.indentTo column else l
  let l := { l with candidates := l.candidates.filter fun d => d.depth != l.depth }
  (l.allowKey false).take 1 .value

/-- The colon before a value. -/
def value (l : Layout) : Except ReadError Layout :=
  match l.candidates.find? (·.depth == l.depth) with
  | some c => .ok (l.valueAfter c)
  | none =>
    if l.inBlock && !l.keyAllowed then .error .malformed
    else do
      let l ← ((l.openBlock .mappingStart).allowKey l.inBlock).dropCandidate
      return l.take 1 .value

/-- An alias, an anchor, a tag or a quoted scalar. -/
def literal (l : Layout) (read : Cursor → Except ReadError (Token × Cursor)) :
    Except ReadError Layout := do
  let l ← l.noteCandidate
  (l.allowKey false).takeRead read

/-- A block scalar. -/
def block (l : Layout) (folded : Bool) : Except ReadError Layout := do
  let l ← (l.allowKey true).dropCandidate
  l.takeRead (blockScalar folded l.indent)

/-- A plain scalar. -/
def plain (l : Layout) : Except ReadError Layout := do
  let l ← l.noteCandidate
  let k := l.cursor
  let (cs, breaksLine, k) := plainChars (!l.inBlock) (l.indent + 1) (k.rest.length + 1) k
  return ((l.allowKey breaksLine).push [.scalar (String.ofList cs) true]).moveTo k

/-! ## The next token -/

/-- The place of the next token, after spaces, comments and line breaks, and whether a line break
came before it. -/
def skipGaps : Nat → Cursor → Bool × Cursor
  | 0, k => (false, k)
  | fuel + 1, k =>
    let k := (k.skipWhile (· == ' ')).skipComment
    match k.lineBreak? with
    | some (_, k) => (true, (skipGaps fuel k).2)
    | none => (false, k)

/-- Moves to the next token. After a line break a key may start, outside brackets and braces. -/
def toNext (l : Layout) : Layout :=
  let k := l.cursor
  let k := if k.index = 0 && k.isAt byteOrderMark then k.next else k
  let (broke, k) := skipGaps (k.rest.length + 1) k
  let l := l.moveTo k
  if broke && l.inBlock then l.allowKey true else l

/-- Whether a plain scalar starts with `c` before `rest`. -/
def startsPlain (inBlock : Bool) (c : Char) (rest : List Char) : Bool :=
  !(isGap c || "-?:,[]\x7b\x7d#&*!|>'\"%@`".toList.contains c) ||
    (!gapNext rest && (c == '-' || (inBlock && (c == '?' || c == ':'))))

/-- Takes the token that starts with `c` before `rest`. -/
def takeAt (l : Layout) (c : Char) (rest : List Char) : Except ReadError Layout :=
  let block := l.inBlock
  let lineStart := l.cursor.column = 0
  if c = '%' ∧ lineStart then do (← l.outside).takeRead directiveToken
  else if c = '-' ∧ lineStart ∧ atDocumentLine (c :: rest) then do
    return (← l.outside).take 3 .documentStart
  else if c = '.' ∧ lineStart ∧ atDocumentLine (c :: rest) then do
    return (← l.outside).take 3 .documentEnd
  else if c = '[' then l.openFlow .openBracket
  else if c = '\x7b' then l.openFlow .openBrace
  else if c = ']' then l.closeFlow .closeBracket
  else if c = '\x7d' then l.closeFlow .closeBrace
  else if c = ',' then l.comma
  else if c = '-' ∧ gapNext rest then l.item
  else if c = '?' ∧ (!block || gapNext rest) then l.key
  else if c = ':' ∧ (!block || gapNext rest) then l.value
  else if c = '*' then l.literal fun k => (anchorName k).map fun (n, k) => (.alias n, k)
  else if c = '&' then l.literal fun k => (anchorName k).map fun (n, k) => (.anchor n, k)
  else if c = '!' then l.literal tagToken
  else if c = '|' ∧ block then l.block false
  else if c = '>' ∧ block then l.block true
  else if c = '\'' ∨ c = '"' then l.literal (quotedScalar c)
  else if startsPlain block c rest then l.plain
  else .error .malformed

/-- Takes the next token, or the end of the text. -/
def step (l : Layout) : Except ReadError Layout := do
  let l ← l.toNext.dropStale
  let l := l.unwind l.cursor.column
  match l.cursor.rest with
  | [] => l.endOfText
  | c :: rest => l.takeAt c rest

/-- The tokens when the text cannot be read on. A token counts only when it is certain that none is
put in before it, that is, before the first place where a key may still stand. -/
def cutOff (l : Layout) (e : ReadError) : List Token :=
  let held := (l.candidates.filter (!l.isStale ·)).map (·.position)
  l.tokens.reverse.take (held.foldl min l.tokens.length) ++ [.fault e]

/-- Takes tokens until the end of the text; `fuel` bounds their number. -/
def run : Nat → Layout → List Token
  | 0, l => l.cutOff .malformed
  | fuel + 1, l =>
    match l.step with
    | .ok l => if l.tokens.head? = some .streamEnd then l.tokens.reverse else run fuel l
    | .error e => l.cutOff e

end Layout

/-- The tokens of a text up to its end or to a fault. -/
def Token.ofChars (cs : List Char) : List Token := Layout.run (cs.length + 1) (.start cs)

end SurveyChecks.Yaml
