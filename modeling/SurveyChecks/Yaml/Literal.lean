import SurveyChecks.Text.Digits
import SurveyChecks.Text.Surrogate
import SurveyChecks.Yaml.Cursor
import SurveyChecks.Yaml.Token

/-!
# Literals

The tokens that have a text of their own: scalars in their five styles, anchors, tags and
directives. Each reader starts at a place and returns what it read with the place after it.
-/

namespace SurveyChecks.Yaml

open SurveyChecks.Text

/-- What line breaks inside a scalar read as: a single line feed becomes a space, and of several the
first is dropped. -/
def foldBreaks (first : Char) (more : List Char) : List Char :=
  if first ≠ '\n' then first :: more else if more.isEmpty then [' '] else more

/-! ## Quoted scalars -/

/-- The characters of the escapes of one letter. -/
def escapeChars : List (Char × Char) :=
  [('0', '\x00'), ('a', '\x07'), ('b', '\x08'), ('t', '\t'), ('\t', '\t'), ('n', '\n'),
    ('v', '\x0b'), ('f', '\x0c'), ('r', '\r'), ('e', '\x1b'), (' ', ' '), ('"', '"'),
    ('\\', '\\'), ('/', '/'),
    ('N', '\u0085'), ('_', '\u00a0'), ('L', '\u2028'), ('P', '\u2029')]

/-- The number of digits of the escapes by number. -/
def escapeWidth? (c : Char) : Option Nat :=
  if c = 'x' then some 2 else if c = 'u' then some 4 else if c = 'U' then some 8 else none

/-- The character of a number. -/
def charOfNumber (n : Nat) : Except ReadError Char :=
  if 0x80000000 ≤ n then .error .overflow
  else if 0x110000 ≤ n then .error .noSuchCharacter
  else .ok (charOfCode n)

/-- The line breaks from here on with the spaces and tabs between them; no line may separate
documents. `fuel` bounds their number. -/
def quotedBreaks : Nat → Cursor → Except ReadError (List Char × Cursor)
  | 0, k => .ok ([], k)
  | fuel + 1, k =>
    if atDocumentLine k.rest then .error .malformed
    else
      let k := k.skipWhile isSpaceOrTab
      match k.lineBreak? with
      | some (b, k) => (quotedBreaks fuel k).map fun (bs, k) => (b :: bs, k)
      | none => .ok ([], k)

/-- The further line breaks after a first one. -/
def moreBreaks (k : Cursor) : Except ReadError (List Char × Cursor) :=
  quotedBreaks (k.rest.length + 1) k

/-- The character of a number of `width` digits. -/
def numberEscape (width : Nat) (k : Cursor) : Except ReadError (List Char × Cursor) :=
  let digits := k.rest.take width
  match valueInBase? 16 digits with
  | some n =>
    if digits.length < width then .error .malformed
    else (charOfNumber n).map fun c => ([c], k.skip width)
  | none => .error .malformed

/-- What an escape stands for, from the place after its backslash. -/
def escape (k : Cursor) : Except ReadError (List Char × Cursor) :=
  match k.head? with
  | none => .error .malformed
  | some c =>
    match escapeChars.find? (·.1 == c), escapeWidth? c with
    | some (_, d), _ => .ok ([d], k.next)
    | none, some width => numberEscape width k.next
    | none, none => if isBreak c then moreBreaks k.skipBreak else .error .malformed

/-- What a gap inside a quoted scalar stands for: itself, or its line breaks folded. -/
def quotedGap (k : Cursor) : Except ReadError (List Char × Cursor) :=
  let after := k.skipWhile isSpaceOrTab
  match after.lineBreak? with
  | some (b, after) => (moreBreaks after).map fun (bs, after) => (foldBreaks b bs, after)
  | none => if after.rest.isEmpty then .error .malformed else .ok (k.taken isSpaceOrTab, after)

/-- Whether the quote closes the scalar; an apostrophe that is doubled does not. -/
def closes (quote : Char) (k : Cursor) : Bool :=
  k.isAt quote && (quote == '"' || !k.next.isAt quote)

/-- The next piece of a quoted scalar. -/
def quotedPiece (quote : Char) (k : Cursor) : Except ReadError (List Char × Cursor) :=
  match k.head? with
  | none => .error .malformed
  | some c =>
    if c = quote then .ok ([c], k.skip 2)
    else if c = '\\' && quote == '"' then escape k.next
    else if isGap c then quotedGap k
    else .ok ([c], k.next)

/-- The characters of a quoted scalar, from the place after its opening quote. -/
def quotedChars (quote : Char) : Nat → Cursor → Except ReadError (List Char × Cursor)
  | 0, _ => .error .malformed
  | fuel + 1, k =>
    if closes quote k then .ok ([], k.next)
    else do
      let (piece, k) ← quotedPiece quote k
      let (more, k) ← quotedChars quote fuel k
      return (piece ++ more, k)

/-- A quoted scalar, from its opening quote. -/
def quotedScalar (quote : Char) (k : Cursor) : Except ReadError (Token × Cursor) :=
  (quotedChars quote (k.rest.length + 1) k.next).map fun (cs, k) =>
    (.scalar (String.ofList cs) false, k)

/-! ## Plain scalars -/

/-- The characters that end a plain scalar inside brackets or braces. -/
def flowEnders : List Char := ",?[]\x7b\x7d".toList

/-- The characters that make a colon before them a mark, inside brackets or braces. -/
def flowAfterColon : List Char := ",[]\x7b\x7d".toList

/-- Whether the colon before `rest` is the mark of a value. -/
def isValueMark (flow : Bool) (rest : List Char) : Bool :=
  gapNext rest || (flow && rest.head?.any flowAfterColon.contains)

/-- The characters of a plain scalar up to the next gap. -/
def plainChunk (flow : Bool) : List Char → List Char
  | [] => []
  | c :: cs =>
    if isGap c || (c == ':' && isValueMark flow cs) || (flow && flowEnders.contains c) then []
    else c :: plainChunk flow cs

/-- A gap after a part of a plain scalar. -/
structure PlainGap where
  /-- What it stands for when the scalar goes on; empty when the scalar ends. -/
  text : List Char
  /-- Whether it has line breaks. -/
  breaksLine : Bool
  /-- The place after it. -/
  after : Cursor

/-- The further line breaks and spaces of a gap; `none` when a line separates documents. -/
def plainBreaks : Nat → Cursor → Option (List Char) × Cursor
  | 0, k => (some [], k)
  | fuel + 1, k =>
    if k.isAt ' ' then plainBreaks fuel k.next
    else
      match k.lineBreak? with
      | some (b, k) =>
        if atDocumentLine k.rest then (none, k)
        else
          let (bs, k) := plainBreaks fuel k
          (bs.map (b :: ·), k)
      | none => (some [], k)

/-- The gap from here on. -/
def plainGap (k : Cursor) : PlainGap :=
  let spaces := k.taken (· == ' ')
  let k := k.skip spaces.length
  match k.lineBreak? with
  | none => ⟨spaces, false, k⟩
  | some (b, k) =>
    if atDocumentLine k.rest then ⟨[], true, k⟩
    else
      match plainBreaks (k.rest.length + 1) k with
      | (some bs, k) => ⟨foldBreaks b bs, true, k⟩
      | (none, k) => ⟨[], true, k⟩

/-- The characters of a plain scalar, with whether a line break follows them. Further lines must be
indented by `indent` or more, outside brackets and braces. -/
def plainChars (flow : Bool) (indent : Int) : Nat → Cursor → List Char × Bool × Cursor
  | 0, k => ([], false, k)
  | fuel + 1, k =>
    let chunk := plainChunk flow k.rest
    let gap := plainGap (k.skip chunk.length)
    let next := gap.after
    let ends := gap.text.isEmpty || next.isAt '#' ||
      (!flow && decide ((next.column : Int) < indent)) || (plainChunk flow next.rest).isEmpty
    if ends then (chunk, gap.breaksLine, next)
    else
      let (more, breaksLine, k) := plainChars flow indent fuel next
      (chunk ++ gap.text ++ more, breaksLine, k)

/-! ## Block scalars -/

/-- What happens to the line breaks at the end of a block scalar. -/
inductive Chomping where
  /-- All go. -/
  | strip
  /-- One stays. -/
  | clip
  /-- All stay. -/
  | keep
  deriving DecidableEq, Repr

/-- The chomping that a sign asks for. -/
def chomping? (c : Char) : Option Chomping :=
  if c = '+' then some .keep else if c = '-' then some .strip else none

/-- The indentation that a digit asks for. -/
def increment? (c : Char) : Option Nat := if isDigit c then some (digitValue c) else none

/-- The signs after the mark of a block scalar: chomping and indentation in either order. -/
def blockSigns (k : Cursor) : (Chomping × Option Nat) × Cursor :=
  match k.head?.bind chomping? with
  | some ch =>
    match k.next.head?.bind increment? with
    | some n => ((ch, some n), k.skip 2)
    | none => ((ch, none), k.next)
  | none =>
    match k.head?.bind increment? with
    | some n =>
      match k.next.head?.bind chomping? with
      | some ch => ((ch, some n), k.skip 2)
      | none => ((.clip, some n), k.next)
    | none => ((.clip, none), k)

/-- The line breaks before the first line of text, with the greatest indentation met. -/
def leadingBreaks : Nat → Nat → Cursor → List Char × Nat × Cursor
  | 0, deepest, k => ([], deepest, k)
  | fuel + 1, deepest, k =>
    if k.isAt ' ' then leadingBreaks fuel (max deepest k.next.column) k.next
    else
      match k.lineBreak? with
      | some (b, k) =>
        let (bs, deepest, k) := leadingBreaks fuel deepest k
        (b :: bs, deepest, k)
      | none => ([], deepest, k)

/-- The place after at most so many spaces that the column is `indent`. -/
def skipIndent (indent : Nat) (k : Cursor) : Cursor :=
  k.skip (min (k.taken (· == ' ')).length (indent - k.column))

/-- The line breaks between two lines of text indented by `indent`. -/
def innerBreaks (indent : Nat) : Nat → Cursor → List Char × Cursor
  | 0, k => ([], k)
  | fuel + 1, k =>
    let k := skipIndent indent k
    match k.lineBreak? with
    | some (b, k) =>
      let (bs, k) := innerBreaks indent fuel k
      (b :: bs, k)
    | none => ([], k)

/-- Whether a line starts with a space or a tab. -/
def startsBlank (k : Cursor) : Bool := k.head?.any isSpaceOrTab

/-- What the break after a line reads as before another line: in a folded scalar a single line feed
between lines that do not start blank becomes a space, the first of several is dropped. -/
def joint (folded startedBlank : Bool) (lineBreak breaks : List Char) (next : Cursor) : List Char :=
  if folded && lineBreak == ['\n'] && !startedBlank && !startsBlank next then
    if breaks.isEmpty then [' '] else []
  else lineBreak

/-- The text of a block scalar with its last line break and the breaks after it, from a line on;
`breaks` are those before the line. -/
def blockLines (folded : Bool) (indent : Nat) :
    Nat → List Char → Cursor → (List Char × List Char × List Char) × Cursor
  | 0, breaks, k => (([], [], breaks), k)
  | fuel + 1, breaks, k =>
    if k.column = indent && !k.rest.isEmpty then
      let line := k.taken (!isBreak ·)
      let ended := k.skip line.length
      let lineBreak := (ended.lineBreak?.map fun (b, _) => [b]).getD []
      let (after, next) := innerBreaks indent (k.rest.length + 1) ended.skipBreak
      if next.column = indent && !next.rest.isEmpty then
        let ((text, last, trailing), k') := blockLines folded indent fuel after next
        ((breaks ++ line ++ joint folded (startsBlank k) lineBreak after next ++ text,
          last, trailing), k')
      else ((breaks ++ line, lineBreak, after), next)
    else (([], [], breaks), k)

/-- A block scalar, from its mark; `indent` is the indentation around it. -/
def blockScalar (folded : Bool) (indent : Int) (k : Cursor) : Except ReadError (Token × Cursor) :=
  let ((chomping, increment), k) := blockSigns k.next
  if increment = some 0 || !spaceOrEnd k.rest then .error .malformed
  else
    let k := (k.skipWhile (· == ' ')).skipComment
    if !lineEnds k.rest then .error .malformed
    else
      let k := k.skipBreak
      let least := max 1 (indent + 1).toNat
      let fuel := k.rest.length + 1
      let (breaks, indent, k) :=
        match increment with
        | some n =>
          let indent := least + n - 1
          let (bs, k) := innerBreaks indent fuel k
          (bs, indent, k)
        | none =>
          let (bs, deepest, k) := leadingBreaks fuel 0 k
          (bs, max least deepest, k)
      let ((text, last, trailing), k) := blockLines folded indent fuel breaks k
      let ending :=
        match chomping with
        | .strip => []
        | .clip => last
        | .keep => last ++ trailing
      .ok (.scalar (String.ofList (text ++ ending)) false, k)

/-! ## Anchors and tags -/

/-- The name of an anchor, from its mark; it must be followed by a gap or a mark. -/
def anchorName (k : Cursor) : Except ReadError (String × Cursor) :=
  let name := k.next.taken isNameChar
  let k := k.next.skip name.length
  let ends := gapNext k.rest || k.head?.any "?:,]\x7d%@`".toList.contains
  if name.isEmpty || !ends then .error .malformed else .ok (String.ofList name, k)

/-- The characters of tags beside letters and digits. -/
def isTagChar (c : Char) : Bool := c.isAlphanum || "-;/?:@&=+$,_.!~*'()[]%".toList.contains c

/-- The bytes of a run of percent escapes. -/
def percentBytes : Nat → Cursor → Except ReadError (List Nat × Cursor)
  | 0, k => .ok ([], k)
  | fuel + 1, k =>
    if k.isAt '%' then
      match (k.next.rest.take 2).mapM hexValue? with
      | some [a, b] => (percentBytes fuel (k.skip 3)).map fun (bs, k) => ((16 * a + b) :: bs, k)
      | _ => .error .malformed
    else .ok ([], k)

/-- The characters of a tag after its handle. -/
def tagChars : Nat → Cursor → Except ReadError (List Char × Cursor)
  | 0, k => .ok ([], k)
  | fuel + 1, k =>
    match k.head? with
    | none => .ok ([], k)
    | some c =>
      if c = '%' then do
        let (bytes, k) ← percentBytes (k.rest.length + 1) k
        match String.fromUTF8? (ByteArray.mk (bytes.map Nat.toUInt8).toArray) with
        | some s => (tagChars fuel k).map fun (cs, k) => (s.toList ++ cs, k)
        | none => throw .malformed
      else if isTagChar c then (tagChars fuel k.next).map fun (cs, k) => (c :: cs, k)
      else .ok ([], k)

/-- The rest of a tag, which must not be empty. -/
def tagSuffix (k : Cursor) : Except ReadError (String × Cursor) := do
  let (cs, k) ← tagChars (k.rest.length + 1) k
  if cs.isEmpty then throw .malformed else return (String.ofList cs, k)

/-- A handle: an exclamation mark alone, or a name between two. -/
def tagHandle (k : Cursor) : Except ReadError (String × Cursor) :=
  if !k.isAt '!' then .error .malformed
  else if k.next.isAt ' ' then .ok ("!", k.next)
  else
    let name := k.next.taken isNameChar
    let after := k.next.skip name.length
    if after.isAt '!' then .ok (String.ofList ('!' :: name ++ ['!']), after.next)
    else .error .malformed

/-- A tag, from its exclamation mark. -/
def tagToken (k : Cursor) : Except ReadError (Token × Cursor) := do
  let (token, k) ←
    if k.next.isAt '<' then do
      let (suffix, k) ← tagSuffix (k.skip 2)
      if k.isAt '>' then pure (Token.tag none suffix, k.next) else throw .malformed
    else if gapNext k.next.rest then pure (Token.tag none "!", k.next)
    else if (k.next.taken fun c => !(c == ' ' || isBreak c)).contains '!' then do
      let (handle, k) ← tagHandle k
      let (suffix, k) ← tagSuffix k
      pure (Token.tag (some handle) suffix, k)
    else do
      let (suffix, k) ← tagSuffix k.next
      pure (Token.tag (some "!") suffix, k)
  if spaceOrEnd k.rest then return (token, k) else throw .malformed

/-! ## Directives -/

/-- The number of a version. -/
def versionNumber (k : Cursor) : Except ReadError (Nat × Cursor) :=
  let digits := k.taken isDigit
  if digits.isEmpty then .error .malformed
  else .ok (decimalValue digits, k.skip digits.length)

/-- The two numbers of a version with a point between them; the first one counts. -/
def versionDirective (k : Cursor) : Except ReadError (Directive × Cursor) := do
  let (major, k) ← versionNumber k
  if !k.isAt '.' then throw .malformed
  let (_, k) ← versionNumber k.next
  if spaceOrEnd k.rest then return (.version major, k) else throw .malformed

/-- A handle and what it stands for. -/
def handleDirective (k : Cursor) : Except ReadError (Directive × Cursor) := do
  let (name, k) ← tagHandle k
  if !k.isAt ' ' then throw .malformed
  let (start, k) ← tagSuffix (k.skipWhile (· == ' '))
  if spaceOrEnd k.rest then return (.handle name start, k) else throw .malformed

/-- A directive, from its percent sign. -/
def directiveToken (k : Cursor) : Except ReadError (Token × Cursor) := do
  let name := k.next.taken isNameChar
  let k := k.next.skip name.length
  if name.isEmpty || !spaceOrEnd k.rest then throw .malformed
  let body := k.skipWhile (· == ' ')
  let (d, k) ←
    if name = "YAML".toList then versionDirective body
    else if name = "TAG".toList then handleDirective body
    else pure (.other, k.skipWhile (!isBreak ·))
  let k := (k.skipWhile (· == ' ')).skipComment
  if lineEnds k.rest then return (.directive d, k.skipBreak) else throw .malformed

end SurveyChecks.Yaml
