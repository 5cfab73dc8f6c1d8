import SurveyChecks.Text.Surrogate
import SurveyChecks.Yaml.Plain

/-!
# How texts are written in YAML

A text is written plain if it can be, else between single quotes if it can be, else between double
quotes. Written texts are ASCII; long ones are folded at their spaces.
-/

namespace SurveyChecks.Yaml

open SurveyChecks.Text

/-- The three ways to write a text. -/
inductive Style where
  /-- Without quotes. -/
  | plain
  /-- Between single quotes. -/
  | single
  /-- Between double quotes, with escapes. -/
  | double
  deriving DecidableEq, Repr

/-! ## What a text allows -/

/-- Characters that only double quotes can hold: all but the line feed and printable ASCII. -/
def isSpecial (c : Char) : Bool := !(c == '\n' || (decide (' ' ≤ c) && decide (c ≤ '~')))

/-- Characters that do not start a plain text. -/
def plainStoppers : List Char := "#,[]\x7b\x7d&*!|>'\"%@`".toList

/-- Whether a text starts like the line between two documents. -/
def startsLikeMarker (cs : List Char) : Bool :=
  "---".toList.isPrefixOf cs || "...".toList.isPrefixOf cs

/-- Whether the first character keeps a text from being plain. -/
def badStart : List Char → Bool
  | [] => false
  | c :: cs => plainStoppers.contains c || ((c == '?' || c == ':' || c == '-') && gapNext cs)

/-- Whether a colon before a gap or a number sign after one keeps a text from being plain;
`previous` is the character before. -/
def badInside (previous : Char) : List Char → Bool
  | [] => false
  | c :: cs =>
    (c == ':' && gapNext cs) || (c == '#' && isGap previous) || badInside c cs

/-- Whether two neighbouring characters satisfy `p` and `q`. -/
def neighboursWith (p q : Char → Bool) : List Char → Bool
  | c :: d :: cs => (p c && q d) || neighboursWith p q (d :: cs)
  | _ => false

/-- A space or a line feed. -/
def isSpaceOrFeed (c : Char) : Bool := c == ' ' || c == '\n'

/-- Whether a text can stand between single quotes. -/
def allowsSingle (cs : List Char) : Bool :=
  !cs.any isSpecial && !neighboursWith (· == ' ') (· == '\n') cs &&
    !neighboursWith (· == '\n') (· == ' ') cs

/-- Whether a text can stand without quotes, apart from what it would then denote. -/
def allowsPlain (cs : List Char) : Bool :=
  allowsSingle cs && !cs.contains '\n' && !startsLikeMarker cs && !badStart cs &&
    !(match cs with | [] => false | c :: r => badInside c r) &&
    !cs.head?.any isSpaceOrFeed && !cs.getLast?.any isSpaceOrFeed

/-- How a text is written: plain only if it would be read as a text. -/
def styleOf (s : String) : Style :=
  let cs := s.toList
  if allowsPlain cs && tagOf s == .str then .plain
  else if allowsSingle cs then .single
  else .double

/-! ## Folding -/

/-- Lines are broken at the first space after this column. -/
def width : Nat := 80

/-- A line feed and the indentation of the line after it. -/
def newLine (indent : Nat) : List Char := '\n' :: List.replicate indent ' '

/-- A maximal run of characters of one sort inside a text. -/
inductive Run where
  /-- Characters that are neither spaces nor line feeds. -/
  | word (cs : List Char)
  /-- Spaces. -/
  | spaces (n : Nat)
  /-- Line feeds. -/
  | feeds (n : Nat)
  deriving DecidableEq, Repr

/-- Puts a character in front of runs. -/
def Run.extend (c : Char) : List Run → List Run
  | .word cs :: rs =>
    if c = ' ' then .spaces 1 :: .word cs :: rs
    else if c = '\n' then .feeds 1 :: .word cs :: rs
    else .word (c :: cs) :: rs
  | .spaces n :: rs =>
    if c = ' ' then .spaces (n + 1) :: rs
    else if c = '\n' then .feeds 1 :: .spaces n :: rs
    else .word [c] :: .spaces n :: rs
  | .feeds n :: rs =>
    if c = ' ' then .spaces 1 :: .feeds n :: rs
    else if c = '\n' then .feeds (n + 1) :: rs
    else .word [c] :: .feeds n :: rs
  | [] => if c = ' ' then [.spaces 1] else if c = '\n' then [.feeds 1] else [.word [c]]

/-- The runs of a text. -/
def Run.ofChars (cs : List Char) : List Run := cs.foldr Run.extend []

/-- Where a text stands. -/
structure Place where
  /-- The indentation of further lines. -/
  indent : Nat
  /-- Whether lines may be broken. -/
  folds : Bool

/-- Writes runs from a column on; `started` says whether something was written before. A single
space after the width becomes a line break, unless the text starts or ends with it. A run of feeds
is written with one more. -/
def foldRuns (place : Place) : (started : Bool) → (column : Nat) → List Run → List Char
  | _, _, [] => []
  | _, column, .word cs :: rs => cs ++ foldRuns place true (column + cs.length) rs
  | _, _, .feeds n :: rs =>
    List.replicate n '\n' ++ newLine place.indent ++ foldRuns place true place.indent rs
  | started, column, .spaces n :: rs =>
    if n = 1 ∧ width < column ∧ place.folds ∧ started ∧ rs ≠ [] then
      newLine place.indent ++ foldRuns place true place.indent rs
    else List.replicate n ' ' ++ foldRuns place true (column + n) rs

/-! ## Escapes -/

/-- The characters with an escape of one letter, and that letter. -/
def letterEscapes : List (Char × Char) :=
  [('\x00', '0'), ('\x07', 'a'), ('\x08', 'b'), ('\t', 't'), ('\n', 'n'), ('\x0b', 'v'),
    ('\x0c', 'f'), ('\r', 'r'), ('\x1b', 'e'), ('"', '"'), ('\\', '\\'), ('\u0085', 'N'),
    ('\u00a0', '_'), ('\u2028', 'L'), ('\u2029', 'P')]

/-- The escape of a character between double quotes, if it needs one. -/
def escape? (c : Char) : Option (List Char) :=
  match letterEscapes.find? (·.1 == c) with
  | some (_, l) => some ['\\', l]
  | none =>
    let n := codeOf c
    if ' ' ≤ c ∧ c ≤ '~' then none
    else if n < 0x100 then some ("\\x" ++ hexPaddedUpper 2 n).toList
    else if n < 0x10000 then some ("\\u" ++ hexPaddedUpper 4 n).toList
    else some ("\\U" ++ hexPaddedUpper 8 n).toList

/-- An escaped line break and, when a space follows, the backslash that protects it. -/
def escapedBreak (indent : Nat) (rest : List Char) : List Char :=
  '\\' :: newLine indent ++ (if rest.head? = some ' ' then ['\\'] else [])

/-- Writes characters between double quotes from a column on. A line is broken after the width, at a
space or beside an escape, but neither at the first nor at the last character. -/
def foldEscaped (place : Place) :
    (first afterEscape : Bool) → (column : Nat) → List Char → List Char
  | _, _, _, [] => []
  | first, afterEscape, column, c :: cs =>
    let inner := place.folds && !first && !cs.isEmpty
    let lineStart (rest : List Char) := place.indent + (if rest.head? = some ' ' then 1 else 0)
    match escape? c with
    | some e =>
      let column := column + e.length
      if inner ∧ width + 1 < column then
        e ++ escapedBreak place.indent cs ++ foldEscaped place false true (lineStart cs) cs
      else e ++ foldEscaped place false true column cs
    | none =>
      if inner ∧ width < column ∧ (c = ' ' ∨ afterEscape) then
        escapedBreak place.indent (c :: cs) ++
          c :: foldEscaped place false false (lineStart (c :: cs) + 1) cs
      else c :: foldEscaped place false false (column + 1) cs

/-! ## Writing texts -/

/-- The characters with every apostrophe twice. -/
def doubleApostrophes : List Char → List Char
  | [] => []
  | c :: cs => if c = '\'' then '\'' :: '\'' :: doubleApostrophes cs else c :: doubleApostrophes cs

/-- A text between single quotes. -/
def writeSingle (place : Place) (column : Nat) (cs : List Char) : List Char :=
  '\'' :: foldRuns place false (column + 1) (Run.ofChars (doubleApostrophes cs)) ++ ['\'']

/-- A text from a column on, in its style. -/
def writeText (place : Place) (column : Nat) (s : String) : List Char :=
  let cs := s.toList
  match styleOf s with
  | .plain => foldRuns place false column (Run.ofChars cs)
  | .single => writeSingle place column cs
  | .double => '"' :: foldEscaped place true true (column + 1) cs ++ ['"']

end SurveyChecks.Yaml
