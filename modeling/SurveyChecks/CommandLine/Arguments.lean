import SurveyChecks.Checks.Settings
import SurveyChecks.Text.DecimalSet

/-!
# Arguments

The words of the command line. A word is a flag, written in full or as the start of one long flag
only, or an operand. A flag takes no operand, one, or all that follow; an operand may also be
attached to a flag by an equals sign, and short flags may be run together.

Conventions differ in two places. Here short flags may be run together behind an equals sign too, so
that `-v=v` is `-vv`; and `--` separates flags from operands even where it is attached to a flag, so
that `--output=--` gives the flag no operand.
-/

namespace SurveyChecks

open SurveyChecks.Text

/-! ## Flags -/

/-- A flag. -/
inductive Flag where
  /-- Shows how the program is used. -/
  | help
  /-- Names a file of settings. -/
  | config
  /-- Sets a parameter. -/
  | parameter (p : Parameter)
  /-- Names a file for the catalog. -/
  | catalog
  /-- Asks for all notes. -/
  | verbose
  deriving DecidableEq, Repr

/-- How many operands a flag takes. -/
inductive Arity where
  /-- None. -/
  | none
  /-- Exactly one. -/
  | one
  /-- One or more. -/
  | several
  deriving DecidableEq, Repr

namespace Flag

/-- All flags, in the order of their definition. -/
def all : List Flag :=
  [.help, .config, .parameter .instrument, .parameter .output, .parameter .workingDir,
    .parameter .enumeratorId, .parameter .successCondition, .parameter .respondentName,
    .parameter .correctionsFile, .parameter .enumeratorComments, .parameter .graphicsDir,
    .parameter .uniqueIds, .catalog, .verbose]

/-- The spellings of a flag. -/
def spellings : Flag → List String
  | .help => ["-h", "--help"]
  | .config => ["--config"]
  | .parameter p => ["--" ++ replaceChar '_' '-' p.key]
  | .catalog => ["--catalog-yaml"]
  | .verbose => ["-v", "--verbose"]

/-- How many operands a flag takes. -/
def arity : Flag → Arity
  | .help | .verbose => .none
  | .parameter .uniqueIds => .several
  | _ => .one

/-- The flag with all its spellings, for messages. -/
def title (f : Flag) : String := "/".intercalate f.spellings

/-- The flags by spelling, in the order of their definition. -/
def bySpelling : List (String × Flag) := all.flatMap fun f => f.spellings.map (·, f)

/-- The flag of a spelling. -/
def ofSpelling? (s : String) : Option Flag := bySpelling.lookup s

end Flag

/-! ## Words -/

/-- What a word of the command line is. -/
inductive Word where
  /-- An operand. -/
  | operand (s : String)
  /-- A flag by itself. -/
  | flag (f : Flag)
  /-- A long flag with an operand after an equals sign. -/
  | assigned (f : Flag) (operand : String)
  /-- A short flag with more characters attached to it. -/
  | bundle (f : Flag) (rest : List Char)
  /-- A word that looks like a flag and is none. -/
  | unknown (s : String)
  /-- The word after which there are only operands. -/
  | separator
  deriving DecidableEq, Repr

namespace Word

/-- The texts before and after the first equals sign. -/
def splitEquals? (cs : List Char) : Option (String × String) :=
  match cs.dropWhile (· != '=') with
  | _ :: after => some (String.ofList (cs.takeWhile (· != '=')), String.ofList after)
  | [] => none

/-- Whether a word starts as long flags do. -/
def isLong (s : String) : Bool := "--".toList.isPrefixOf s.toList

/-- A flag written in full, perhaps with something attached to it by an equals sign. -/
def inFull? (s : String) : Option Word :=
  match Flag.ofSpelling? s with
  | some f => some (.flag f)
  | none => do
    let (spelling, value) ← splitEquals? s.toList
    let f ← Flag.ofSpelling? spelling
    return if isLong s then .assigned f value else .bundle f value.toList

/-- The long flags that start as the word does, up to an equals sign. -/
def longStarts (s : String) : List (String × Word) :=
  let starting (start : String) := Flag.bySpelling.filter fun (spelling, _) =>
    start.toList.isPrefixOf spelling.toList
  match splitEquals? s.toList with
  | some (start, value) => (starting start).map fun (t, f) => (t, .assigned f value)
  | none => (starting s).map fun (t, f) => (t, .flag f)

/-- The short flags with which the word starts. -/
def shortStarts (cs : List Char) : List (String × Word) :=
  (Flag.bySpelling.filter fun (spelling, _) => spelling.toList == cs.take 2).map
    fun (spelling, f) => (spelling, .bundle f (cs.drop 2))

/-- The flags that a word may stand for that is not written in full. -/
def candidates (s : String) : List (String × Word) :=
  if isLong s then longStarts s else shortStarts s.toList

/-- A digit of a number, in any script. -/
def isNumeral (c : Char) : Bool := decimalDigits.contains c

/-- A negative number: a minus, then digits with an optional point before the last of them, and
perhaps a line break. -/
def isNegativeNumber (cs : List Char) : Bool :=
  match if cs.getLast? == some '\n' then cs.dropLast else cs with
  | '-' :: r =>
    match r.dropWhile isNumeral with
    | [] => !r.isEmpty
    | '.' :: fraction => !fraction.isEmpty && fraction.all isNumeral
    | _ => false
  | _ => false

/-- The message that a word may stand for several flags. -/
def ambiguous (s : String) (spellings : List String) : String :=
  "ambiguous option: " ++ s ++ " could match " ++ ", ".intercalate spellings

/-- What a word that starts with a hyphen and goes on is. -/
def ofHyphen (s : String) : Except String Word :=
  match inFull? s with
  | some w => .ok w
  | none =>
    match candidates s with
    | [(_, w)] => .ok w
    | [] =>
      if isNegativeNumber s.toList || s.toList.contains ' ' then .ok (.operand s)
      else .ok (.unknown s)
    | several => .error (ambiguous s (several.map (·.1)))

/-- What a word before the separator is. -/
def ofText (s : String) : Except String Word :=
  match s.toList with
  | '-' :: _ :: _ => ofHyphen s
  | _ => .ok (.operand s)

/-- What the words of a command line are. -/
def ofTexts : List String → Except String (List Word)
  | [] => .ok []
  | s :: ss =>
    if s = "--" then .ok (.separator :: ss.map .operand)
    else do
      let w ← ofText s
      let ws ← ofTexts ss
      return w :: ws

end Word

/-! ## Arguments -/

/-- What a command line asks for. -/
structure Arguments where
  /-- The file of settings. -/
  config : Option String := none
  /-- The parameters that are set, in order. -/
  parameters : List (Parameter × Data) := []
  /-- The file for the catalog. -/
  catalog : Option String := none
  /-- Whether all notes are wanted. -/
  verbose : Bool := false
  deriving Inhabited

/-- Why there are no arguments. -/
inductive Refusal where
  /-- The command line asks how the program is used. -/
  | help
  /-- The command line is wrong, for the reason given. -/
  | usage (message : String)
  deriving DecidableEq, Repr

namespace Arguments

/-- The message about a flag. -/
def about (f : Flag) (message : String) : Refusal :=
  .usage ("argument " ++ f.title ++ ": " ++ message)

/-- The refusal of an operand attached to a flag that takes none. -/
def ignored (f : Flag) (operand : String) : Refusal :=
  about f ("ignored explicit argument " ++ quoted operand)

/-- Takes a flag with its operands. A parameter that should have one and has none is set to no value
at all, the empty list. -/
def set (a : Arguments) (f : Flag) (operands : List String) : Except Refusal Arguments :=
  let setTo (p : Parameter) (d : Data) : Except Refusal Arguments :=
    .ok { a with parameters := a.parameters ++ [(p, d)] }
  match f, operands with
  | .help, _ => .error .help
  | .verbose, _ => .ok { a with verbose := true }
  | .config, _ => .ok { a with config := operands.head? }
  | .catalog, _ => .ok { a with catalog := operands.head? }
  | .parameter .uniqueIds, _ => setTo .uniqueIds (.texts operands)
  | .parameter p, operand :: _ => setTo p (.text operand)
  | .parameter p, [] => setTo p (.list [])

/-- The short flags that characters attached to the short flag `f` stand for; each of them must
stand for one. -/
def unbundle (f : Flag) : List Char → Except Refusal (List Flag)
  | [] => .error (ignored f "")
  | c :: cs =>
    match Flag.ofSpelling? (String.ofList ['-', c]) with
    | none => .error (ignored f (String.ofList (c :: cs)))
    | some g => if cs.isEmpty then .ok [g] else (unbundle g cs).map (g :: ·)

/-- Takes flags without operands in turn. -/
def setAll (a : Arguments) (fs : List Flag) : Except Refusal Arguments :=
  fs.foldlM (fun a f => a.set f []) a

/-- Takes a flag with an operand assigned to it; the separator is no operand. -/
def assign (a : Arguments) (f : Flag) (operand : String) : Except Refusal Arguments :=
  match f.arity with
  | .none => .error (ignored f operand)
  | _ => a.set f (if operand = "--" then [] else [operand])

/-- The operands at the start of words. -/
def leadingOperands : List Word → List String
  | .operand s :: ws => s :: leadingOperands ws
  | _ => []

/-- The operands that a flag takes from the words after it. -/
def operandsFor (f : Flag) (ws : List Word) : Except Refusal (List String) :=
  let operands := leadingOperands ws
  match f.arity with
  | .none => .ok []
  | .one =>
    if operands.isEmpty then .error (about f "expected one argument") else .ok (operands.take 1)
  | .several =>
    if operands.isEmpty then .error (about f "expected at least one argument") else .ok operands

/-- Goes through words; collects those that nothing takes. The first `taken` words are operands of
the flag before them. -/
def collect (a : Arguments) : (taken : Nat) → List Word → Except Refusal (Arguments × List String)
  | _, [] => .ok (a, [])
  | taken + 1, _ :: ws => collect a taken ws
  | 0, w :: ws =>
    match w with
    | .operand s | .unknown s => (collect a 0 ws).map fun (a, rest) => (a, s :: rest)
    | .separator => (collect a 0 ws).map fun (a, rest) => (a, "--" :: rest)
    | .assigned f operand => do
      let a ← a.assign f operand
      collect a 0 ws
    | .bundle f cs => do
      let fs ← unbundle f cs
      let a ← a.setAll (f :: fs)
      collect a 0 ws
    | .flag f => do
      let operands ← operandsFor f ws
      let a ← a.set f operands
      collect a operands.length ws

/-- The arguments that the words of a command line give. -/
def ofTexts (texts : List String) : Except Refusal Arguments := do
  let ws ← (Word.ofTexts texts).mapError .usage
  let (a, rest) ← collect {} 0 ws
  if rest.isEmpty then return a
  else throw (.usage ("unrecognized arguments: " ++ " ".intercalate rest))

end Arguments

end SurveyChecks
