import SurveyChecks.Yaml.Error

/-!
# Tokens

The pieces of a YAML text between which its structure lies. Where only the indentation tells that a
collection starts or ends there is a token for it all the same.
-/

namespace SurveyChecks.Yaml

/-- A line that says something about the document after it. -/
inductive Directive where
  /-- The version of the format. -/
  | version (major : Nat)
  /-- A short name for the start of tags. -/
  | handle (name start : String)
  /-- Any other. -/
  | other
  deriving DecidableEq, Repr

/-- A piece of a YAML text. -/
inductive Token where
  /-- A directive. -/
  | directive (d : Directive)
  /-- The line that starts a document. -/
  | documentStart
  /-- The line that ends a document. -/
  | documentEnd
  /-- The end of the text. -/
  | streamEnd
  /-- The place from which on the text cannot be read. -/
  | fault (e : ReadError)
  /-- The start of a sequence by indentation. -/
  | sequenceStart
  /-- The start of a mapping by indentation. -/
  | mappingStart
  /-- The end of a collection by indentation. -/
  | blockEnd
  /-- An opening bracket. -/
  | openBracket
  /-- A closing bracket. -/
  | closeBracket
  /-- An opening brace. -/
  | openBrace
  /-- A closing brace. -/
  | closeBrace
  /-- The hyphen before an item. -/
  | item
  /-- A comma. -/
  | comma
  /-- What precedes a key: a question mark, or nothing that is written. -/
  | key
  /-- The colon before a value. -/
  | value
  /-- A reference to an anchored node. -/
  | alias (name : String)
  /-- A name for the node after it. -/
  | anchor (name : String)
  /-- A tag: its handle, if it has one, and the rest. -/
  | tag (handle : Option String) (suffix : String)
  /-- The text of a scalar, and whether it stands without quotes. -/
  | scalar (text : String) (plain : Bool)
  deriving DecidableEq, Repr, Inhabited

end SurveyChecks.Yaml
