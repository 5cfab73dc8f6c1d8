/-!
# Small edits of texts

Deleting characters, replacing characters, replacing the first occurrence of one, lines and their
ends.
-/

namespace SurveyChecks.Text

/-- The text without the characters that satisfy `p`. -/
def without (p : Char → Bool) (s : String) : String := String.ofList (s.toList.filter (!p ·))

/-- The text with every `a` replaced by `b`. -/
def replaceChar (a b : Char) (s : String) : String :=
  String.ofList (s.toList.map fun c => if c = a then b else c)

/-- Replaces the first `a` by `b`. -/
def replaceFirstIn (a b : Char) : List Char → List Char
  | [] => []
  | c :: cs => if c = a then b :: cs else c :: replaceFirstIn a b cs

/-- The text with its first `a` replaced by `b`. -/
def replaceFirst (a b : Char) (s : String) : String := String.ofList (replaceFirstIn a b s.toList)

/-- The pieces between the occurrences of `sep`; there is always at least one. -/
def splitAt (sep : Char) : List Char → List (List Char)
  | [] => [[]]
  | c :: cs =>
    if c = sep then [] :: splitAt sep cs
    else
      match splitAt sep cs with
      | [] => [[c]]
      | w :: ws => (c :: w) :: ws

/-- The lines of a text: the pieces between its line feeds. -/
def lines (s : String) : List String := (splitAt '\n' s.toList).map String.ofList

/-- The characters with every line ended by a line feed. -/
def lineFeeds : List Char → List Char
  | '\r' :: '\n' :: cs => '\n' :: lineFeeds cs
  | '\r' :: cs => '\n' :: lineFeeds cs
  | c :: cs => c :: lineFeeds cs
  | [] => []

theorem splitAt_ne_nil (sep : Char) (cs : List Char) : splitAt sep cs ≠ [] := by
  cases cs with
  | nil => simp [splitAt]
  | cons c cs =>
    rw [splitAt]
    split
    · simp
    · split <;> simp

end SurveyChecks.Text
