import SurveyChecks.Text.DecimalSet
import SurveyChecks.Text.Digits
import SurveyChecks.Text.Folding

/-!
# Names of sheets

No two sheets of a workbook have names that differ in case only. A sheet that is added under a taken
name gets a number after its name, one more than the greatest that stands after this name anywhere
in the names before.
-/

namespace SurveyChecks.Workbook

open SurveyChecks.Text

/-- The digits after each place where a name occurs in a text, cases aside; at most `fuel` places are
looked at. The next place is looked for after the digits and a comma that may follow them. -/
def digitsAfter (name : List Char) : (fuel : Nat) → List Char → List (List Char)
  | fuel + 1, c :: cs =>
    if startsFolded name (c :: cs) then
      let rest := (c :: cs).drop name.length
      let digits := rest.takeWhile decimalDigits.contains
      let rest := rest.drop digits.length
      digits :: digitsAfter name fuel (if rest.head? = some ',' then rest.tail else rest)
    else digitsAfter name fuel cs
  | _, _ => []

/-- The name of a sheet beside sheets with the names `taken`. -/
def freeName (taken : List String) (name : String) : String :=
  if taken.any fun n => lower n == lower name then
    let all := (",".intercalate taken).toList
    match digitsAfter name.toList (all.length + 1) all with
    | [] => name
    | found =>
      let numbers := (found.filter (!·.isEmpty)).map fun ds => decimalValue (ds.map asciiDigit)
      name ++ toString (numbers.foldl max 0 + 1)
  else name

end SurveyChecks.Workbook
