import SurveyChecks.Text.Edit

/-!
# Names in paths

The parts of a path between its slashes, the last component of a path, and its stem: the component
without its last extension.
-/

namespace SurveyChecks.PathName

open SurveyChecks.Text

/-- What stands between the slashes of a path; empty parts do not count. -/
def segments (path : String) : List (List Char) := (splitAt '/' path.toList).filter (· != [])

/-- The components of a path: its segments without single points. -/
def components (path : String) : List (List Char) := (segments path).filter (· != ['.'])

/-- Whether a path starts at the root of all directories. -/
def isAbsolute (path : String) : Bool := path.toList.head? == some '/'

/-- A path without what does not count. -/
def plain (path : String) : String :=
  (if isAbsolute path then "/" else "") ++
    "/".intercalate ((components path).map String.ofList)

/-- The last component of a path, empty when there is none. -/
def last (path : String) : List Char := (components path).getLast?.getD []

/-- What stands before the last point of a component, unless nothing stands before or after it. -/
def stemOf (component : List Char) : List Char :=
  let reversed := component.reverse
  let extension := reversed.takeWhile (· != '.')
  match reversed.dropWhile (· != '.') with
  | _ :: stem => if extension.isEmpty || stem.isEmpty then component else stem.reverse
  | [] => component

/-- The last component of a path. -/
def name (path : String) : String := String.ofList (last path)

/-- The last component of a path without its extension. -/
def stem (path : String) : String := String.ofList (stemOf (last path))

/-- What stands before each slash, given the characters `before` in reverse. -/
def ancestorsFrom (before : List Char) : List Char → List String
  | [] => []
  | c :: cs =>
    let further := ancestorsFrom (c :: before) cs
    if c = '/' then String.ofList before.reverse :: further else further

/-- The directories on a path: what stands before each of its slashes. -/
def ancestors (path : String) : List String := (ancestorsFrom [] path.toList).filter (· != "")

end SurveyChecks.PathName
