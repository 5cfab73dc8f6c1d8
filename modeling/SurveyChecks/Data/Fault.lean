/-!
# Faults of values

What goes wrong when a value read from outside is not of the kind that an operation needs.
-/

namespace SurveyChecks

/-- Why a value does not serve an operation. -/
inductive DataFault where
  /-- A map was needed. -/
  | notAMap
  /-- A text was needed where a text is to be changed. -/
  | notAText
  /-- A text was needed where texts are put together. -/
  | notJoinable
  /-- A value with items was needed. -/
  | notIterable
  /-- A date, a time or bytes stood where a text is to be changed. -/
  | notReplaceable
  /-- A scalar was needed as the key of a map. -/
  | notAKey
  /-- A map has no first item. -/
  | noFirstItem
  /-- The first item of a set was needed, whose elements have no order. -/
  | unordered
  /-- The keys of a map cannot be put in order. -/
  | keysNotOrdered
  /-- A format has no form for a value. -/
  | notWritable
  /-- The path of a file was needed. -/
  | notAPath
  /-- The numeral of an integer is too long to be written. -/
  | numeralTooLong
  /-- A collection that contains itself was to be written. -/
  | endless
  /-- Collections are nested too deep, or two that contain themselves were compared without end. -/
  | tooDeep
  deriving DecidableEq, Repr

end SurveyChecks
