import SurveyChecks.Text.Lowercase

/-!
# Case folding

When two characters differ in case only: they have the same small form, or their small forms are
variants of one letter. Characters are compared one by one, so a letter whose small form has two
characters is taken by itself.
-/

namespace SurveyChecks.Text

/-- Small letters that are variants of another one, which they share their capital with. -/
def letterVariants : List (Char × Char) :=
  [('\u0131', 'i'), ('\u017F', 's'), ('\u00B5', '\u03BC'), ('\u0345', '\u03B9'),
    ('\u1FBE', '\u03B9'), ('\u1FD3', '\u0390'), ('\u1FE3', '\u03B0'), ('\u03D0', '\u03B2'),
    ('\u03F5', '\u03B5'), ('\u03D1', '\u03B8'), ('\u03F0', '\u03BA'), ('\u03D6', '\u03C0'),
    ('\u03F1', '\u03C1'), ('\u03C2', '\u03C3'), ('\u03D5', '\u03C6'), ('\u1C80', '\u0432'),
    ('\u1C81', '\u0434'), ('\u1C82', '\u043E'), ('\u1C83', '\u0441'), ('\u1C84', '\u0442'),
    ('\u1C85', '\u0442'), ('\u1C86', '\u044A'), ('\u1C87', '\u0463'), ('\u1C88', '\uA64B'),
    ('\u1E9B', '\u1E61'), ('\uFB05', '\uFB06')]

/-- The small form of a character by itself, of one character. -/
def simpleLower (c : Char) : Char :=
  if c = '\u03A3' then '\u03C3' else if c = '\u0130' then 'i' else lowerChar c

/-- The character that stands for all those that differ from `c` in case only. -/
def folded (c : Char) : Char := (letterVariants.lookup (simpleLower c)).getD (simpleLower c)

/-- Whether a text starts with another one, cases aside. -/
def startsFolded (start cs : List Char) : Bool := (start.map folded).isPrefixOf (cs.map folded)

end SurveyChecks.Text
