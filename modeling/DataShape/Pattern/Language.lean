/-!
# Languages of patterns

A pattern is a text in a language of its own. What a schema needs of the language is little: which
texts are patterns, what is wrong with the others, and which texts a pattern is found in. This is a
`PatternLanguage`, and all that is said of schemas is said for every one of them.
-/

namespace DataShape

/-- A language of patterns. -/
class PatternLanguage where
  /-- Reads a pattern: in which texts it is found, or why the text is no pattern. -/
  read : String → Except String (String → Bool)

/-- A pattern that has been read. -/
structure Pattern where
  source : String
  /-- The pattern is found somewhere in the text. -/
  isMatch : String → Bool

/-- The pattern that a text spells, or why it spells none. -/
def Pattern.ofString [PatternLanguage] (source : String) : Except String Pattern :=
  (PatternLanguage.read source).map fun isMatch => { source, isMatch }

/-- A pattern that has been read is found where its source says. -/
theorem Pattern.read_of_ofString [PatternLanguage] (p : Pattern) (source : String)
    (h : ofString source = .ok p) : PatternLanguage.read p.source = .ok p.isMatch := by
  unfold ofString at h
  cases hread : PatternLanguage.read source with
  | error reason =>
    rw [hread] at h
    cases h
  | ok isMatch =>
    rw [hread] at h
    cases h
    exact hread

end DataShape
