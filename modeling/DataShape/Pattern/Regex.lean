import DataShape.Pattern.Language
import DataShape.Pattern.Reader

/-!
# Regular expressions as a language of patterns

The language in which the program reads its patterns: texts that spell regular expressions.
-/

namespace DataShape

/-- The wording of a reason why a text is not a pattern. -/
def PatternError.message : PatternError → String
  | trailingBackslash => "a backslash at the end"
  | unknownEscape c => s!"no escape is spelled with '{c}'"
  | backreference => "backreferences are not supported"
  | unknownProperty => "unknown property of characters"
  | malformedCode => "malformed code of a character"
  | noSuchCharacter code => s!"no character has the code {code}"
  | unopenedGroup => "unopened group"
  | unclosedGroup => "unclosed group"
  | malformedGroup => "malformed group"
  | groupNameTaken name => s!"two groups are called '{name}'"
  | malformedFlags => "malformed flags"
  | nothingToRepeat => "nothing to repeat"
  | malformedCount => "malformed count of repetitions"
  | unclosedSet => "unclosed set"
  | reversedRange => "a range ends before it begins"
  | notInSet => "not allowed in a set"
  | tooDeep => "too deeply nested"
  | tooLarge => "too large"

instance : PatternLanguage where
  read source :=
    match Regex.ofString source with
    | .ok regex => .ok fun text => regex.search text.toList
    | .error e => .error e.message

end DataShape
