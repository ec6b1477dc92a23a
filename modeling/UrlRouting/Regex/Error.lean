/-!
# What can be wrong with a search pattern

One constructor a cause, and the wording of each in `message`.
-/

namespace UrlRouting.Regex

/-- Why a text is no search pattern. -/
inductive SyntaxError where
  | tooMuchNesting
  | duplicateGroupName
  | unclosedGroup
  | unclosedGroupQuestion
  | unopenedGroup
  | lookAround
  | emptyFlags
  | missingGroupName
  | invalidGroupName
  | unclosedGroupName
  | emptyGroupName
  | unknownFlag
  | repeatedFlagNegation
  | duplicateFlag
  | unclosedFlags
  | danglingFlagNegation
  | missingNumber
  | invalidNumber
  | invalidHexDigitInBraces
  | unclosedHexBraces
  | emptyHexBraces
  | invalidHexInBraces
  | truncatedFixedHex
  | invalidFixedHexDigit
  | invalidFixedHex
  | truncatedHex
  | truncatedEscape
  | backreference
  | unicodeClass
  | unknownEscape
  | nothingToRepeat
  | nothingToCount
  | unclosedCount
  | unclosedCountMin
  | unclosedCountComma
  | unclosedCountMinMax
  | invalidCount
  | invalidCountRange
  | unclosedClass
  | unclosedClassAfterItem
  | unclosedClassAfterNegation
  | unclosedClassAfterDash
  | unclosedClassAfterBracket
  | invalidClassRangeItem
  | invalidClassItem
  | invalidClassRange
  | nestedClass
  | classIntersection
  | classDifference
  | classSymmetricDifference
  | unclosedWordBoundary
  | unknownWordBoundary
  | truncatedWordBoundary
  | tooBig
deriving Repr, DecidableEq

namespace SyntaxError

/-- The wording of an error. -/
def message : SyntaxError → String
  | tooMuchNesting => "pattern has too much nesting"
  | duplicateGroupName => "duplicate capture group name"
  | unclosedGroup => "found open group without closing ')'"
  | unclosedGroupQuestion => "expected closing ')', but got end of pattern"
  | unopenedGroup => "found closing ')' without matching '('"
  | lookAround => "look-around is not supported"
  | emptyFlags => "empty flag directive '(?)' is not allowed"
  | missingGroupName => "expected capture group name, but got end of pattern"
  | invalidGroupName => "invalid group name"
  | unclosedGroupName => "expected end of capture group name, but got end of pattern"
  | emptyGroupName => "empty capture group names are not allowed"
  | unknownFlag => "unrecognized inline flag"
  | repeatedFlagNegation => "inline flag negation cannot be repeated"
  | duplicateFlag => "duplicate inline flag is not allowed"
  | unclosedFlags => "expected ':' or ')' to end inline flags, but got end of pattern"
  | danglingFlagNegation => "inline flags cannot end with negation directive"
  | missingNumber => "expected decimal number, but found no digits"
  | invalidNumber => "got invalid decimal number"
  | invalidHexDigitInBraces => "expected hexadecimal number in braces, but got non-hex digit"
  | unclosedHexBraces =>
    "expected hexadecimal number, but saw end of pattern before closing brace"
  | emptyHexBraces => "expected hexadecimal number in braces, but got no digits"
  | invalidHexInBraces => "got invalid hexadecimal number in braces"
  | truncatedFixedHex => "expected fixed length hexadecimal number, but saw end of pattern first"
  | invalidFixedHexDigit => "expected fixed length hexadecimal number, but got non-hex digit"
  | invalidFixedHex => "got invalid fixed length hexadecimal number"
  | truncatedHex => "expected hexadecimal number, but saw end of pattern first"
  | truncatedEscape =>
    "saw start of escape sequence, but saw end of pattern before it finished"
  | backreference => "backreferences are not supported"
  | unicodeClass => "Unicode character classes are not supported"
  | unknownEscape => "unrecognized escape sequence"
  | nothingToRepeat => "uncounted repetition operator must be applied to a sub-expression"
  | nothingToCount => "counted repetition operator must be applied to a sub-expression"
  | unclosedCount => "found unclosed counted repetition operator"
  | unclosedCountMin => "found incomplete and unclosed counted repetition operator"
  | unclosedCountComma => "found counted repetition operator with a comma that is unclosed"
  | unclosedCountMinMax => "found counted repetition with min and max that is unclosed"
  | invalidCount => "expected closing brace for counted repetition, but got something else"
  | invalidCountRange => "found counted repetition with a min bigger than its max"
  | unclosedClass => "character class has no closing bracket"
  | unclosedClassAfterItem => "non-empty character class has no closing bracket"
  | unclosedClassAfterNegation => "negated character class has no closing bracket"
  | unclosedClassAfterDash => "non-empty character class has no closing bracket after dash"
  | unclosedClassAfterBracket =>
    "character class begins with literal ']' but has no closing bracket"
  | invalidClassRangeItem =>
    "character class ranges must start and end with a single character"
  | invalidClassItem => "invalid escape sequence in character class"
  | invalidClassRange => "character class ranges must be [a-b] where a <= b"
  | nestedClass => "nested character classes are not supported"
  | classIntersection => "character class intersection is not supported"
  | classDifference => "character class difference is not supported"
  | classSymmetricDifference => "character class symmetric difference is not supported"
  | unclosedWordBoundary => "special word boundary assertion is unclosed or has an invalid character"
  | unknownWordBoundary => "special word boundary assertion is unrecognized"
  | truncatedWordBoundary =>
    "found start of special word boundary or repetition without an end"
  | tooBig => "compiled regex exceeds size limit"

end SyntaxError

end UrlRouting.Regex
