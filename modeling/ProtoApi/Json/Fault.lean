namespace ProtoApi.Json

/-!
# Faults of a JSON text

* `Fault` — where and how a text stops being JSON;
* `Fault.text` — the wording for a part that is being decoded;
* `Fault.skippedText` — the wording for a part that is only passed over. It differs where passing
  over asks a coarser question: after a comma it looks for the next item or key at once, and it does
  not tell why a number is cut short.
-/

/-- Where and how a text stops being JSON. -/
inductive Fault where
  /-- The text ends where a value must begin. -/
  | endInValue
  /-- The text ends inside an array, before a comma. -/
  | endInList
  /-- The text ends inside an array, after a comma. -/
  | endAfterItemComma
  /-- The text ends inside an object, before a comma. -/
  | endInObject
  /-- The text ends inside an object, after a comma. -/
  | endAfterMemberComma
  | endInString
  | endInNumber
  | expectedValue
  | misspeltLiteral
  /-- The text ends inside a literal. -/
  | endInLiteral
  | expectedColon
  | expectedCommaOrBracket
  | expectedCommaOrBrace
  | commaBeforeBracket
  | commaBeforeBrace
  | keyNotString
  | malformedNumber
  | numberTooLarge
  /-- A backslash before a character that it does not go with. -/
  | unknownEscape
  /-- A numeric escape without four hexadecimal digits. -/
  | malformedUnit
  /-- The first half of a surrogate pair without a second escape after it. -/
  | pairCutShort
  /-- A half of a surrogate pair in the wrong place. -/
  | unpairedSurrogate
  | controlCharacter
  | trailingCharacters
  | tooDeep
deriving DecidableEq, Repr

namespace Fault

/-- The wording of a fault in a part of the text that is being decoded. -/
def text : Fault → String
  | endInValue => "EOF while parsing a value"
  | endInList => "EOF while parsing a list"
  | endAfterItemComma => "EOF while parsing a value"
  | endInObject => "EOF while parsing an object"
  | endAfterMemberComma => "EOF while parsing a value"
  | endInString => "EOF while parsing a string"
  | endInNumber => "EOF while parsing a value"
  | expectedValue => "expected value"
  | misspeltLiteral => "expected ident"
  | endInLiteral => "EOF while parsing a value"
  | expectedColon => "expected `:`"
  | expectedCommaOrBracket => "expected `,` or `]`"
  | expectedCommaOrBrace => "expected `,` or `\x7d`"
  | commaBeforeBracket => "trailing comma"
  | commaBeforeBrace => "trailing comma"
  | keyNotString => "key must be a string"
  | malformedNumber => "invalid number"
  | numberTooLarge => "number out of range"
  | unknownEscape => "invalid escape"
  | malformedUnit => "invalid escape"
  | pairCutShort => "unexpected end of hex escape"
  | unpairedSurrogate => "lone leading surrogate in hex escape"
  | controlCharacter => "control character (\\u0000-\\u001F) found while parsing a string"
  | trailingCharacters => "trailing characters"
  | tooDeep => "recursion limit exceeded"

/-- The wording of a fault in a part of the text that is only passed over. -/
def skippedText : Fault → String
  | endAfterMemberComma => endInObject.text
  | endInNumber => malformedNumber.text
  | commaBeforeBracket => expectedValue.text
  | commaBeforeBrace => keyNotString.text
  | f => f.text

end Fault

end ProtoApi.Json
