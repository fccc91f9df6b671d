import ServiceDiagram.Number.IntText

namespace ServiceDiagram.Json

inductive Cause where
  | byteOrderMark
  | extraData
  | noValue
  | noPropertyName
  | noColon
  | noComma
  | controlCharacter
  | openString
  | badEscape
  | badUnicodeEscape
  deriving DecidableEq, Repr

def Cause.message : Cause → String
  | .byteOrderMark => "Unexpected UTF-8 BOM (decode using utf-8-sig)"
  | .extraData => "Extra data"
  | .noValue => "Expecting value"
  | .noPropertyName => "Expecting property name enclosed in double quotes"
  | .noColon => "Expecting ':' delimiter"
  | .noComma => "Expecting ',' delimiter"
  | .controlCharacter => "Invalid control character at"
  | .openString => "Unterminated string starting at"
  | .badEscape => "Invalid \\escape"
  | .badUnicodeEscape => "Invalid \\uXXXX escape"

/-- A fault: of syntax, with the length of the text from there on, which does not depend on what
came before, or an integer with too many digits. -/
inductive ReadError where
  | malformed (cause : Cause) (left : Nat)
  | tooManyDigits (digits : Nat)
  deriving DecidableEq, Repr

/-- The line on which the text of a given length begins inside a whole text. -/
def lineOf (whole : List Char) (left : Nat) : Nat :=
  (whole.take (whole.length - left)).count '\n' + 1

end ServiceDiagram.Json
