import ServiceDiagram.Number.IntText
import ServiceDiagram.Text.Quoted

namespace ServiceDiagram.Pattern

/-- Why the text of a pattern cannot be read. -/
inductive Cause where
  | endInEscape
  | badEscape (escape : String)
  | incompleteEscape (escape : String)
  | octalTooLarge (escape : String)
  | missingBrace
  | missingName (what : String)
  | openName (terminator : Char)
  | undefinedCharacterName (name : String)
  | openGroupReference
  | lookbehindReference
  | unknownGroup (number : Nat)
  | unterminatedSet
  | badRange (low high : String)
  | reversedRepeat
  | nothingToRepeat
  | multipleRepeat
  | endOfPattern
  | badGroupName (name : String)
  | unknownGroupName (name : String)
  | redefinedGroup (name : String) (number earlier : Nat)
  | unknownExtension (text : String)
  | openComment
  | openGroup
  | badGroupNumber
  | thirdBranch
  | lateGlobalFlags
  | localeFlag
  | charsetFlags
  | missingFlagEnd
  | unknownFlag
  | globalFlagOn
  | missingFlag
  | charsetFlagOff
  | missingColon
  | globalFlagOff
  | flagOnAndOff
  | unbalancedParenthesis
  | lookbehindTooWide
  | lookbehindWidth
  | templateLoop (operator : String)
  deriving DecidableEq, Repr

def Cause.message : Cause → String
  | endInEscape => "bad escape (end of pattern)"
  | badEscape escape => "bad escape " ++ escape
  | incompleteEscape escape => "incomplete escape " ++ escape
  | octalTooLarge escape => "octal escape value " ++ escape ++ " outside of range 0-0o377"
  | missingBrace => "missing \x7b"
  | missingName what => "missing " ++ what
  | openName terminator => "missing " ++ String.singleton terminator ++ ", unterminated name"
  | undefinedCharacterName name => "undefined character name " ++ Text.quoted name
  | openGroupReference => "cannot refer to an open group"
  | lookbehindReference => "cannot refer to group defined in the same lookbehind subpattern"
  | unknownGroup number => "invalid group reference " ++ intText number
  | unterminatedSet => "unterminated character set"
  | badRange low high => "bad character range " ++ low ++ "-" ++ high
  | reversedRepeat => "min repeat greater than max repeat"
  | nothingToRepeat => "nothing to repeat"
  | multipleRepeat => "multiple repeat"
  | endOfPattern => "unexpected end of pattern"
  | badGroupName name => "bad character in group name " ++ Text.quoted name
  | unknownGroupName name => "unknown group name " ++ Text.quoted name
  | redefinedGroup name number earlier =>
    "redefinition of group name " ++ Text.quoted name ++ " as group " ++ intText number ++
      "; was group " ++ intText earlier
  | unknownExtension text => "unknown extension " ++ text
  | openComment => "missing ), unterminated comment"
  | openGroup => "missing ), unterminated subpattern"
  | badGroupNumber => "bad group number"
  | thirdBranch => "conditional backref with more than two branches"
  | lateGlobalFlags => "global flags not at the start of the expression"
  | localeFlag => "bad inline flags: cannot use 'L' flag with a str pattern"
  | charsetFlags => "bad inline flags: flags 'a', 'u' and 'L' are incompatible"
  | missingFlagEnd => "missing -, : or )"
  | unknownFlag => "unknown flag"
  | globalFlagOn => "bad inline flags: cannot turn on global flag"
  | missingFlag => "missing flag"
  | charsetFlagOff => "bad inline flags: cannot turn off flags 'a', 'u' and 'L'"
  | missingColon => "missing :"
  | globalFlagOff => "bad inline flags: cannot turn off global flag"
  | flagOnAndOff => "bad inline flags: flag turned on and off"
  | unbalancedParenthesis => "unbalanced parenthesis"
  | lookbehindTooWide => "looks too much behind"
  | lookbehindWidth => "look-behind requires fixed-width pattern"
  | templateLoop operator => "internal: unsupported template operator " ++ operator

/-- A fault in a pattern: a cause, with its place if it has one, or one of the two that are not
about the pattern's form, a count beyond the machine's range and contradictory flags. -/
inductive Fault where
  | malformed (cause : Cause) (place : Option Nat)
  | countTooLarge
  | contradictoryFlags
  deriving DecidableEq, Repr

/-- The place in a pattern; in one of several lines also by line and column. -/
def placeText (pattern : List Char) (place : Nat) : String :=
  let before := pattern.take place
  let position := " at position " ++ intText place
  if pattern.contains '\n' then
    let line := before.count '\n' + 1
    let column := (before.reverse.takeWhile (· ≠ '\n')).length + 1
    position ++ " (line " ++ intText line ++ ", column " ++ intText column ++ ")"
  else position

def Fault.message (pattern : List Char) : Fault → String
  | malformed cause (some place) => cause.message ++ placeText pattern place
  | malformed cause none => cause.message
  | countTooLarge => "the repetition number is too large"
  | contradictoryFlags => "ASCII and UNICODE flags are incompatible"

end ServiceDiagram.Pattern
