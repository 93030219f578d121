import StubGraft.Text.Lines
import StubGraft.Text.Quoted

/-!
# Errors in patterns

What can be wrong with the text of a pattern, and the wording of it.
-/

namespace StubGraft.Pattern

/-- What is wrong with a pattern. -/
inductive Problem where
  /-- A backslash ends the pattern. -/
  | danglingEscape
  /-- An escape means nothing. -/
  | badEscape (escape : Text)
  /-- An escape has too few digits. -/
  | incompleteEscape (escape : Text)
  /-- An octal escape is too great. -/
  | octalRange (escape : Text)
  /-- No brace follows the escape of a named character. -/
  | missingBrace
  /-- No character has this name. -/
  | unknownCharacter (name : Text)
  /-- A set of characters is not closed. -/
  | unterminatedSet
  /-- A range of characters has no or no right ends. -/
  | badRange (low high : Text)
  /-- A repetition stands after nothing. -/
  | nothingToRepeat
  /-- A repetition stands after a repetition. -/
  | multipleRepeat
  /-- The bounds of a repetition are in the wrong order. -/
  | repeatOrder
  /-- A group is not closed. -/
  | unterminatedGroup
  /-- No group is open. -/
  | unbalancedGroup
  /-- A comment is not closed. -/
  | unterminatedComment
  /-- The pattern ends inside the opening of a group. -/
  | unexpectedEnd
  /-- A group of this kind does not exist. -/
  | unknownExtension (text : Text)
  /-- A name is empty. -/
  | missingName (what : String)
  /-- A name is not closed. -/
  | unterminatedName (closer : Char)
  /-- A name is no identifier. -/
  | badName (name : Text)
  /-- A name is given to a second group. -/
  | repeatedName (name : Text) (group earlier : Nat)
  /-- No group has this name. -/
  | unknownName (name : Text)
  /-- A group is referred to inside itself. -/
  | openGroup
  /-- A group is referred to inside the look-behind that holds it. -/
  | sameLookbehind
  /-- A condition is on group zero. -/
  | badGroupNumber
  /-- No group has this number. -/
  | unknownGroup (index : Nat)
  /-- A condition has a third branch. -/
  | thirdBranch
  /-- Flags for the whole pattern stand after its start. -/
  | lateFlags
  /-- A letter is no flag. -/
  | unknownFlag
  /-- No flag follows a minus sign. -/
  | missingFlag
  /-- Flags are not closed. -/
  | missingFlagEnd
  /-- Flags that are turned off are not closed. -/
  | missingColon
  /-- Locales are for bytes only. -/
  | localeFlag
  /-- Two flags exclude each other. -/
  | incompatibleFlags
  /-- A flag of the whole pattern is turned on for a group. -/
  | globalFlagOn
  /-- A flag of the whole pattern is turned off for a group. -/
  | globalFlagOff
  /-- A flag that can only be turned on is turned off. -/
  | fixedFlagOff
  /-- A flag is turned on and off. -/
  | flagOnAndOff
  /-- The pattern is for ASCII and for Unicode. -/
  | asciiAndUnicode
  /-- A look-behind has no fixed width. -/
  | variableLookbehind
  /-- The bound of a repetition has too many digits to be read. -/
  | unreadableBound (message : String)
  deriving DecidableEq, Repr

/-- The wording of a problem. -/
def Problem.message : Problem → String
  | .danglingEscape => "bad escape (end of pattern)"
  | .badEscape escape => "bad escape " ++ escape.toStr
  | .incompleteEscape escape => "incomplete escape " ++ escape.toStr
  | .octalRange escape => "octal escape value " ++ escape.toStr ++ " outside of range 0-0o377"
  | .missingBrace => "missing \x7b"
  | .unknownCharacter name => "undefined character name " ++ name.quoted.toStr
  | .unterminatedSet => "unterminated character set"
  | .badRange low high => "bad character range " ++ low.toStr ++ "-" ++ high.toStr
  | .nothingToRepeat => "nothing to repeat"
  | .multipleRepeat => "multiple repeat"
  | .repeatOrder => "min repeat greater than max repeat"
  | .unterminatedGroup => "missing ), unterminated subpattern"
  | .unbalancedGroup => "unbalanced parenthesis"
  | .unterminatedComment => "missing ), unterminated comment"
  | .unexpectedEnd => "unexpected end of pattern"
  | .unknownExtension text => "unknown extension ?" ++ text.toStr
  | .missingName what => "missing " ++ what
  | .unterminatedName closer => "missing " ++ closer.toString ++ ", unterminated name"
  | .badName name => "bad character in group name " ++ name.quoted.toStr
  | .repeatedName name group earlier =>
    "redefinition of group name " ++ name.quoted.toStr ++ " as group " ++ toString group ++
      "; was group " ++ toString earlier
  | .unknownName name => "unknown group name " ++ name.quoted.toStr
  | .openGroup => "cannot refer to an open group"
  | .sameLookbehind => "cannot refer to group defined in the same lookbehind subpattern"
  | .badGroupNumber => "bad group number"
  | .unknownGroup index => "invalid group reference " ++ toString index
  | .thirdBranch => "conditional backref with more than two branches"
  | .lateFlags => "global flags not at the start of the expression"
  | .unknownFlag => "unknown flag"
  | .missingFlag => "missing flag"
  | .missingFlagEnd => "missing -, : or )"
  | .missingColon => "missing :"
  | .localeFlag => "bad inline flags: cannot use 'L' flag with a str pattern"
  | .incompatibleFlags => "bad inline flags: flags 'a', 'u' and 'L' are incompatible"
  | .globalFlagOn => "bad inline flags: cannot turn on global flag"
  | .globalFlagOff => "bad inline flags: cannot turn off global flag"
  | .fixedFlagOff => "bad inline flags: cannot turn off flags 'a', 'u' and 'L'"
  | .flagOnAndOff => "bad inline flags: flag turned on and off"
  | .asciiAndUnicode => "ASCII and UNICODE flags are incompatible"
  | .variableLookbehind => "look-behind requires fixed-width pattern"
  | .unreadableBound message => message

/-- Why a text is no pattern. -/
inductive Fault where
  /-- A problem, at a position or in the whole. -/
  | invalid (problem : Problem) (position : Option Nat)
  /-- The bound of a repetition is too great. -/
  | repetitionTooLarge
  /-- Its groups nest too deeply for the stack. -/
  | tooDeep
  deriving DecidableEq, Repr

/-- The wording of a fault: the problem, its position, and in a pattern of several lines its line
and column. -/
def Fault.message (source : Text) : Fault → String
  | .invalid problem none => problem.message
  | .invalid problem (some position) =>
    let (line, column) := source.lineColumn position
    let place := problem.message ++ " at position " ++ toString position
    if source.contains '\n' then
      place ++ " (line " ++ toString line ++ ", column " ++ toString column ++ ")"
    else place
  | .repetitionTooLarge => "the repetition number is too large"
  | .tooDeep => "maximum recursion depth exceeded"

end StubGraft.Pattern
