/-
# Graft.Regex.Fault -- why a pattern or a template is refused

A refusal names its cause and, nearly always, the place in the pattern or template.  The wording of all of
them is here: the cause, the offset, and for a pattern of several lines also the line and column.
-/
import Graft.Text.Integer

namespace Graft.Regex

set_option autoImplicit false

open Graft.Text

/-- What is wrong with a pattern or a template. -/
inductive Cause where
  | danglingBackslash
  | incompleteEscape (escape : Text)
  | badEscape (escape : Text)
  | octalTooLarge (escape : Text)
  | missing (what : String)
  | unterminatedName (closing : Char)
  | unterminatedComment
  | unterminatedGroup
  | unterminatedSet
  | unexpectedEnd
  | undefinedCharacter (name : Text)
  | badRange (low high : Text)
  | boundsReversed
  | nothingToRepeat
  | repeatedTwice
  | openGroup
  | groupInSameLookbehind
  | noSuchGroup (index : Nat)
  | badGroupName (name : Text)
  | unknownGroup (name : Text)
  | groupDefinedTwice (name : Text) (index first : Nat)
  | groupNumberZero
  | thirdBranch
  | unknownExtension (sign : Text)
  | lateFlags
  | localeFlag
  | clashingTypes
  | unknownFlag
  | globalFlagOn
  | globalFlagOff
  | typeFlagOff
  | flagOnAndOff
  | unbalanced
  | lookbehindTooLong
  | lookbehindWidth
  | repeatInTemplate (greed : String)
  deriving DecidableEq, Repr

def Cause.message : Cause → String
  | .danglingBackslash => "bad escape (end of pattern)"
  | .incompleteEscape e => s!"incomplete escape {str e}"
  | .badEscape e => s!"bad escape {str e}"
  | .octalTooLarge e => s!"octal escape value {str e} outside of range 0-0o377"
  | .missing what => s!"missing {what}"
  | .unterminatedName closing => s!"missing {closing}, unterminated name"
  | .unterminatedComment => "missing ), unterminated comment"
  | .unterminatedGroup => "missing ), unterminated subpattern"
  | .unterminatedSet => "unterminated character set"
  | .unexpectedEnd => "unexpected end of pattern"
  | .undefinedCharacter name => s!"undefined character name {str (quoted name)}"
  | .badRange low high => s!"bad character range {str low}-{str high}"
  | .boundsReversed => "min repeat greater than max repeat"
  | .nothingToRepeat => "nothing to repeat"
  | .repeatedTwice => "multiple repeat"
  | .openGroup => "cannot refer to an open group"
  | .groupInSameLookbehind => "cannot refer to group defined in the same lookbehind subpattern"
  | .noSuchGroup index => s!"invalid group reference {index}"
  | .badGroupName name => s!"bad character in group name {str (quoted name)}"
  | .unknownGroup name => s!"unknown group name {str (quoted name)}"
  | .groupDefinedTwice name index first =>
    s!"redefinition of group name {str (quoted name)} as group {index}; was group {first}"
  | .groupNumberZero => "bad group number"
  | .thirdBranch => "conditional backref with more than two branches"
  | .unknownExtension sign => s!"unknown extension ?{str sign}"
  | .lateFlags => "global flags not at the start of the expression"
  | .localeFlag => "bad inline flags: cannot use 'L' flag with a str pattern"
  | .clashingTypes => "bad inline flags: flags 'a', 'u' and 'L' are incompatible"
  | .unknownFlag => "unknown flag"
  | .globalFlagOn => "bad inline flags: cannot turn on global flag"
  | .globalFlagOff => "bad inline flags: cannot turn off global flag"
  | .typeFlagOff => "bad inline flags: cannot turn off flags 'a', 'u' and 'L'"
  | .flagOnAndOff => "bad inline flags: flag turned on and off"
  | .unbalanced => "unbalanced parenthesis"
  | .lookbehindTooLong => "looks too much behind"
  | .lookbehindWidth => "look-behind requires fixed-width pattern"
  | .repeatInTemplate greed => s!"internal: unsupported template operator {greed}"

/-- An offset in the pattern or template that is read. -/
structure Spot where
  source : Text
  offset : Nat
  deriving DecidableEq, Repr

/-- The offset, and the line and column if the source has several lines. -/
def Spot.message (s : Spot) : String :=
  let before := s.source.take s.offset
  let line := countChar '\n' before + 1
  let column := (before.reverse.takeWhile (· != '\n')).length + 1
  if s.source.contains '\n' then s!" at position {s.offset} (line {line}, column {column})"
  else s!" at position {s.offset}"

/-- Why a pattern cannot be compiled, a match cannot be had or a template cannot be expanded.  Which patterns are
nested too deep depends on the stack of calls that is left, so `compile` says it of none. -/
inductive Fault where
  | malformed (cause : Cause) (spot : Option Spot)
  | clashingModes
  | repetitionTooLarge
  | codeTooLarge
  | number (fault : IntegerFault)
  | unknownName (name : Text)
  | tooDeep
  | crossedGroup
  deriving DecidableEq, Repr

def Fault.message : Fault → String
  | .malformed cause none => cause.message
  | .malformed cause (some spot) => cause.message ++ spot.message
  | .clashingModes => "ASCII and UNICODE flags are incompatible"
  | .repetitionTooLarge => "the repetition number is too large"
  | .codeTooLarge => "Python int too large to convert to C int"
  | .number fault => fault.message
  | .unknownName name => s!"unknown group name {str (quoted name)}"
  | .tooDeep => "maximum recursion depth exceeded"
  | .crossedGroup => "The span of capturing group is wrong, please report a bug for the re module."

end Graft.Regex
