import ClassPurge.Number.Spelled

/-!
Why a pattern cannot be read. A fault is told with the place in the pattern where it was found,
and with line and column if the pattern has several lines.
-/

namespace ClassPurge.Pattern

inductive Fault
  | badEscape (escape : Text)
  | backslashAtEnd
  | incompleteEscape (escape : Text)
  | octalTooLarge (escape : Text)
  | missingBrace
  | missingName (what : String)
  | unterminatedName (terminator : Char)
  | unknownCharacterName (name : Text)
  | openGroup
  | sameLookBehind
  | noSuchGroup (index : Nat)
  | unterminatedSet
  | badRange (first last : Text)
  | leastAboveMost
  | nothingToRepeat
  | multipleRepeat
  | unexpectedEnd
  | unknownExtension (extension : Text)
  | unterminatedComment
  | unterminatedGroup
  | badGroupName (name : Text)
  | unknownGroupName (name : Text)
  | groupZero
  | nameTaken (name : Text) (index earlier : Nat)
  | lateModes
  | thirdBranch
  | unbalanced
  | longLookBehind
  | variableLookBehind
  | localeMode
  | mixedModes
  | unknownMode
  | missingModeEnd
  | globalModeOn
  | globalModeOff
  | missingMode
  | typeModeOff
  | missingColon
  | modeOnAndOff
  /-- Classes are to be kept to ASCII, and not to be, for the whole pattern. -/
  | mixedClasses
  /-- More repetitions than can be counted. -/
  | tooManyRepetitions
  /-- A number of repetitions that is too long to be read. -/
  | longNumber (digits : Nat)
  /-- The reader gave up; it never does. -/
  | exhausted
  deriving DecidableEq, Repr

def Fault.message : Fault → String
  | badEscape e => s!"bad escape {e.string}"
  | backslashAtEnd => "bad escape (end of pattern)"
  | incompleteEscape e => s!"incomplete escape {e.string}"
  | octalTooLarge e => s!"octal escape value {e.string} outside of range 0-0o377"
  | missingBrace => "missing \x7b"
  | missingName what => s!"missing {what}"
  | unterminatedName t => s!"missing {t}, unterminated name"
  | unknownCharacterName n => s!"undefined character name {n.quoted.string}"
  | openGroup => "cannot refer to an open group"
  | sameLookBehind => "cannot refer to group defined in the same lookbehind subpattern"
  | noSuchGroup i => s!"invalid group reference {i}"
  | unterminatedSet => "unterminated character set"
  | badRange a b => s!"bad character range {a.string}-{b.string}"
  | leastAboveMost => "min repeat greater than max repeat"
  | nothingToRepeat => "nothing to repeat"
  | multipleRepeat => "multiple repeat"
  | unexpectedEnd => "unexpected end of pattern"
  | unknownExtension e => s!"unknown extension {e.string}"
  | unterminatedComment => "missing ), unterminated comment"
  | unterminatedGroup => "missing ), unterminated subpattern"
  | badGroupName n => s!"bad character in group name {n.quoted.string}"
  | unknownGroupName n => s!"unknown group name {n.quoted.string}"
  | groupZero => "bad group number"
  | nameTaken n i e => s!"redefinition of group name {n.quoted.string} as group {i}; was group {e}"
  | lateModes => "global flags not at the start of the expression"
  | thirdBranch => "conditional backref with more than two branches"
  | unbalanced => "unbalanced parenthesis"
  | longLookBehind => "looks too much behind"
  | variableLookBehind => "look-behind requires fixed-width pattern"
  | localeMode => "bad inline flags: cannot use 'L' flag with a str pattern"
  | mixedModes => "bad inline flags: flags 'a', 'u' and 'L' are incompatible"
  | unknownMode => "unknown flag"
  | missingModeEnd => "missing -, : or )"
  | globalModeOn => "bad inline flags: cannot turn on global flag"
  | globalModeOff => "bad inline flags: cannot turn off global flag"
  | missingMode => "missing flag"
  | typeModeOff => "bad inline flags: cannot turn off flags 'a', 'u' and 'L'"
  | missingColon => "missing :"
  | modeOnAndOff => "bad inline flags: flag turned on and off"
  | mixedClasses => "ASCII and UNICODE flags are incompatible"
  | tooManyRepetitions => "the repetition number is too large"
  | longNumber digits => Spelled.sizeMessage (some digits)
  | exhausted => "pattern too deep"

/-- Whether the fault is told as it is, without the pattern that has it. -/
def Fault.isBare : Fault → Bool
  | mixedClasses | longNumber _ => true
  | _ => false

structure Error where
  fault : Fault
  offset : Option Nat
  deriving DecidableEq, Repr

/-- The fault, with its place in the pattern `body`. -/
def Error.message (e : Error) (body : Text) : String :=
  match e.offset with
  | none => e.fault.message
  | some i =>
    let place := s!"{e.fault.message} at position {i}"
    if body.contains '\n' then
      let before := body.take i
      let line := before.count '\n' + 1
      let column := (before.reverse.takeWhile (· != '\n')).length + 1
      s!"{place} (line {line}, column {column})"
    else place

end ClassPurge.Pattern
