import ClassPurge.Calendar
import ClassPurge.Number.Spelled

/-!
Why a text spells no value. Most of it is a fault of the text. Some scalars are of a kind that
they do not spell; what breaks off the reading then is told apart from the faults.
-/

namespace ClassPurge.Yaml

inductive Fault
  /-- A character that may not stand in any text. -/
  | unprintable (c : Char)
  /-- A character that begins nothing. -/
  | badStart (c : Char)
  | noColon
  | entryHere
  | keyHere
  | valueHere
  | unclosedQuote
  | markerInQuote
  | badEscape
  | badAnchor
  | badTag
  | badDirective
  | badBlockHeader
  /-- Something else should stand here. -/
  | expected (what : String)
  | versionTwice
  | badVersion
  | handleTwice (name : Text)
  | unknownHandle (name : Text)
  | unknownAlias (name : Text)
  | anchorTwice (name : Text)
  | secondDocument
  | badMerge
  /-- A list, a map or a set as a key. -/
  | compoundKey
  /-- Nothing is known of a tag. -/
  | unknownTag (uri : Text)
  | notScalar
  | notList
  | notMap
  /-- A list of maps of one entry each is wanted. -/
  | notPairs
  | badBytes
  /-- The reader gave up; it never does. -/
  | exhausted
  deriving DecidableEq, Repr

def Fault.message : Fault → String
  | unprintable _ => "special characters are not allowed"
  | badStart _ => "found character that cannot start any token"
  | noColon => "could not find expected ':'"
  | entryHere => "sequence entries are not allowed here"
  | keyHere => "mapping keys are not allowed here"
  | valueHere => "mapping values are not allowed here"
  | unclosedQuote => "found unexpected end of stream"
  | markerInQuote => "found unexpected document separator"
  | badEscape => "found unknown escape character"
  | badAnchor => "expected alphabetic or numeric character"
  | badTag => "expected a tag"
  | badDirective => "expected a directive"
  | badBlockHeader => "expected chomping or indentation indicators"
  | expected what => s!"expected {what}"
  | versionTwice => "found duplicate YAML directive"
  | badVersion => "found incompatible YAML document (version 1.* is required)"
  | handleTwice name => s!"duplicate tag handle {name.quoted.string}"
  | unknownHandle name => s!"found undefined tag handle {name.quoted.string}"
  | unknownAlias name => s!"found undefined alias {name.quoted.string}"
  | anchorTwice name => s!"found duplicate anchor {name.quoted.string}"
  | secondDocument => "expected a single document in the stream"
  | badMerge => "expected a mapping or list of mappings for merging"
  | compoundKey => "found unhashable key"
  | unknownTag uri => s!"could not determine a constructor for the tag {uri.quoted.string}"
  | notScalar => "expected a scalar node"
  | notList => "expected a sequence node"
  | notMap => "expected a mapping node"
  | notPairs => "expected a mapping of length 1"
  | badBytes => "failed to decode base64 data"
  | exhausted => "text too deep"

/-- What breaks off the reading at a scalar that does not spell what its tag says. -/
inductive Crash
  | number (u : Spelled.Unread)
  | real (t : Text)
  /-- Nothing is left of a number without its sign and its underscores. -/
  | noDigits
  /-- A word that is neither true nor false. -/
  | word (t : Text)
  | moment (f : Moment.Fault)
  | noMoment
  /-- A map where the text of a moment is wanted. -/
  | momentMap
  /-- A code point beyond the last character. -/
  | noCharacter
  /-- A code point of more than 31 bits. -/
  | hugeCharacter
  /-- More digits in base sixty than a number with a fraction can have. -/
  | hugeBase
  deriving DecidableEq, Repr

def Crash.message : Crash → String
  | number u => u.message
  | real t => s!"could not convert string to float: {t.quoted.string}"
  | noDigits => "string index out of range"
  | word t => t.quoted.string
  | moment f => f.message
  | noMoment => "'NoneType' object has no attribute 'groupdict'"
  | momentMap => "expected string or bytes-like object, got 'list'"
  | noCharacter => "chr() arg not in range(0x110000)"
  | hugeCharacter => "Python int too large to convert to C int"
  | hugeBase => "int too large to convert to float"

/-- How a reading ends that reaches no value. -/
inductive Stop
  | fault (f : Fault)
  | crash (c : Crash)
  deriving DecidableEq, Repr

end ClassPurge.Yaml
