import ClassPurge.Text.Quoted

/-!
What a run reports while it works. An event is recorded by its cause; its level, the channel it
belongs to and its wording are functions of it.
-/

namespace ClassPurge

namespace Log

inductive Level
  | debug
  | info
  | warning
  | error
  deriving DecidableEq, Repr

def Level.name : Level → String
  | debug => "DEBUG"
  | info => "INFO"
  | warning => "WARNING"
  | error => "ERROR"

inductive Channel
  | parser
  | extractors
  | discovery
  | purge
  | config
  | command
  deriving DecidableEq, Repr

def Channel.name : Channel → String
  | parser => "shakecss.purge.parser"
  | extractors => "shakecss.purge.extractors"
  | discovery => "shakecss.purge.discovery"
  | purge => "shakecss.purge"
  | config => "shakecss.config"
  | command => "shakecss.cli"

inductive Event
  /-- Reading rules stopped at an offset of a text of some size. -/
  | stopped (offset size : Nat)
  /-- A pattern matched nothing at the place where it was looked for. -/
  | stalled (pattern : Text) (offset : Nat)
  /-- A pattern matched more often than the text has places. -/
  | capped (pattern : Text)
  | extracted (count : Nat) (path : String)
  | discovered (files patterns : Nat)
  | unread (path cause : String)
  | notExtracted (path cause : String)
  | notExpanded (cause : String)
  | analysed (done total classes : Nat)
  | purged (kept removed : Nat)
  | noConfig (path : String)
  | configUnread (path cause : String)
  | configNotMapping (path : String)
  | unknownKey (path : String) (key : Text)
  | configWritten (path : String)
  | configRejected (message : String)
  | stylesheetPurged (path : String) (before after : Nat)
  deriving DecidableEq, Repr

namespace Event

def channel : Event → Channel
  | stopped .. => .parser
  | stalled .. | capped .. | extracted .. => .extractors
  | discovered .. => .discovery
  | unread .. | notExtracted .. | notExpanded .. | analysed .. | purged .. => .purge
  | noConfig .. | configUnread .. | configNotMapping .. | unknownKey .. | configWritten .. => .config
  | configRejected .. | stylesheetPurged .. => .command

def level : Event → Level
  | stopped .. | stalled .. | capped .. | extracted .. => .debug
  | discovered .. | analysed .. | purged .. | noConfig .. | configWritten ..
  | stylesheetPurged .. => .info
  | unread .. | notExtracted .. | notExpanded .. | configUnread .. | configNotMapping ..
  | unknownKey .. => .warning
  | configRejected .. => .error

def message : Event → String
  | stopped offset size => s!"Rule parsing stopped at offset {offset} of {size}"
  | stalled pattern offset =>
    s!"Pattern {pattern.quoted.string} stopped advancing at {offset}"
  | capped pattern => s!"Pattern {pattern.quoted.string} hit its iteration cap"
  | extracted count path =>
    let place := if path.isEmpty then "<text>" else path
    s!"Extracted {count} classes from {place}"
  | discovered files patterns => s!"Discovered {files} source files from {patterns} pattern(s)."
  | unread path cause => s!"Failed to read {path}: {cause}"
  | notExtracted path cause => s!"Extractor failed on {path}: {cause}"
  | notExpanded cause => s!"Failed to expand content patterns: {cause}"
  | analysed done total classes =>
    s!"Analysed {done}/{total} files, {classes} distinct classes in use."
  | purged kept removed => s!"Purge kept {kept} rules, removed {removed}."
  | noConfig path => s!"No config at {path}; using defaults."
  | configUnread path cause => s!"Failed to read {path}, using defaults: {cause}"
  | configNotMapping path => s!"{path} is not a mapping; using defaults."
  | unknownKey path key => s!"{path}: unknown purge key {key.quoted.string} ignored"
  | configWritten path => s!"Wrote default config to {path}"
  | configRejected message => message
  | stylesheetPurged path before after => s!"Purged {path}: {before} -> {after} chars"

end Event

/-- A value and what was reported on the way to it, first reported first. -/
structure Logged (α : Type) where
  value : α
  events : List Event

end Log

end ClassPurge
