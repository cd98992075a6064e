import ClassPurge.Console.Emoji
import ClassPurge.Console.Line
import ClassPurge.Console.Literal
import ClassPurge.Console.Style

/-!
Messages with tags in square brackets, which ask for a style and are not shown themselves. A
backslash before a tag makes it plain text. A tag that begins with a slash closes the innermost
open tag of its name, or, without a name, the innermost of all. Between the tags names of
pictures stand for pictures.
-/

namespace ClassPurge.Console

def isTagStart (c : Char) : Bool := ('a' ≤ c && c ≤ 'z') || c == '#' || c == '/' || c == '@'

/-- The inside of the tag whose bracket has just been opened, and what follows the tag. -/
def tagBody? : Text → Option (Text × Text)
  | [] => none
  | c :: r =>
    if isTagStart c then
      match Text.cut? (fun d => d == ']' || d == '[') r with
      | some (a, d, b) => if d == ']' then some (c :: a, b) else none
      | none => none
    else none

theorem tagBody?_length {t a b : Text} (h : tagBody? t = some (a, b)) : b.length < t.length := by
  unfold tagBody? at h
  split at h
  · simp at h
  · split at h
    · split at h
      · rename_i hc
        have he := (Text.eq_of_cut? hc).2
        split at h
        · simp only [Option.some.injEq, Prod.mk.injEq] at h
          simp only [he, ← h.2, List.length_cons, List.length_append]
          omega
        · simp at h
      · simp at h
    · simp at h

inductive Piece
  | shown (t : Text)
  /-- A tag, with what stands between its brackets and the offset of the first of them. -/
  | tag (body : Text) (offset : Nat)
  deriving DecidableEq, Repr

def backslashes (n : Nat) : Text := List.replicate n '\\'

/-- The pieces of a message. Of the backslashes before a tag every second is shown; one backslash
before any other opening bracket is not. The text lies at `offset` behind `slashes` backslashes,
and behind these characters, last first. -/
def pieces (before : Text) (slashes offset : Nat) : Text → List Piece
  | [] => [.shown (before.reverse ++ backslashes slashes)]
  | c :: r =>
    if c = '\\' then pieces before (slashes + 1) (offset + 1) r
    else if c = '[' then
      match _h : tagBody? r with
      | some (body, r') =>
        let tag : Piece :=
          if slashes % 2 = 1 then .shown ('[' :: body ++ [']']) else .tag body offset
        .shown before.reverse :: .shown (backslashes (slashes / 2)) :: tag ::
          pieces [] 0 (offset + body.length + 2) r'
      | none => pieces ('[' :: backslashes (slashes - 1) ++ before) 0 (offset + 1) r
    else pieces (c :: backslashes slashes ++ before) 0 (offset + 1) r
  termination_by t => t.length
  decreasing_by
    · simp
    · have := tagBody?_length _h
      simp only [List.length_cons]; omega
    · simp
    · simp

inductive MarkupError
  | notOpen (tag : Text) (offset : Nat)
  | nothingOpen (offset : Nat)
  /-- What a tag is to be called with, and the part of it that cannot be read. -/
  | badParameters (whole part : Text) (f : Literal.Fault)
  /-- A number in the name of a colour. -/
  | badNumber (u : Spelled.Unread)
  deriving DecidableEq, Repr

def MarkupError.message : MarkupError → String
  | notOpen tag offset =>
    s!"closing tag '[{tag.string}]' at position {offset} doesn't match any open tag"
  | nothingOpen offset => s!"closing tag '[/]' at position {offset} has nothing to close"
  | badParameters whole part f =>
    if f.isSyntax then
      s!"error parsing {part.quoted.string} in {whole.quoted.string}; {f.message}"
    else s!"error parsing {whole.quoted.string}; {f.message}"
  | badNumber u => u.message

/-- A tag that is not closed yet: the full name of its style, and what it is to be called with. -/
structure Opened where
  name : Text
  parameters : Option Text
  deriving DecidableEq, Repr

def nameOf (t : Text) : Except MarkupError Text :=
  match styleName t with
  | .ok n => .ok n
  | .error u => .error (.badNumber u)

/-- The value behind the name of a function, in brackets; without brackets there is none. -/
def arguments (t : Text) : Text :=
  let r := t.dropWhile fun c => Text.isWord c || c == '.'
  if r.isEmpty then ['(', ')']
  else if r.head? == some '(' && 2 ≤ r.length && r.getLast? == some ')' && !r.contains '\n' then r
  else t

/-- Closing a tag for a function asks that its arguments can be read. -/
def Opened.close (o : Opened) : Except MarkupError Unit :=
  match o.name, o.parameters with
  | '@' :: _, some p =>
    if p.isEmpty then .ok ()
    else
      let part := arguments (Text.strip p)
      match Literal.check part with
      | .ok () => .ok ()
      | .error f => .error (.badParameters p part f)
  | _, _ => .ok ()

/-- The text of the pieces, with the styles in `opened` not yet closed, the innermost first. -/
def shownText (opened : List Opened) : List Piece → Except MarkupError Text
  | [] => .ok []
  | .shown t :: ps => (shownText opened ps).map (withEmoji t ++ ·)
  | .tag body offset :: ps =>
    let name := body.takeWhile (· != '=')
    match name with
    | '/' :: closed =>
      if (Text.strip closed).isEmpty then
        match opened with
        | [] => .error (.nothingOpen offset)
        | o :: rest => do
          o.close
          shownText rest ps
      else do
        let closed ← nameOf (Text.strip closed)
        match opened.find? fun o => o.name == closed with
        | some o =>
          o.close
          shownText (opened.eraseP fun o => o.name == closed) ps
        | none => throw (.notOpen body offset)
    | name => do
      let parameters :=
        if name.length < body.length then some (body.drop (name.length + 1)) else none
      shownText (⟨← nameOf name, parameters⟩ :: opened) ps

def plain (t : Text) : Except MarkupError Text := shownText [] (pieces [] 0 0 t)

/-- A text whose tags are meant as plain text, behind `slashes` backslashes: the backslashes
before each of them are doubled, and one is added. -/
def escapeFrom (slashes : Nat) : Text → Text
  | [] => backslashes slashes
  | c :: r =>
    if c = '\\' then escapeFrom (slashes + 1) r
    else if c = '[' && (tagBody? r).isSome then
      backslashes (2 * slashes + 1) ++ c :: escapeFrom 0 r
    else backslashes slashes ++ c :: escapeFrom 0 r

/-- A single backslash at the end is doubled too. -/
def escape (t : Text) : Text :=
  let e := escapeFrom 0 t
  match e.reverse with
  | '\\' :: '\\' :: _ => e
  | '\\' :: _ => e ++ ['\\']
  | _ => e

def styled (name : String) (t : Text) : Except MarkupError Text :=
  plain (s!"[{name}]".toList ++ t ++ s!"[/{name}]".toList)

/-! ### Messages -/

inductive Tone
  | info
  | success
  | warning
  | error
  deriving DecidableEq, Repr

def Tone.name : Tone → String
  | info => "info"
  | success => "success"
  | warning => "warning"
  | error => "error"

def Tone.sign : Tone → String
  | info => ""
  | success => "✔ "
  | warning => "⚠ "
  | error => "✖ "

def Tone.say (tone : Tone) (message : Text) : Except MarkupError Text :=
  (styled tone.name (tone.sign.toList ++ message)).map fun t => onScreen t ++ ['\n']

end ClassPurge.Console
