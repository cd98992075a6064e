import ClassPurge.Extract.Recognizer
import ClassPurge.Text.Case

/-!
Candidate class names in source text of any kind. Six heuristics are applied in order: the
attribute `class`, the attribute `className`, string fragments that mention either, the literals
of a conditional, arbitrary values in brackets, and a last one that takes the strings of helper
calls and every quoted string made of plain words.
-/

namespace ClassPurge.Extract

open Text

def isStringQuote (c : Char) : Bool := c == '"' || c == '\'' || c == '\x60'

/-- What stands between `q` and the next `q`, where no character of `barred` comes between. -/
def enclosed? (q : Char) (barred : Char → Bool) (t : Text) : Option (Text × Text) :=
  match cut? (fun c => c == q || barred c) t with
  | some (a, d, b) => if d == q then some (a, b) else none
  | none => none

def nothingBarred (_ : Char) : Bool := false

/-! ### Attributes -/

/-- The value of the attribute `name` in equal quotes. The name follows no name character. -/
def attributeValue (name : Text) : Recognizer Text := fun before t =>
  if before.any isName then none
  else do
    let r ← after? name t
    let r ← after? ['='] (stripStart r)
    match stripStart r with
    | q :: r => if q == '"' || q == '\'' then enclosed? q nothingBarred r else none
    | [] => none

def markupName : Text := ['c', 'l', 'a', 's', 's']

def componentName : Text := markupName ++ ['N', 'a', 'm', 'e']

def attributeWords (name t : Text) : List Text := (occurrences (attributeValue name) t).flatMap words

def classAttribute (t : Text) : List Text := attributeWords markupName t

def classNameAttribute (t : Text) : List Text := attributeWords componentName t

/-! ### Class-like words -/

def isSegment (c : Char) : Bool := isName c || c == '.'

/-- What follows the parts of a word that each begin with a colon or a slash. -/
def afterSegments : Text → Text
  | c :: d :: r =>
    if (c == ':' || c == '/') && isSegment d then afterSegments (r.dropWhile isSegment)
    else c :: d :: r
  | t => t
  termination_by t => t.length
  decreasing_by
    have := (List.dropWhile_suffix isSegment (l := r)).length_le
    simp only [List.length_cons]; omega

/-- A word: an optional hyphen, a letter, name characters, then parts such as `:p-2` or `/2`. -/
def classWord : Recognizer Text := fun before t =>
  if before.any fun c => isName c || c == '[' then none
  else
    match (after? ['-'] t).getD t with
    | c :: r =>
      if c.isAlpha then
        let rest := afterSegments (r.dropWhile isName)
        some (upTo t rest, rest)
      else none
    | [] => none

def classWords (t : Text) : List Text := occurrences classWord t

/-! ### Fragments that mention an attribute -/

/-- The inside of a string on one line, or of one in back quotes. -/
def fragment : Recognizer Text := fun _ t =>
  match t with
  | q :: r =>
    if isStringQuote q then enclosed? q (fun c => q != '\x60' && c == '\n') r else none
  | [] => none

def attributeName : Recognizer Unit := fun before t =>
  if before.any isWord then none
  else [markupName, componentName].findSome? fun name => do
    let r ← after? name t
    if r.head?.any isWord then none else some ((), r)

/-- An interpolation in a template, with no braces inside. -/
def interpolation : Recognizer Unit := fun _ t => do
  let r ← after? ['$', '{'] t
  let (_, r) ← enclosed? '}' (fun c => c == '{') r
  return ((), r)

def dropInterpolations (t : Text) : Text := replaceFrom interpolation [' '] none t

def fragmentWords (t : Text) : List Text :=
  match firstFrom? attributeName none t with
  | some (_, rest) =>
    (classWords (dropInterpolations rest)).filter fun w => w != markupName && w != componentName
  | none => []

def templateFragments (t : Text) : List Text := (occurrences fragment t).flatMap fragmentWords

/-! ### Conditionals -/

/-- A literal on one line that holds no quote of any kind. -/
def literal? : Text → Option (Text × Text)
  | q :: r => if isStringQuote q then enclosed? q (fun c => isStringQuote c || c == '\n') r else none
  | [] => none

/-- A question mark, a literal, a colon, and the literal after it if there is one. -/
def conditional : Recognizer (List Text) := fun _ t => do
  let r ← after? ['?'] t
  let (a, r) ← literal? (stripStart r)
  let r ← after? [':'] (stripStart r)
  match literal? (stripStart r) with
  | some (b, r) => return ([a, b], r)
  | none => return ([a], stripStart r)

/-- Each literal of a conditional is one candidate, blanks inside it included. -/
def ternaryLiterals (t : Text) : List Text :=
  ((occurrences conditional t).flatMap fun ls => ls.map strip).filter fun l => !l.isEmpty

/-! ### Arbitrary values -/

/-- The scales that take a value in brackets. -/
def scales : List Text :=
  (['m', 'p'].flatMap fun c => [c] :: ['t', 'r', 'b', 'l', 'x', 'y'].map fun d => [c, d]) ++
  ["gap", "gap-x", "gap-y", "w", "h", "min-w", "min-h", "max-w", "max-h", "text", "bg",
    "border"].map String.toList

/-- A value in brackets after a scale and a hyphen, or on its own. -/
def arbitrary : Recognizer Text := fun before t =>
  if before.any fun c => isName c || c == '[' then none
  else do
    let r ← ([] :: scales.map (· ++ ['-'])).findSome? fun p => after? (p ++ ['[']) t
    let (a, r) ← enclosed? ']' (fun c => c == '[' || isBlank c || isStringQuote c) r
    if a.isEmpty then none else some (upTo t r, r)

/-- A value on its own counts only in the form of a property and its value. -/
def arbitraryValues (t : Text) : List Text :=
  (occurrences arbitrary t).filter fun w => w.head? != some '[' || w.contains ':'

/-! ### Helper calls and plain strings -/

/-- Words that look like classes in style text and are none. -/
def nonClassWords : List Text :=
  ["color", "background", "margin", "padding", "width", "height", "display", "position", "border",
    "font", "content", "opacity", "transform", "transition", "top", "left", "right", "bottom",
    "px", "em", "rem", "vh", "vw", "ms", "s", "deg", "fr",
    "auto", "none", "inherit", "initial", "unset", "important", "true", "false", "null",
    "undefined"].map String.toList

def isClassWord (w : Text) : Bool := !nonClassWords.contains (lower w)

/-- Functions and template tags that put class names together. -/
def helperNames : List Text :=
  ["clsx", "classnames", "classNames", "cx", "cn", "twMerge", "tw", "css"].map String.toList

def stringLiteral : Recognizer Text := fun _ t =>
  match t with
  | q :: r => if isStringQuote q then enclosed? q nothingBarred r else none
  | [] => none

/-- A helper call with no parentheses inside, or a tagged template; what it holds in pieces. -/
def helperCall : Recognizer (List Text) := fun before t =>
  if before.any isWord then none
  else helperNames.findSome? fun name => do
    let r ← after? name t
    match stripStart r with
    | '(' :: r =>
      let (a, r) ← enclosed? ')' (fun c => c == '(') r
      return (occurrences stringLiteral a, r)
    | '\x60' :: r =>
      let (a, r) ← enclosed? '\x60' nothingBarred r
      return ([a], r)
    | _ => none

/-- The name in `color: red`; the colon is followed by a blank or nothing. -/
def propertyName : Recognizer Text := fun before t =>
  if before.any isName then none
  else
    match (after? ['-'] t).getD t with
    | c :: r =>
      if c.isAlpha then do
        let rest := r.dropWhile isName
        let r ← after? [':'] (stripStart rest)
        if r.head?.all isBlank then some (upTo t rest, r) else none
      else none
    | [] => none

def pieceWords (piece : Text) : List Text :=
  let t := dropInterpolations piece
  let properties := occurrences propertyName t
  (classWords t).filter fun w => isClassWord w && !properties.contains w

def templateCalls (t : Text) : List Text :=
  (occurrences helperCall t).flatMap fun pieces => pieces.flatMap pieceWords

/-- A letter followed by name characters. -/
def isPlainWord : Text → Bool
  | [] => false
  | c :: r => c.isAlpha && r.all isName

/-- The words of a string that holds plain words and nothing else. -/
def plainWords : Recognizer (List Text) := fun _ t =>
  match t with
  | q :: r =>
    if q == '"' || q == '\'' then do
      let (a, r) ← enclosed? q nothingBarred r
      let ws := words a
      if !ws.isEmpty && ws.all isPlainWord then some (ws, r) else none
    else none
  | [] => none

def quotedWords (t : Text) : List Text := ((occurrences plainWords t).flatMap id).filter isClassWord

def catchAll (t : Text) : List Text := templateCalls t ++ quotedWords t

def heuristics : List (Text → List Text) :=
  [classAttribute, classNameAttribute, templateFragments, ternaryLiterals, arbitraryValues, catchAll]

/-- All candidates in `t`, each once, in order of first mention. -/
def candidates (t : Text) : List Text :=
  ((heuristics.flatMap fun h => h t).filter fun c => !c.isEmpty).eraseDups

end ClassPurge.Extract
