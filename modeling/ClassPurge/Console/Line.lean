import ClassPurge.Console.Width
import ClassPurge.Text.Blank

/-!
The lines of a console. Tabs reach to the next multiple of eight columns, controls that would move
the cursor are left out, and a line that is too wide goes on below: between words, or inside a
word that no line can hold.
-/

namespace ClassPurge.Console

def lineWidth : Nat := 4000

/-- Controls that would move the cursor. -/
def isCursorControl (c : Char) : Bool := [7, 8, 11, 12, 13].contains c.toNat

/-- Every tab as the spaces up to the next multiple of eight columns; the text between two tabs is
measured with the one blank that it ends in. -/
def spread (column : Nat) : List Text → Text
  | [] => []
  | [t] => t
  | t :: ts =>
    let stop := column + columns (t ++ [' '])
    let more := if stop % 8 = 0 then 0 else 8 - stop % 8
    t ++ ' ' :: List.replicate more ' ' ++ spread (stop + more) ts

def expandTabs (line : Text) : Text := spread 0 (line.splitOn (· == '\t'))

/-! ### Breaking lines -/

/-- The words of a line with the blanks behind them, and before the first one. -/
def wordsOf : Nat → Text → List Text
  | 0, _ => []
  | n + 1, t =>
    let lead := t.takeWhile Text.isBlank
    let word := (t.drop lead.length).takeWhile fun c => !Text.isBlank c
    let size := lead.length + word.length
    let trail := (t.drop size).takeWhile Text.isBlank
    if word.isEmpty then []
    else t.take (size + trail.length) :: wordsOf n (t.drop (size + trail.length))

/-- The pieces of a word that fit into lines. -/
def chop (limit : Nat) (used : Nat) (piece : Text) : Text → List Text
  | [] => [piece.reverse]
  | c :: r =>
    if limit < used + width c then piece.reverse :: chop limit (width c) [c] r
    else chop limit (used + width c) (c :: piece) r

/-- The offsets of all pieces behind `start`, and the columns of the last one. -/
def pieceOffsets (start : Nat) : List Text → List Nat × Nat
  | [] => ([], 0)
  | [p] => ([start], columns p)
  | p :: ps =>
    let (offsets, last) := pieceOffsets (start + p.length) ps
    (start :: offsets, last)

/-- The offsets at which new lines begin, for words that begin at `start` behind `used` columns. -/
def breaks (limit start used : Nat) : List Text → List Nat
  | [] => []
  | w :: ws =>
    let next := start + w.length
    let size := columns (Text.stripEnd w)
    if used + size ≤ limit then breaks limit next (used + columns w) ws
    else if limit < size then
      let (offsets, last) := pieceOffsets start (chop limit 0 [] w)
      offsets ++ breaks limit next last ws
    else if used = 0 || start = 0 then breaks limit next used ws
    else start :: breaks limit next (columns w) ws

def cutAt (start : Nat) : List Nat → Text → List Text
  | [], t => [t]
  | o :: os, t =>
    if o = 0 then cutAt start os t else t.take (o - start) :: cutAt o os (t.drop (o - start))

def fitting : Nat → Text → Text
  | _, [] => []
  | n, c :: r => if width c ≤ n then c :: fitting (n - width c) r else []

/-- A line without the blanks at its end that are too many. -/
def trimLine (limit : Nat) (line : Text) : Text :=
  let blanks := (line.reverse.takeWhile Text.isBlank).length
  let line := line.take (line.length - min blanks (line.length - limit))
  if limit < columns line then fitting limit line else line

def wrap (limit : Nat) (line : Text) : List Text :=
  if columns line ≤ limit && line.length ≤ limit then [line]
  else (cutAt 0 (breaks limit 0 0 (wordsOf line.length line)) line).map (trimLine limit)

def linesWithin (limit : Nat) (t : Text) : List Text :=
  (Text.splitOn (· == '\n') (t.filter fun c => !isCursorControl c)).flatMap fun l =>
    wrap limit (expandTabs l)

def onScreen (t : Text) : Text := Text.join ['\n'] (linesWithin lineWidth t)

end ClassPurge.Console
