import ClassPurge.Css.Rule
import ClassPurge.Css.Selector

/-!
The class names of a stylesheet: those of the selectors of its rules, of the rules nested in
them, and those in the text behind the last rule that could be read.
-/

namespace ClassPurge.Css

/-- How deep nested blocks are looked into. -/
def nestingLimit : Nat := 32

/-- The class names in `css` and in its blocks down to `room` levels, with repetitions within one
level left out. -/
def classNamesWithin (room : Nat) (css : Text) : List Text :=
  let rules := parseRules css
  let inner (r : Rule) : List Text :=
    match room with
    | 0 => []
    | room + 1 => if r.nested then classNamesWithin room r.body else []
  let ofRule (r : Rule) : List Text :=
    if r.hasBlock then (if r.isAt then [] else selectorClasses r.selector) ++ inner r else []
  let tail := afterRules rules css
  (rules.flatMap ofRule ++ if tail.allBlank then [] else looseClasses tail).eraseDups

def classNames (css : Text) : List Text := classNamesWithin nestingLimit css

/-- The places, each an offset and the size of the text it lies in, where reading stopped while
the class names were collected. -/
def stopsWithin (room : Nat) (css : Text) : List (Nat × Nat) :=
  let p := parse css
  let inner (r : Rule) : List (Nat × Nat) :=
    match room with
    | 0 => []
    | room + 1 => if r.nested then stopsWithin room r.body else []
  (p.stopped.toList.map fun i => (i, css.length)) ++
    p.rules.flatMap fun r => if r.hasBlock then inner r else []

end ClassPurge.Css
