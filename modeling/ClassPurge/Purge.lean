import ClassPurge.Css.ClassNames
import ClassPurge.Log.Event
import ClassPurge.Retention

/-!
Purging a stylesheet. What stands between the rules, the statements and what could not be read
come first, stripped and otherwise as they are; then the rules that stay, written anew. A blank
line separates any two of them.
-/

namespace ClassPurge

open Css (Rule)

namespace Purge

/-- The text stripped, unless nothing is left of it. -/
def nonBlank (t : Text) : List Text := if t.strip.isEmpty then [] else [t.strip]

/-- What is carried over from `cursor` on: gaps, statements and what follows the last rule. -/
def recoveredFrom (css : Text) (cursor : Nat) : List Rule → List Text
  | [] => nonBlank (css.drop cursor)
  | r :: rs =>
    nonBlank ((css.drop cursor).take (r.start - cursor)) ++
      (if r.hasBlock then [] else [(r.source css).strip]) ++ recoveredFrom css r.stop rs

def kept (c : Config) (used : TextSet) (rules : List Rule) : List Rule :=
  rules.filter fun r => r.hasBlock && c.keeps used r

def removed (c : Config) (used : TextSet) (rules : List Rule) : List Rule :=
  rules.filter fun r => r.hasBlock && !c.keeps used r

def blocks (c : Config) (used : TextSet) (css : Text) : List Text :=
  let rules := Css.parseRules css
  recoveredFrom css 0 rules ++ (kept c used rules).map fun r => r.format css

/-- The blocks with a blank line between any two and a line end at the end. -/
def assemble (blocks : List Text) : Text :=
  let out := Text.join ['\n', '\n'] blocks
  if out.isEmpty then out else out ++ ['\n']

end Purge

/-- The stylesheet without the rules that nobody uses; unchanged if purging is off. -/
def Config.purge (c : Config) (used : TextSet) (css : Text) : Text :=
  if c.enabled then Purge.assemble (Purge.blocks c used css) else css

/-! ### What is reported -/

def collectEvents (css : Text) : List Log.Event :=
  (Css.stopsWithin Css.nestingLimit css).map fun (i, n) => .stopped i n

def parseEvents (css : Text) : List Log.Event :=
  (Css.parse css).stopped.toList.map fun i => .stopped i css.length

def Config.purgeEvents (c : Config) (used : TextSet) (css : Text) : List Log.Event :=
  if c.enabled then
    let rules := Css.parseRules css
    collectEvents css ++ parseEvents css ++
      [.purged (Purge.kept c used rules).length (Purge.removed c used rules).length]
  else []

end ClassPurge
