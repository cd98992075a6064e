import ClassPurge.Check
import ClassPurge.Css.Rule

/-!
Rules as records of named fields.
-/

namespace ClassPurge.Css

open Check

/-- A rule as a record tells it. Its offsets need not lie in any text. -/
structure RuleRecord where
  selector : Text
  body : Text
  start : Int
  stop : Int
  hasBlock : Bool
  nested : Bool

def RuleRecord.ofFields (loc : List String) (es : List (Document × Document)) :
    Checked RuleRecord :=
  let words := apply ((required text loc "selector" es).map RuleRecord.mk)
    (optional text [] loc "body" es)
  let offsets := apply (apply words (required int loc "start" es)) (required int loc "end" es)
  apply (apply offsets (optional bool true loc "has_block" es)) (optional bool false loc "nested" es)

def RuleRecord.ofDocument (d : Document) : Checked RuleRecord :=
  fields "ParsedRule" RuleRecord.ofFields [] d

def RuleRecord.format (r : RuleRecord) (css : Text) : Text :=
  layOut r.selector r.body r.nested (css.slice r.start r.stop)

end ClassPurge.Css
