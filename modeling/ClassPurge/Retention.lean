import ClassPurge.Config.Basic
import ClassPurge.Css.Rule
import ClassPurge.Css.Selector
import ClassPurge.Text.Order

/-!
Whether a rule stays. At-rules stay unless a setting drops their kind. A rule with a custom
property goes if a setting says so. A selector without classes stays. A blocked class takes the
rule away whatever else is said of it; otherwise one class that is used or on the safelist is
enough.
-/

namespace ClassPurge.Config

open Css (Rule selectorClasses)

/-- The words by which an at-rule is known for animation steps and for a font. -/
def keyframesMark : Text := "@keyframes".toList

def fontFaceMark : Text := "@font-face".toList

def customPropertyMark : Text := ['-', '-']

def keepsAt (c : Config) (selector : Text) : Bool :=
  (c.keepKeyframes || !Text.hasPiece keyframesMark selector) &&
    (c.keepFontFace || !Text.hasPiece fontFaceMark selector)

def mentionsCustomProperty (r : Rule) : Bool :=
  Text.hasPiece customPropertyMark (r.selector ++ r.body)

def isBlocked (c : Config) (name : Text) : Bool := matchesAny name c.blocklist

/-- Whether the class is used or on the safelist. -/
def isWanted (c : Config) (used : TextSet) (name : Text) : Bool :=
  used.contains name || matchesAny name c.safelist

def keepsClasses (c : Config) (used : TextSet) (classes : List Text) : Bool :=
  classes.isEmpty || (!classes.any c.isBlocked && classes.any (c.isWanted used))

def keeps (c : Config) (used : TextSet) (r : Rule) : Bool :=
  if r.isAt then c.keepsAt r.selector
  else if !c.keepCustomProperties && mentionsCustomProperty r then false
  else c.keepsClasses used (selectorClasses r.selector)

@[simp] theorem keepsClasses_nil (c : Config) (used : TextSet) : c.keepsClasses used [] = true := rfl

theorem keeps_of_isAt {c : Config} {used : TextSet} {r : Rule} (h : r.isAt) :
    c.keeps used r = c.keepsAt r.selector := by
  simp [keeps, h]

end ClassPurge.Config
