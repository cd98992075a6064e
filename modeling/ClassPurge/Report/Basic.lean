import ClassPurge.Config.Matcher
import ClassPurge.Number.Binary64
import ClassPurge.Text.Order

/-!
The report on a run: how many classes there are, how many are used, which are purged, what the
source files held and how long it took.
-/

namespace ClassPurge

structure SourceFile where
  path : Text
  classes : List Text
  size : Int
  deriving DecidableEq, Repr

structure Report where
  total : Int
  used : Int
  purged : Int
  purgedNames : List Text
  /-- The names on the safelist; patterns are left out. -/
  safelist : List Text
  /-- In milliseconds. -/
  buildTime : Nat
  files : List SourceFile
  deriving DecidableEq, Repr

namespace Report

/-- The share of the classes that is purged; none if there are no classes. -/
def share (r : Report) : Binary64 :=
  if r.total = 0 then ⟨false, 0, 0⟩ else Binary64.ofRatio r.purged r.total

def isMeasurable (r : Report) : Bool := !r.share.isInfinite

def unmeasurable : String := "integer division result too large for a float"

/-- The purged classes per hundred, to a tenth. -/
def reduction (r : Report) : Binary64 := (r.share.timesNat 100).toTenth

/-- Classes that are neither used nor on the safelist, in order. -/
def purgedOf (all used : TextSet) (safelist : List Matcher) : List Text :=
  all.toList.filter fun n => !used.contains n && !matchesAny n safelist

def exactNames (entries : List Matcher) : List Text :=
  entries.filterMap fun
    | .exact n => some n
    | .pattern _ => none

def ofClasses (all used : TextSet) (safelist : List Matcher) (files : List SourceFile)
    (buildTime : Nat) : Report :=
  let purged := purgedOf all used safelist
  ⟨all.size, used.size, purged.length, purged, exactNames safelist, buildTime, files⟩

end Report

end ClassPurge
