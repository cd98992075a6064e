import ClassPurge.Loop
import ClassPurge.Pattern.Compiled

/-!
All matches of a pattern with no bound on their number, and a text with each of them replaced.
Behind an empty match the next one is looked for from the same place on, where it must not be
empty.
-/

namespace ClassPurge.Pattern

/-- The matches so far, where the next search begins, and whether what it finds has to get ahead
of that place. -/
structure Progress where
  found : List Span
  advance : Bool
  start : Nat

def matchRound (search : Bool → Nat → Option Span) (s : Progress) : Round Progress (List Span) :=
  match search s.advance s.start with
  | none => .stop s.found
  | some m => .next ⟨s.found ++ [m], m.start == m.stop, m.stop⟩

/-- All that `search` finds, if it ever finds nothing more. -/
noncomputable def allMatches? (search : Bool → Nat → Option Span) : Option (List Span) :=
  endOf? (matchRound search) ⟨[], false, 0⟩

/-- The match at `start` that is first among those that are not empty. -/
def Node.matchPast? (n : Node) (text : Array Char) (start : Nat) : Option Span :=
  (n.run text ⟨start, [], []⟩ fun s => if s.offset == start then none else some s).map
    fun s => ⟨start, s.offset⟩

/-- The leftmost match that begins at `start` or later, and if it has to `advance` is not empty
at `start`. -/
def Node.next? (n : Node) (ascii : Bool) (text : Array Char) (advance : Bool) (start : Nat) :
    Option Span :=
  if advance then
    (if n.mayBeginAt ascii text start then n.matchPast? text start else none).or
      (n.searchWithin? ascii text (text.size - start) (start + 1))
  else n.search? ascii text start

def replaceAll (new t : Text) (start : Nat) : List Span → Text
  | [] => t.drop start
  | m :: ms => t.slice start m.start ++ new ++ replaceAll new t m.stop ms

end ClassPurge.Pattern

namespace ClassPurge

noncomputable def Pattern.matches? (p : Pattern) (t : Text) : Option (List Pattern.Span) :=
  Pattern.allMatches? (p.node.next? p.modes.ascii t.toArray)

noncomputable def Pattern.substitute? (p : Pattern) (new t : Text) : Option Text :=
  (p.matches? t).map (Pattern.replaceAll new t 0)

end ClassPurge
