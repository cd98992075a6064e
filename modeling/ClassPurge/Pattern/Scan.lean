import ClassPurge.Pattern.Match

/-!
All matches of a search, one behind the other. A match of nothing at the place where the search
began ends the scan, so every round gets ahead, and one round more than the text has places is
enough.
-/

namespace ClassPurge.Pattern

inductive ScanEnd
  /-- Nothing more was found. -/
  | done
  /-- Nothing but an empty match at the place where the search began. -/
  | stalled (offset : Nat)
  /-- The rounds were used up. -/
  | capped
  deriving DecidableEq, Repr

/-- At most `rounds` matches, searched for from `start` on, and how the scan ended. -/
def scanWithin (search : Nat → Option Span) : Nat → Nat → List Span × ScanEnd
  | 0, _ => ([], .capped)
  | rounds + 1, start =>
    match search start with
    | none => ([], .done)
    | some m =>
      if m.stop ≤ start ∧ m.start = m.stop then ([], .stalled start)
      else
        let (ms, e) := scanWithin search rounds m.stop
        (m :: ms, e)

/-- The matches of `search` in a text of `size` characters. -/
def scan (search : Nat → Option Span) (size : Nat) : List Span × ScanEnd :=
  scanWithin search (size + 1) 0

end ClassPurge.Pattern
