import ClassPurge.Text.Basic

/-!
Text as it is shown where there is no terminal. Sequences that tell a terminal how to show what
follows are left out. A sequence begins with an escape character and a bracket, and its first
letter ends it.
-/

namespace ClassPurge.Console

/-- What may stand in a sequence before the letter that ends it. -/
def isParameter (c : Char) : Bool := c == ';' || c == '?' || c.isDigit

/-- The length of the sequence with which a text begins, or nought. -/
def sequenceLength (t : Text) : Nat :=
  match t with
  | '\x1b' :: '[' :: r =>
    let parameters := r.takeWhile isParameter
    match r.drop parameters.length with
    | c :: _ => if c.isAlpha then parameters.length + 3 else 0
    | [] => 0
  | _ => 0

/-- The text without its sequences, of which the first is over after `left` characters. -/
def dropSequencesFrom (left : Nat) : Text → Text
  | [] => []
  | c :: t =>
    match left with
    | n + 1 => dropSequencesFrom n t
    | 0 =>
      match sequenceLength (c :: t) with
      | 0 => c :: dropSequencesFrom 0 t
      | n + 1 => dropSequencesFrom n t

def dropSequences (t : Text) : Text := dropSequencesFrom 0 t

end ClassPurge.Console
