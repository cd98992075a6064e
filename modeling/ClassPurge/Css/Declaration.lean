import ClassPurge.Css.Token

/-!
The declarations of a flat rule body: what stands between the semicolons outside strings and
parentheses, stripped, the blank ones left out. A closing parenthesis that nothing opened counts
for nothing.
-/

namespace ClassPurge.Css

/-- The number of open parentheses after `c`. -/
def parensAfter (parens : Nat) (c : Char) : Nat :=
  if c == '(' then parens + 1 else if c == ')' then parens - 1 else parens

def parensAfterToken (parens : Nat) : Token → Nat
  | .char c => parensAfter parens c
  | _ => parens

/-- The pieces between the semicolons at the top; always at least one. -/
def piecesAt (parens : Nat) : List Token → List (List Token)
  | [] => [[]]
  | t :: ts =>
    if t = .char ';' ∧ parens = 0 then [] :: piecesAt 0 ts
    else
      match piecesAt (parensAfterToken parens t) ts with
      | [] => [[t]]
      | p :: ps => (t :: p) :: ps

def splitDeclarations (body : Text) : List Text :=
  ((piecesAt 0 (quoteTokens body)).map fun p => (spell p).strip).filter fun d => !d.isEmpty

end ClassPurge.Css
