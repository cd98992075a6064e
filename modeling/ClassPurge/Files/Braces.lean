import ClassPurge.Text.Basic

/-!
Brace alternatives in file patterns: `a.{b,c}` stands for `a.b` and `a.c`. The leftmost group
with no braces inside is replaced by each of its alternatives in turn, until no group is left.
-/

namespace ClassPurge.Files

/-- The inside of the group at the beginning of `t`, and what follows it. -/
def group? : Text → Option (Text × Text)
  | '{' :: r =>
    match Text.cut? (fun c => c == '{' || c == '}') r with
    | some (a, d, b) => if d == '}' then some (a, b) else none
    | none => none
  | _ => none

/-- What comes before the first group, its inside, and what follows it. -/
def firstGroup? : Text → Option (Text × Text × Text)
  | [] => none
  | c :: r =>
    match group? (c :: r) with
    | some (a, b) => some ([], a, b)
    | none => (firstGroup? r).map fun (h, a, b) => (c :: h, a, b)

def alternatives (inside : Text) : List Text := Text.splitOn (· == ',') inside

/-- Replaces at most `n` groups. -/
def expandWithin : Nat → Text → List Text
  | 0, t => [t]
  | n + 1, t =>
    match firstGroup? t with
    | some (h, a, b) => (alternatives a).flatMap fun alt => expandWithin n (h ++ alt ++ b)
    | none => [t]

/-- The patterns that `t` stands for. Each step takes one opening brace away. -/
def expandBraces (t : Text) : List Text := expandWithin (t.count '{') t

end ClassPurge.Files
