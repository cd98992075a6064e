import ClassPurge.Text.Basic

/-!
Trees drawn with lines. Each branch is a block of lines; the first hangs on a connector, the
others beside the line that goes on to the next branch.
-/

namespace ClassPurge.Console

def connector (last : Bool) : Text := (if last then "└── " else "├── ").toList

def passing (last : Bool) : Text := (if last then "    " else "│   ").toList

/-- The lines of one branch. -/
def hang (last : Bool) : List Text → List Text
  | [] => []
  | l :: ls => (connector last ++ l) :: ls.map (passing last ++ ·)

def branches : List (List Text) → List Text
  | [] => []
  | [b] => hang true b
  | b :: bs => hang false b ++ branches bs

end ClassPurge.Console
