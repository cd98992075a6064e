import ClassPurge.Log.Event
import ClassPurge.Pattern.Reader
import ClassPurge.Pattern.Scan

/-!
A pattern as it was written, together with what it means.
-/

namespace ClassPurge

structure Pattern where
  body : Text
  modes : Pattern.Modes
  node : Pattern.Node

namespace Pattern

def readWhole : Reader (Modes × Node) := do
  let fuel := 4 * ((← get).size + 2)
  Reader.moveTo (← get).rest
  let node ← readAlternatives fuel (← get).modes false
  let s ← get
  if s.modes.ascii && s.unicode then throw ⟨.mixedClasses, none⟩
  if (← Reader.peek).isSome then Reader.fail .unbalanced
  for (index, place) in s.conditions do
    if index > s.groups.length then throw ⟨.noSuchGroup index, some place⟩
  if let some (_, f) := s.badBehinds.find? fun b => s.badBehinds.all fun c => b.1 ≤ c.1 then
    throw ⟨f, none⟩
  return (s.modes, node)

def ofText (body : Text) (modes : Modes) : Except Error Pattern := do
  let ((modes, node), _) ← readWhole ⟨body, body.length, modes, false, [], none, [], []⟩
  return ⟨body, modes, node⟩

def occursIn (p : Pattern) (t : Text) : Bool := (p.node.search? p.modes.ascii t.toArray 0).isSome

/-- All matches in `t`, one behind the other, and what there is to report about them. -/
def scanText (p : Pattern) (t : Text) : Log.Logged (List Span) :=
  let text := t.toArray
  match Pattern.scan (p.node.search? p.modes.ascii text) text.size with
  | (ms, .done) => ⟨ms, []⟩
  | (ms, .stalled i) => ⟨ms, [.stalled p.body i]⟩
  | (ms, .capped) => ⟨ms, [.capped p.body]⟩

end Pattern

end ClassPurge
