import ClassPurge.Text.Blank
import ClassPurge.Text.Word

/-!
Recognisers of small constructs in running text, and the search for all that one recognises: the
leftmost, then the leftmost in what follows it, and so on to the end.
-/

namespace ClassPurge.Extract

/-- Looks at a place in a text, given the character before it and the text from it on. Answers
what it found and the text that follows; it never recognises nothing. -/
abbrev Recognizer (α : Type) := Option Char → Text → Option (α × Text)

/-- What `m` finds from the place before `t` on, leftmost first, without overlaps. -/
def occurrencesFrom {α : Type} (m : Recognizer α) (before : Option Char) : Text → List α
  | [] => []
  | c :: r =>
    match m before (c :: r) with
    | some (a, r') =>
      let k := r.length - r'.length
      a :: occurrencesFrom m (c :: r)[k]? (r.drop k)
    | none => occurrencesFrom m (some c) r
  termination_by t => t.length
  decreasing_by
    · simp only [List.length_drop, List.length_cons]; omega
    · simp

def occurrences {α : Type} (m : Recognizer α) (t : Text) : List α := occurrencesFrom m none t

/-- What `m` finds first, and the text that follows it. -/
def firstFrom? {α : Type} (m : Recognizer α) (before : Option Char) : Text → Option (α × Text)
  | [] => none
  | c :: r => (m before (c :: r)).or (firstFrom? m (some c) r)

def replaceFrom {α : Type} (m : Recognizer α) (new : Text) (before : Option Char) : Text → Text
  | [] => []
  | c :: r =>
    match m before (c :: r) with
    | some (_, r') =>
      let k := r.length - r'.length
      new ++ replaceFrom m new (c :: r)[k]? (r.drop k)
    | none => c :: replaceFrom m new (some c) r
  termination_by t => t.length
  decreasing_by
    · simp only [List.length_drop, List.length_cons]; omega
    · simp

@[simp] theorem occurrences_nil {α : Type} (m : Recognizer α) : occurrences m [] = [] := by
  simp [occurrences, occurrencesFrom]

end ClassPurge.Extract
