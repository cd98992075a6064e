import ClassPurge.Text.Basic

/-!
Blank characters: the spaces, tabs and line ends of every script, and the separators that stand
among the controls. Stripping takes blanks off both ends, `words` cuts a text at them.
-/

namespace ClassPurge.Text

def blankRanges : Ranges :=
  [(0x9, 0xd), (0x1c, 0x20), (0x85, 0x85), (0xa0, 0xa0), (0x1680, 0x1680), (0x2000, 0x200a),
   (0x2028, 0x2029), (0x202f, 0x202f), (0x205f, 0x205f), (0x3000, 0x3000)]

def isBlank (c : Char) : Bool := blankRanges.has c.toNat

/-- Whether every character is blank. -/
def allBlank (t : Text) : Bool := t.all isBlank

def stripStart (t : Text) : Text := t.dropWhile isBlank

def stripEnd (t : Text) : Text := (t.reverse.dropWhile isBlank).reverse

def strip (t : Text) : Text := stripEnd (stripStart t)

/-- The maximal runs of characters that are not blank. -/
def words (t : Text) : List Text := (splitOn isBlank t).filter fun w => !w.isEmpty

@[simp] theorem strip_nil : strip [] = [] := rfl

@[simp] theorem words_nil : words [] = [] := rfl

theorem ne_nil_of_mem_words {w t : Text} (h : w ∈ words t) : w ≠ [] := by
  simp only [words, List.mem_filter] at h
  intro hw
  simp [hw] at h

end ClassPurge.Text
