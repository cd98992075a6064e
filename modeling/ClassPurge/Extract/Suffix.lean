import ClassPurge.Text.Blank
import ClassPurge.Text.Case

/-!
File suffixes as registrations spell them: blanks at the ends and letter case do not count, and
the dot may be left out.
-/

namespace ClassPurge.Extract

def normalizeSuffix (ext : Text) : Text :=
  let t := Text.lower ext.strip
  if t.head? == some '.' then t else '.' :: t

theorem head?_normalizeSuffix (ext : Text) : (normalizeSuffix ext).head? = some '.' := by
  simp only [normalizeSuffix]
  split
  · simp_all
  · rfl

end ClassPurge.Extract
