import ClassPurge.Proofs.Text.Digits
import ClassPurge.Report.Json

/-!
The characters of a report as JSON text. Control characters in names and paths are escaped, so the
only ones in the text are its own line ends.
-/

namespace ClassPurge.Report

/-- There are no control characters in the text but line ends. -/
def Legible (t : Text) : Prop := ∀ c ∈ t, 0x20 ≤ c.toNat ∨ c = '\n'

instance (t : Text) : Decidable (Legible t) :=
  List.decidableBAll (fun c : Char => 0x20 ≤ c.toNat ∨ c = '\n') t

variable {t u : Text}

namespace Json

/-- The value is written legibly at any depth. -/
def Plain (j : Json) : Prop := ∀ depth, Legible (j.write depth)

end Json

open Json

end ClassPurge.Report
