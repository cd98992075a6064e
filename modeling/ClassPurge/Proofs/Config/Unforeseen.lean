import ClassPurge.Proofs.Config.Refusals
import ClassPurge.Proofs.Except
import ClassPurge.Proofs.Text.Parts

/-!
Sections that no check of a field provides for. Such a section holds entries that cannot be gone
through, a pattern that asks for too many repetitions, or an extractor that goes by no text or
refers to a module that is named from nowhere or gives up while it is imported. It breaks off the
reading; every other section is told of.
-/

namespace ClassPurge

namespace Config

open Check Extract

variable {fields : List (Document × Document)}

/-! ### Entries -/

end Config

end ClassPurge
