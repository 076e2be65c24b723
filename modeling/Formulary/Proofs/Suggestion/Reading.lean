import Formulary.Suggestion.Source
import Mathlib.Data.List.Forall2

/-!
# Reading candidates

A candidate is handed over as an object that holds its name and its identifier, and is read back from
that object as it was. Of an answer that is a list of anything, the objects with a name are read, one
after the other and each on its own, so that two answers can be read apart or together.
-/

namespace Formulary

namespace Operand

variable {item : Json} {x : Operand}

end Operand

namespace Suggestion

end Suggestion

end Formulary
