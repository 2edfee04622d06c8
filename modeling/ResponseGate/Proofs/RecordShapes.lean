import Mathlib.Data.List.Forall2
import ResponseGate.Proofs.MistypedMembers
import ResponseGate.Proofs.ReadDocuments
import ResponseGate.Proofs.WrittenTurns

/-!
The shapes of records. Which lines are records, and what type, blocks and text a record has, follows
from the members given last at each level. Only the type and the message can be mistyped; whatever a
content or a block holds, the line stays a record.
-/

namespace ResponseGate

open Json (EncodedDocument FieldType Members Value)

/-! ### Shapes -/

variable {members : Members} {line : List UInt8}

end ResponseGate
