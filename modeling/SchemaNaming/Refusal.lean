import SchemaNaming.Fault

/-!
Why a document gives no value: it breaks the rules of its format, or a rule of reading goes wrong by
itself. Only the first is expected of a document.
-/

namespace SchemaNaming

inductive Refusal where
  | malformed
  | fault (fault : Fault)
  deriving Inhabited

namespace Refusal

def mishap (m : Mishap) : Refusal := .fault (.mishap m)

end Refusal

/-- The value that a step has found, unless the document is malformed there. -/
def found : Option α → Except Refusal α
  | some a => .ok a
  | none => .error .malformed

end SchemaNaming
