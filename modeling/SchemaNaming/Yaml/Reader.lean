import SchemaNaming.Yaml.Meaning

/-!
Reading of YAML documents: one document in a text whose characters all print.
-/

namespace SchemaNaming.Yaml

/-- Characters that may stand in a document. -/
def isAllowed (c : Char) : Bool :=
  let n := c.toNat
  c == '\t' || c == '\n' || c == '\r' || c == '\x85' || (0x20 ≤ n && n ≤ 0x7e) ||
    (0xa0 ≤ n && n ≤ 0xfffd) || 0x10000 ≤ n

def read (s : String) : Except Refusal Value :=
  if s.toList.all isAllowed then valueOf s.toList else .error .malformed

end SchemaNaming.Yaml
