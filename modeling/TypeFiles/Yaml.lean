/-
# YAML

A YAML text denotes the value of its document, or null if it has none.
-/

import TypeFiles.Yaml.Document

namespace TypeFiles
namespace Yaml

/-- The value of a YAML text. -/
def read (s : String) : Readable Value := do
  let s := s.toList
  if !s.all isAllowed then Readable.malformed
  else
    match ← document? (tokens (unified (withoutMark s))) with
    | some node => node.value.mapError Misreading.cause
    | none => return .null

end Yaml
end TypeFiles
