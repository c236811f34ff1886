/-
# Reading level by level

A document is read level by level: first its outermost list or mapping with all keys and scalars
right in it, then what is in the lists and mappings among those, in the order they were met.  The
first fault on that way ends the reading.  So a part of a document that breaks off says at which
level it does, and of two parts the one with the fault on the higher level decides.
-/

import TypeFiles.Readable

namespace TypeFiles
namespace Yaml

/-- A fault in a document, and the level it is met at. -/
structure Misreading where
  level : Nat
  cause : Unreadable

/-- A part of a document, read with everything in it.  Levels count from the part. -/
abbrev Layered (α : Type) := Except Misreading α

namespace Layered

/-- A part that is read at once. -/
def here {α : Type} (r : Readable α) : Layered α := r.mapError (Misreading.mk 0)

/-- A part that breaks the rules. -/
def malformed {α : Type} : Layered α := here Readable.malformed

/-- A part that is read on the next level. -/
def below {α : Type} (r : Layered α) : Layered α :=
  r.mapError fun fault => { fault with level := fault.level + 1 }

/-- Two parts, one behind the other; of two faults on the same level the first one is met first. -/
def both {α β : Type} (a : Layered α) (b : Layered β) : Layered (α × β) :=
  match a, b with
  | .ok x, .ok y => .ok (x, y)
  | .error f, .ok _ => .error f
  | .ok _, .error g => .error g
  | .error f, .error g => .error (if g.level < f.level then g else f)

/-- One more item in front of some others. -/
def cons {α : Type} (a : Layered α) (rest : Layered (List α)) : Layered (List α) :=
  (both a rest).map fun (x, xs) => x :: xs

/-- Two lists, one behind the other. -/
def append {α : Type} (a b : Layered (List α)) : Layered (List α) :=
  (both a b).map fun (xs, ys) => xs ++ ys

end Layered

end Yaml
end TypeFiles
