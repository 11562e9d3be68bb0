import Mathlib

/-!
# Keeping the newest of what arrives

`newer key held next` drops what arrives unless its key lies above that of what is held. Whatever
the order of the arrivals, and however often each of them comes, a newest one is held in the end.

Nothing in this file is about a particular program.
-/

namespace Lib

variable {α β : Type} [LinearOrder β] {key : α → β} {arrivals later : List α} {a b : α}

/-- What is held once `next` has arrived. -/
def newer (key : α → β) (held : Option α) (next : α) : Option α :=
  match held with
  | none => some next
  | some current => if key next ≤ key current then some current else some next

/-- What is held once everything has arrived. -/
def newest (key : α → β) (arrivals : List α) : Option α := arrivals.foldl (newer key) none

end Lib
