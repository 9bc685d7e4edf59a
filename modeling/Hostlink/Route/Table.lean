import Hostlink.Route.Pattern
/-!
The table of routes. Routes are only added; they are numbered from zero on, and of several routes
that match a path the first one counts.
-/

namespace Hostlink.Route

variable {η : Type}

/-- A pattern with what handles the paths that match it. -/
structure Entry (η : Type) where
  id : Nat
  pattern : Pattern
  handler : η

/-- How a route is called in messages. -/
def Entry.name (entry : Entry η) : String :=
  "route#" ++ toString entry.id

/-- How a route is shown in full. -/
def Entry.describe (entry : Entry η) : String :=
  "Route \x7b id: RouteId(" ++ toString entry.id ++ "), pattern: " ++
    Text.quoted entry.pattern.text ++ " \x7d"

/-- A table of routes. -/
structure Table (η : Type) where
  entries : List (Entry η) := []

namespace Table

/-- The number of routes. -/
def size (table : Table η) : Nat :=
  table.entries.length

/-- Add a route, if its pattern is one, and tell its number. -/
def register (table : Table η) (text : String) (handler : η) : Except Fault (Nat × Table η) := do
  let pattern ← Pattern.ofText text
  return (table.size, ⟨table.entries ++ [⟨table.size, pattern, handler⟩]⟩)

/-- The first route that matches a path, with the parameters of the path. -/
def find? (table : Table η) (path : String) : Option (Entry η × Params) :=
  table.entries.findSome? fun entry => (entry.pattern.matches? path).map (entry, ·)

end Table
end Hostlink.Route
