import Hostlink.Text.Integer
/-!
How severe a log event is, and the names of the degrees in settings and in forwarded events.
-/

namespace Hostlink

/-- The degrees of severity, the most severe first. -/
inductive Severity where
  | error
  | warn
  | info
  | debug
  | trace
deriving Repr, DecidableEq, Inhabited

namespace Severity

/-- All degrees, the most severe first. -/
def all : List Severity :=
  [error, warn, info, debug, trace]

/-- The position of a degree, from one for the most severe on. -/
def rank : Severity → Nat
  | error => 1
  | warn => 2
  | info => 3
  | debug => 4
  | trace => 5

/-- The name of a degree. -/
def name : Severity → String
  | error => "error"
  | warn => "warn"
  | info => "info"
  | debug => "debug"
  | trace => "trace"

/-- Whether two names differ at most in the case of ASCII letters. -/
def sameName (a b : String) : Bool :=
  a.toList.map Char.toLower == b.toList.map Char.toLower

/-- The degree of a rank, or of a name in upper or lower case. -/
def ofText? (text : String) : Option Severity :=
  match (Text.IntegerRange.unsigned 64).read 10 text.toList with
  | .ok rank => all.find? fun s => (s.rank : Int) == rank
  | .error _ => all.find? (sameName ·.name text)

end Severity
end Hostlink
