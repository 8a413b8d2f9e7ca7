namespace ResourceQuery.Pattern

inductive WordEdge
  | boundary
  | noBoundary
  | start
  | stop
  | noneBefore
  | noneAfter
  deriving DecidableEq, Repr

inductive Look
  | start
  | stop
  | lineStart (crlf : Bool)
  | lineEnd (crlf : Bool)
  | word (edge : WordEdge) (unicode : Bool)
  deriving DecidableEq, Repr

def WordEdge.holds (before after : Bool) : WordEdge → Bool
  | boundary => before != after
  | noBoundary => before == after
  | start => !before && after
  | stop => before && !after
  | noneBefore => !before
  | noneAfter => !after

/-- Whether a condition holds between the characters before and after a place. The characters of
words are given for the two meanings of a word. -/
def Look.holds (isWord : Bool → Char → Bool) (before after : Option Char) : Look → Bool
  | start => before.isNone
  | stop => after.isNone
  | lineStart false => before.all (· == '\n')
  | lineStart true => before.all fun c => c == '\n' || (c == '\r' && after != some '\n')
  | lineEnd false => after.all (· == '\n')
  | lineEnd true => after.all fun c => c == '\r' || (c == '\n' && before != some '\r')
  | word edge unicode => edge.holds (before.any (isWord unicode)) (after.any (isWord unicode))

end ResourceQuery.Pattern
