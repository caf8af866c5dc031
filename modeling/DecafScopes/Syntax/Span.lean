/-!
# Spans of source text

A position counts bytes, lines and columns at once; a span is the stretch of
text between two positions.  Both are shown to a reader as `line:column`, a
span by the place where it starts.
-/

set_option autoImplicit false

namespace DecafScopes

/-- A place in a source text.  Its numbers have no bound.  They are only compared and
shown, so that machine words serve as well for all numbers that fit; the lines from a
builder fit into 32 bits as long as it has given out fewer than `2 ^ 32 - 1` places. -/
structure Position where
  /-- Bytes before the place. -/
  offset : Nat
  /-- The line, counted from one. -/
  line : Nat
  /-- The column, counted from one. -/
  column : Nat
deriving DecidableEq

/-- The half-open stretch of text from `start` up to `stop`. -/
structure Span where
  start : Position
  stop : Position
deriving DecidableEq

/-- A position is shown by its line and column alone. -/
def Position.text (position : Position) : String :=
  toString position.line ++ ":" ++ toString position.column

/-- A span is shown by where it starts. -/
def Span.text (span : Span) : String :=
  span.start.text

end DecafScopes
