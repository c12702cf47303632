import DocShape.Pattern.Expression

namespace DocShape.Pattern

/-! How large the automaton for a pattern is.

A counted repetition takes its inner expression as many times as it is counted.  A pattern
that takes more states than the limit is refused.  The number of states is an estimate: classes
count by their ranges of code points, whatever bytes these take.
-/

namespace CharSet

/-- A state for each range of characters. -/
def size : CharSet → Nat
  | .ranges members => members.length
  | .union left right => left.size + right.size
  | .intersection left right => left.size + right.size
  | .difference left right => left.size + right.size
  | .symmetricDifference left right => left.size + right.size
  | .complement inner => inner.size + 4
  | .anyCase inner => inner.size + 1
  | .anyAsciiCase inner => inner.size + 1

end CharSet

namespace Expression

def size : Expression → Nat
  | .empty => 1
  | .one set => set.size
  | .assertion _ => 1
  | .sequence first second => first.size + second.size
  | .choice left right => left.size + right.size + 1
  | .repeated inner least most => max least (most.getD 1) * inner.size + 1

/-- About how many states fit into ten megabytes, if each takes 32 bytes.  An automaton of bytes
is measured exactly only once it is made, so that near the limit another one may be refused. -/
def sizeLimit : Nat := 10 * Nat.pow 2 20 / 32

end Expression
end DocShape.Pattern
