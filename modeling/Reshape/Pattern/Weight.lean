import Reshape.Pattern.Basic

/-!
# The size of a pattern

Repetitions in a pattern multiply: an automaton for `(a{1000}){1000}` has a million states. The weight
of a pattern is about the number of bytes that its automaton takes, and patterns that are too heavy are
refused.

The weight is an estimate. It leaves out the states that alternatives and ranges of UTF-8 bytes share,
the literals that are searched for without an automaton, and the growth of the automaton in memory, so
a pattern close to the limit may be refused here and accepted by a regex library, or the other way
round.
-/

namespace Reshape

def stateWeight : Nat := 32

namespace CharSet

/-- Ranges of ASCII characters are cheap, and a single character takes a state for each of its bytes. -/
def rangesWeight (r : Unicode.Ranges) : Nat :=
  match r with
  | [low, high] =>
    if low = high then stateWeight * (Char.ofNat low).utf8Size else 2 * stateWeight
  | r => if r.all (· < 0x80) then 2 * stateWeight + 4 * r.length else 8 * r.length

def weight : CharSet → Nat
  | ranges r => rangesWeight r
  | union a b => a.weight + b.weight
  | inter a b => a.weight + b.weight
  | diff a b => a.weight + b.weight
  | symmDiff a b => a.weight + b.weight
  | compl a => 12 * stateWeight + a.weight

end CharSet

namespace Pattern

/-- Every round of a repetition takes states of its own. -/
def weight : Pattern → Nat
  | empty => stateWeight
  | set _ s => s.weight
  | place _ => stateWeight
  | group _ p => 2 * stateWeight + p.weight
  | seq a b => a.weight + b.weight
  | alt a b => stateWeight + a.weight + b.weight
  | repeated low high _ p =>
    let rounds := high.getD (max low 1)
    rounds * p.weight + (rounds - low + 1) * stateWeight

/-- Ten MiB. -/
def maxWeight : Nat := 10 * 1024 * 1024

end Pattern

end Reshape
