import Reshape.Formula.Lexer

/-!
# Reading a formula

The grammar, from loose to tight:

* a sum is terms joined by `+` and `-`, grouped to the left;
* a term is factors joined by `*` and `/`, grouped to the left;
* a factor is `-` or `+` before a factor, or a primary; the plus sign leaves no trace;
* a primary is a number, a text, a name, or a sum in parentheses.
-/

namespace Reshape.Formula

def joinsTerms? : Token → Option Operation
  | .symbol .add => some .add
  | .symbol .sub => some .sub
  | _ => none

def joinsFactors? : Token → Option Operation
  | .symbol .mul => some .mul
  | .symbol .div => some .div
  | _ => none

/-- A tree with the tokens that follow it. -/
abbrev Parsed := Except FormulaError (Formula × List Token)

mutual

def sum : Nat → List Token → Parsed
  | 0, ts => .error (.noValue ts.head?)
  | fuel + 1, ts => do
    let (lhs, ts) ← term fuel ts
    moreTerms fuel lhs ts

/-- The terms that follow on a sum that is already read. -/
def moreTerms : Nat → Formula → List Token → Parsed
  | 0, _, ts => .error (.noValue ts.head?)
  | _ + 1, lhs, [] => .ok (lhs, [])
  | fuel + 1, lhs, t :: ts =>
    match joinsTerms? t with
    | some op => do
      let (rhs, ts) ← term fuel ts
      moreTerms fuel (.binary op lhs rhs) ts
    | none => .ok (lhs, t :: ts)

def term : Nat → List Token → Parsed
  | 0, ts => .error (.noValue ts.head?)
  | fuel + 1, ts => do
    let (lhs, ts) ← factor fuel ts
    moreFactors fuel lhs ts

/-- The factors that follow on a term that is already read. -/
def moreFactors : Nat → Formula → List Token → Parsed
  | 0, _, ts => .error (.noValue ts.head?)
  | _ + 1, lhs, [] => .ok (lhs, [])
  | fuel + 1, lhs, t :: ts =>
    match joinsFactors? t with
    | some op => do
      let (rhs, ts) ← factor fuel ts
      moreFactors fuel (.binary op lhs rhs) ts
    | none => .ok (lhs, t :: ts)

def factor : Nat → List Token → Parsed
  | 0, ts => .error (.noValue ts.head?)
  | fuel + 1, ts =>
    match ts with
    | .symbol .sub :: ts => do
      let (e, ts) ← factor fuel ts
      return (.neg e, ts)
    | .symbol .add :: ts => factor fuel ts
    | .number x :: ts => .ok (.number x, ts)
    | .text s :: ts => .ok (.text s, ts)
    | .name path :: ts => .ok (.field path, ts)
    | .left :: ts => do
      let (e, ts) ← sum fuel ts
      match ts with
      | .right :: ts => return (e, ts)
      | ts => throw (.noRight ts.head?)
    | ts => .error (.noValue ts.head?)

end

/-- The formula that a list of tokens writes. Each token takes at most four steps of the reader, so
the fuel never runs out before the tokens do. -/
def ofTokens (ts : List Token) : Except FormulaError Formula :=
  if ts.isEmpty then .error .empty
  else do
    let (e, rest) ← sum (4 * ts.length + 4) ts
    match rest with
    | [] => return e
    | t :: _ => throw (.trailing t)

def read (source : String) : Except FormulaError Formula := do
  ofTokens (← tokens source)

end Reshape.Formula
