/-!
# Formulas

The expression trees of computed fields, the tokens that they are written with, and what can be
wrong with a written one.

* `Formula.fields`: the paths that a formula reads, each once.
* `FormulaError.message`: the wording of an error.
-/

namespace Reshape

inductive Operation where
  | add
  | sub
  | mul
  | div
deriving DecidableEq, Repr

def Operation.symbol : Operation → String
  | add => "+"
  | sub => "-"
  | mul => "*"
  | div => "/"

inductive Formula where
  | number (x : Float)
  | text (s : String)
  | field (path : String)
  | neg (e : Formula)
  | binary (op : Operation) (lhs rhs : Formula)

namespace Formula

/-- The paths seen so far, followed by the new ones of a formula from left to right. -/
def fieldsFrom (seen : List String) : Formula → List String
  | number _ => seen
  | text _ => seen
  | field path => if path ∈ seen then seen else seen ++ [path]
  | neg e => e.fieldsFrom seen
  | binary _ lhs rhs => rhs.fieldsFrom (lhs.fieldsFrom seen)

/-- The paths that a formula reads, in the order of their first places. -/
def fields (e : Formula) : List String :=
  e.fieldsFrom []

end Formula

inductive Token where
  | number (x : Float)
  | text (s : String)
  | name (s : String)
  | symbol (op : Operation)
  | left
  | right

/-- What is wrong with a written formula. A missing token is the end of the formula. -/
inductive FormulaError where
  | character (c : Char) (offset : Nat)
  | numeral (digits : String)
  | unclosed
  | empty
  | trailing (found : Token)
  | noRight (found : Option Token)
  | noValue (found : Option Token)

end Reshape
