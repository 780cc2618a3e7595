import Reshape.Formula.Message
import Reshape.Record.Path
import Reshape.Value.Display

/-!
# The value of a formula on a record

Operands are numbers or texts. A field that holds a number, or a text that spells one, is a number.
`+` adds two numbers and joins any other two operands; the other operations need numbers.
-/

namespace Reshape

inductive Operand where
  | number (x : Float)
  | text (s : String)

inductive EvalError where
  | absent (path : String)
  | null (path : String)
  | unusable (path : String) (shown : String)
  | notNumeric (s : String) (op : Operation)
  | notNegatable (s : String)
  | divisionByZero
  | notFinite
deriving DecidableEq, Repr

def EvalError.message (e : EvalError) : String :=
  "evaluation error: " ++
    match e with
    | absent path => "field '" ++ path ++ "' is absent"
    | null path => "field '" ++ path ++ "' is null"
    | unusable path shown =>
      "field '" ++ path ++ "' holds " ++ shown ++ " which cannot be used in an expression"
    | notNumeric s op => "'" ++ s ++ "' is not numeric for '" ++ op.symbol ++ "'"
    | notNegatable s => "cannot negate non-numeric '" ++ s ++ "'"
    | divisionByZero => "division by zero"
    | notFinite => "result is not a finite number"

namespace Operand

def display : Operand → String
  | number x => floatText x
  | text s => s

def toFloat? : Operand → Option Float
  | number x => some x
  | text s => numberIn? s

/-- The operand as a number for an operation that needs one. -/
def numberFor (op : Operation) : Operand → Except EvalError Float
  | number x => .ok x
  | text s =>
    match numberIn? s with
    | some x => .ok x
    | none => .error (.notNumeric s op)

def negate : Operand → Except EvalError Operand
  | number x => .ok (number (-x))
  | text s =>
    match numberIn? s with
    | some x => .ok (number (-x))
    | none => .error (.notNegatable s)

def add : Operand → Operand → Operand
  | number a, number b => number (a + b)
  | a, b => text (a.display ++ b.display)

/-- An operation on the numbers of two operands; the left one is looked at first. -/
def arithmetic (op : Operation) (f : Float → Float → Except EvalError Float) (lhs rhs : Operand) :
    Except EvalError Operand := do
  let a ← lhs.numberFor op
  let b ← rhs.numberFor op
  return number (← f a b)

def divide (a b : Float) : Except EvalError Float :=
  if b == 0 then .error .divisionByZero else .ok (a / b)

def combine : Operation → Operand → Operand → Except EvalError Operand
  | .add => fun a b => .ok (add a b)
  | .sub => arithmetic .sub fun a b => .ok (a - b)
  | .mul => arithmetic .mul fun a b => .ok (a * b)
  | .div => arithmetic .div divide

def ofField (path : String) : Option Value → Except EvalError Operand
  | none => .error (.absent path)
  | some .null => .error (.null path)
  | some (.number n) => .ok (number n.toFloat)
  | some (.string s) =>
    match numberIn? s with
    | some x => .ok (number x)
    | none => .ok (text s)
  | some v => .error (.unusable path v.display)

def toValue : Operand → Except EvalError Value
  | number x =>
    match Value.ofFloat? x with
    | some v => .ok v
    | none => .error .notFinite
  | text s => .ok (.string s)

end Operand

namespace Formula

def operand (r : Record) : Formula → Except EvalError Operand
  | number x => .ok (.number x)
  | text s => .ok (.text s)
  | field path => Operand.ofField path (r.resolve path)
  | neg e => do (← e.operand r).negate
  | binary op lhs rhs => do
    let a ← lhs.operand r
    let b ← rhs.operand r
    Operand.combine op a b

def evaluate (e : Formula) (r : Record) : Except EvalError Value := do
  (← e.operand r).toValue

end Formula

end Reshape
