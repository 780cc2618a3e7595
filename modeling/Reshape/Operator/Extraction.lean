import Reshape.Digest.Encoding
import Reshape.Operator.Argument
import Reshape.Record.Path

/-!
# Which records a sequence has

The arguments of the operators that keep some of the records in their order, and `distinct`, which
keeps the first record of each key.
-/

namespace Reshape

namespace Extraction

/-- A condition, or a mapping that holds it. -/
def readFilter (v : Value) : Except ConfigError Condition := do
  let source ← match v with
    | .string s => pure s
    | v => do
      Argument.required (← Argument.mapping "filter" v) "condition" ["where"] Argument.text
  (Condition.read source).mapError .condition

def readCount (operator : String) : Value → Except ConfigError Nat
  | .object args => do
    match ← Argument.optional args "count" ["n"] Argument.count with
    | some n => return n
    | none => throw (.noCount operator)
  | v => Argument.count operator v

end Extraction

/-- What a record is told apart by: the values at some paths, or the whole record. -/
inductive Identity where
  | paths (paths : List String)
  | whole

namespace Identity

def key (i : Identity) (r : Record) : GroupKey :=
  match i with
  | paths ps => .ofValues (ps.map r.resolve)
  | whole => .ofRecord r

/-- The records whose key no earlier record has. -/
def distinct (i : Identity) (rs : List Record) : List Record :=
  let keyed := rs.map fun r => (i.key r, r)
  (keyed.eraseDupsBy fun a b => a.1 == b.1).map Prod.snd

def read : Value → Except ConfigError Identity
  | .null => .ok whole
  | .bool true => .ok whole
  | .string "" => .ok whole
  | .object args =>
    match Argument.given? args ["fields", "by"] with
    | some v => (Argument.names "distinct" v).map paths
    | none => .ok whole
  | v => (Argument.names "distinct" v).map paths

end Identity

end Reshape
