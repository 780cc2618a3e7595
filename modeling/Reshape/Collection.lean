import Reshape.Value.Basic

/-!
# Collections

What flows between the steps of a pipeline: one record, or a sequence of records.

* `Collection.ofValue_toValue`: a collection survives being written as a value and read again.
-/

namespace Reshape

inductive Collection where
  | single (r : Record)
  | many (rs : List Record)

inductive InputError where
  | element (index : Nat) (kind : String)
  | topLevel (kind : String)
deriving DecidableEq, Repr

def InputError.message : InputError → String
  | element index kind =>
    "element " ++ toString index ++ " is " ++ kind ++ ", expected an object"
  | topLevel kind =>
    "top-level value is " ++ kind ++ ", expected an object or an array of objects"

namespace Collection

/-- The items as records, the first of them at position `index`. -/
def recordsFrom (index : Nat) : List Value → Except InputError (List Record)
  | [] => .ok []
  | .object r :: rest => do return r :: (← recordsFrom (index + 1) rest)
  | item :: _ => .error (.element index item.kind)

def ofValue : Value → Except InputError Collection
  | .object r => .ok (single r)
  | .array items => do return many (← recordsFrom 0 items)
  | v => .error (.topLevel v.kind)

def toValue : Collection → Value
  | single r => .object r
  | many rs => .array (rs.map .object)

def records : Collection → List Record
  | single r => [r]
  | many rs => rs

def length (c : Collection) : Nat :=
  c.records.length

def isSequence : Collection → Bool
  | single _ => false
  | many _ => true

theorem recordsFrom_map (index : Nat) (rs : List Record) :
    recordsFrom index (rs.map .object) = .ok rs := by
  induction rs generalizing index with
  | nil => rfl
  | cons r rs ih => simp [recordsFrom, ih, bind, Except.bind, pure, Except.pure]

theorem ofValue_toValue (c : Collection) : ofValue c.toValue = .ok c := by
  cases c with
  | single r => rfl
  | many rs => simp [ofValue, toValue, recordsFrom_map, bind, Except.bind, pure, Except.pure]

end Collection

end Reshape
