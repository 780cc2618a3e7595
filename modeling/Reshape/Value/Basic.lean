/-!
# Values and records

The dynamic values that flow through a pipeline: those of JSON, with integral numbers kept apart
from floats so that `1` and `1.0` are written back as they were read. A record is the field list
of an object in its order.

* `Record.get?_insert`: what is read after a field is written.
* `Record.keys_insert`: writing a field keeps the order of the others, and a new one comes last.
-/

namespace Reshape

/-- A number is an exact integer or a 64-bit float. -/
inductive Number where
  | int (n : Int)
  | float (x : Float)

inductive Value where
  | null
  | bool (b : Bool)
  | number (n : Number)
  | string (s : String)
  | array (items : List Value)
  | object (fields : List (String × Value))

/-- Named fields in order, with one value each. -/
abbrev Record := List (String × Value)

namespace Number

def toFloat : Number → Float
  | int n => Float.ofInt n
  | float x => x

end Number

namespace Value

def int (n : Int) : Value :=
  number (.int n)

def kind : Value → String
  | null => "null"
  | bool _ => "a boolean"
  | number _ => "a number"
  | string _ => "a string"
  | array _ => "an array"
  | object _ => "an object"

def isNull : Value → Bool
  | null => true
  | _ => false

def asRecord? : Value → Option Record
  | object fields => some fields
  | _ => none

end Value

namespace Record

def keys (r : Record) : List String :=
  r.map Prod.fst

def get? : Record → String → Option Value
  | [], _ => none
  | (k, v) :: rest, key => if k = key then some v else get? rest key

def contains (r : Record) (key : String) : Bool :=
  (r.get? key).isSome

/-- A field that is there keeps its place and takes the value; another one comes last. -/
def insert : Record → String → Value → Record
  | [], key, value => [(key, value)]
  | (k, v) :: rest, key, value =>
    if k = key then (k, value) :: rest else (k, v) :: insert rest key value

def erase (r : Record) (key : String) : Record :=
  r.filter fun field => field.1 ≠ key

/-- The fields in order, of repeated names the first place and the last value. -/
def ofList (fields : List (String × Value)) : Record :=
  fields.foldl (fun r field => r.insert field.1 field.2) []

/-- No two fields share a name. -/
def Distinct (r : Record) : Prop :=
  r.keys.Nodup

@[simp] theorem get?_nil (key : String) : get? [] key = none := rfl

theorem get?_cons (k : String) (v : Value) (rest : Record) (key : String) :
    get? ((k, v) :: rest) key = if k = key then some v else get? rest key := rfl

theorem get?_insert (r : Record) (key other : String) (value : Value) :
    (r.insert key value).get? other = if key = other then some value else r.get? other := by
  induction r with
  | nil => simp [insert, get?]
  | cons field rest ih =>
      obtain ⟨k, v⟩ := field
      by_cases same : k = key
      · subst same
        by_cases here : k = other <;> simp [insert, get?, here]
      · by_cases here : k = other
        · subst here
          simp [insert, get?, same, Ne.symm same]
        · simp [insert, get?, same, here, ih]

theorem get?_isSome (r : Record) (key : String) : (r.get? key).isSome ↔ key ∈ r.keys := by
  induction r with
  | nil => simp [get?, keys]
  | cons field rest ih =>
      obtain ⟨k, v⟩ := field
      by_cases here : k = key
      · simp [get?, keys, here]
      · simp only [get?, here, if_false, ih, keys, List.map_cons, List.mem_cons]
        simp [Ne.symm here]

theorem keys_insert (r : Record) (key : String) (value : Value) :
    (r.insert key value).keys = if key ∈ r.keys then r.keys else r.keys ++ [key] := by
  induction r with
  | nil => simp [insert, keys]
  | cons field rest ih =>
      obtain ⟨k, v⟩ := field
      by_cases here : k = key
      · subst here
        simp [insert, keys]
      · simp only [keys] at ih
        simp only [insert, here, if_false, keys, List.map_cons, ih, List.mem_cons, Ne.symm here,
          false_or]
        by_cases member : key ∈ List.map Prod.fst rest <;> simp [member]

theorem insert_distinct {r : Record} (h : r.Distinct) (key : String) (value : Value) :
    (r.insert key value).Distinct := by
  unfold Distinct at *
  rw [keys_insert]
  split
  · exact h
  · rename_i absent
    simp only [List.nodup_append, h, List.nodup_cons, List.not_mem_nil, not_false_eq_true,
      List.nodup_nil, and_self, List.mem_singleton, true_and]
    rintro a member b rfl same
    exact absent (same ▸ member)

end Record

end Reshape
