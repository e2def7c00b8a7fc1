import Relational.Error
import Relational.Expr
import Relational.Value.Key
import Relational.Value.Order

/-!
# Aggregates over the values of a group

An accumulator is fed one value after another.  Nulls have no effect, and with
`DISTINCT` neither has a value whose key was seen before.  Sums of integers are
exact as long as they fit 64 bits; a float among the values, or a sum that once
left the range, makes the result a float.
-/

namespace Relational

/-- The state of an aggregate part of the way through a group. -/
structure Accumulator where
  function : AggregateFunction
  /-- The keys seen so far, if repetitions have no effect. -/
  seen : Option (List Key)
  count : Nat
  /-- The exact sum of the integers, as long as it fits 64 bits. -/
  integerSum : Option Int
  floatSum : Binary64
  sawFloat : Bool
  extreme : Option Value

namespace Accumulator

/-- The state before the first value. -/
def start (function : AggregateFunction) (distinct : Bool) : Accumulator where
  function := function
  seen := if distinct then some [] else none
  count := 0
  integerSum := some 0
  floatSum := 0.0
  sawFloat := false
  extreme := none

/-- The sum of two integers if it fits 64 bits. -/
def addWithin (sum : Int) (n : Int64) : Option Int :=
  let total := sum + n.toInt
  if Int64.minValue.toInt ≤ total ∧ total ≤ Int64.maxValue.toInt then some total else none

/-- Add a number to the sums; anything else is an error. -/
def addNumber (state : Accumulator) : Value → Accumulator × Option Error
  | .integer n =>
    ({ state with
        integerSum := state.integerSum.bind fun sum => addWithin sum n
        floatSum := state.floatSum + Binary64.ofInt64 n }, none)
  | .float x => ({ state with sawFloat := true, floatSum := state.floatSum + x }, none)
  | value => (state, some (.typeMismatch (.notNumeric state.function.name value)))

/-- Keep a value if it comes before the extreme so far in the wanted order. -/
def keepExtreme (state : Accumulator) (wanted : Ordering) (value : Value) : Accumulator :=
  match state.extreme with
  | none => { state with extreme := some value }
  | some current =>
    if value.sortCompare current = wanted then { state with extreme := some value } else state

/-- Count a value and let the function take it in. -/
def take (state : Accumulator) (value : Value) : Accumulator × Option Error :=
  let counted := { state with count := state.count + 1 }
  match state.function with
  | .count => (counted, none)
  | .sum => counted.addNumber value
  | .avg => counted.addNumber value
  | .min => (counted.keepExtreme .lt value, none)
  | .max => (counted.keepExtreme .gt value, none)

/-- Feed a value.  The state goes on even if the value is an error. -/
def feed (state : Accumulator) (value : Value) : Accumulator × Option Error :=
  match Key.ofValue? value with
  | none => (state, none)
  | some key =>
    match state.seen with
    | none => state.take value
    | some keys =>
      if key ∈ keys then (state, none)
      else take { state with seen := some (key :: keys) } value

/-- The value of the aggregate.  Without values it is null, except for a
count. -/
def result (state : Accumulator) : Value :=
  match state.function with
  | .count => .integer (Int64.ofNat state.count)
  | function =>
    if state.count = 0 then .null
    else
      match function with
      | .sum =>
        match state.integerSum, state.sawFloat with
        | some sum, false => .integer (Int64.ofInt sum)
        | _, _ => .float state.floatSum
      | .avg => .float (state.floatSum / Binary64.ofNat state.count)
      | _ => state.extreme.getD .null

/-- Feed a value for each item of a list, up to the first error. -/
def feedEach {α : Type} (valueOf : α → Except Error Value) (state : Accumulator) :
    List α → Except Error Accumulator
  | [] => .ok state
  | item :: rest => do
    let value ← valueOf item
    match state.feed value with
    | (next, none) => feedEach valueOf next rest
    | (_, some error) => .error error

end Accumulator

end Relational
