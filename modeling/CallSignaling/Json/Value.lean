import CallSignaling.Decimal.Binary64

/-!
# JSON values

A number is an integer when it is written without fraction and exponent, is not `-0`, and lies
between `-2 ^ 63` and `2 ^ 64 - 1`; every other number is a signed double.  An object keeps its
members as written; of equal keys the last one counts.
-/

namespace CallSignaling

namespace Json

/-- A number as read. -/
inductive Number where
  | integer (value : Int)
  | double (negative : Bool) (magnitude : Decimal.Binary64)
deriving DecidableEq, Repr

/-- The integer, if it is one of 64 bits with a sign. -/
def Number.int64? : Number → Option Int
  | .integer i => if -Int.pow 2 63 ≤ i ∧ i < Int.pow 2 63 then some i else none
  | .double .. => none

end Json

/-- A JSON value. -/
inductive Json where
  | null
  | bool (value : Bool)
  | number (value : Json.Number)
  | string (value : String)
  | array (items : List Json)
  | object (members : List (String × Json))
deriving Repr

namespace Json

/-- The value of the last member with this key. -/
def member? (key : String) : List (String × Json) → Option Json
  | [] => none
  | (k, v) :: rest =>
    match member? key rest with
    | some w => some w
    | none => if k = key then some v else none

@[simp] theorem member?_nil (key : String) : member? key [] = none := rfl

theorem member?_append (key : String) (xs ys : List (String × Json)) :
    member? key (xs ++ ys) = (member? key ys).or (member? key xs) := by
  induction xs with
  | nil => simp
  | cons x xs ih =>
    obtain ⟨k, v⟩ := x
    simp only [List.cons_append, member?, ih]
    cases member? key ys <;> simp

end Json

end CallSignaling
