import MarkdownDialects.Text.Numeral

/-!
# Values

The values that data files hold, whatever their notation.
-/

namespace MarkdownDialects

/-- A value of a data file. -/
inductive Value where
  | null
  | bool (b : Bool)
  | int (n : Int)
  | real (x : Float)
  | text (t : Text)
  /-- A date, a time, or both. -/
  | moment (t : Text)
  | list (items : List Value)
  | table (entries : List (Text × Value))
deriving Inhabited

namespace Value

/-- The entry of a table under a key. -/
def get? (entries : List (Text × Value)) (key : String) : Option Value :=
  (entries.find? fun (k, _) => k == key.toList).map Prod.snd

/-- A truth value, and nothing else. -/
def bool? : Value → Option Bool
  | bool b => some b
  | _ => none

/-- A natural number of 64 bits, and nothing else. -/
def nat64? : Value → Option Nat
  | int n => if 0 ≤ n ∧ n < Numeral.bound then some n.toNat else none
  | _ => none

end Value

end MarkdownDialects
