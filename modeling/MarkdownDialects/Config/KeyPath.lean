import MarkdownDialects.Data.Value
import MarkdownDialects.Text.LowerCase

/-!
# Keys of settings

Settings are layered key by key: a table that is set adds to the table that is there, and any other
value takes the place of what is there.  The case of keys does not matter.
-/

namespace MarkdownDialects

namespace Config

/-- One step of a path into a value. -/
inductive KeyStep where
  | child (key : Text)
  | index (i : Int)
deriving DecidableEq

/-- Characters of keys in a path. -/
def isKeyChar (c : Char) : Bool := c.isAlphanum || c == ' ' || c == '_' || c == '-'

/-- Blanks around an index. -/
abbrev skipBlanks (t : Text) : Text := t.dropWhile fun c => c == ' ' || c == '\t'

/-- An index and the text after it. -/
def index? (t : Text) : Option (Int × Text) := do
  let t := skipBlanks t
  let negative := t.head? == some '-'
  let t := if negative then t.drop 1 else t
  let digits := t.takeWhile Char.isDigit
  let n : Int := if negative then -Numeral.value digits else Numeral.value digits
  if digits.isEmpty || n < -9223372036854775808 || 9223372036854775807 < n then none
  else some (n, skipBlanks (t.dropWhile Char.isDigit))

/-- A key and the text after it. -/
def key? (t : Text) : Option (Text × Text) :=
  match t.takeWhile isKeyChar with
  | [] => none
  | key => some (Text.lower key, t.dropWhile isKeyChar)

/-- The steps after the first key of a path.  The fuel is the length of the text. -/
def steps? : Nat → Text → Option (List KeyStep)
  | _, [] => some []
  | 0, _ => none
  | fuel + 1, '.' :: rest => do
    let (key, rest) ← key? rest
    return .child key :: (← steps? fuel rest)
  | fuel + 1, '[' :: rest => do
    let (i, rest) ← index? rest
    let rest ← Text.after? [']'] rest
    return .index i :: (← steps? fuel rest)
  | _, _ => none

/-- A path: a key, then keys after full stops and indices in brackets. -/
def path? (t : Text) : Option (List KeyStep) := do
  let (key, rest) ← key? t
  return .child key :: (← steps? t.length rest)

/-- The entries of a table; other values have none. -/
def entries : Value → List (Text × Value)
  | .table es => es
  | _ => []

/-- The entry under a key. -/
def valueAt? (es : List (Text × Value)) (key : Text) : Option Value :=
  (es.find? (·.1 == key)).map Prod.snd

/-- Put a value under a key. -/
def put (es : List (Text × Value)) (key : Text) (v : Value) : List (Text × Value) :=
  if es.any (·.1 == key) then es.map fun e => if e.1 == key then (key, v) else e
  else es ++ [(key, v)]

mutual

/-- Set a key of a table; what is no table becomes an empty one first. -/
def setKey (key : Text) : Value → Value → Value
  | .table incoming, old =>
    let es := entries old
    .table (put es key (setAll incoming ((valueAt? es key).getD (.table []))))
  | v, old => .table (put (entries old) key v)

/-- Set keys one after the other, their letters in lower case. -/
def setAll : List (Text × Value) → Value → Value
  | [], old => old
  | (key, v) :: rest, old => setAll rest (setKey (Text.lower key) v old)

end

/-- The items of a list; other values have none. -/
def items : Value → List Value
  | .list vs => vs
  | _ => []

/-- The place that an index means; a negative one counts from the end. -/
def place (i : Int) (length : Nat) : Nat := if 0 ≤ i then i.toNat else length - i.natAbs

/-- A list with an item changed; missing items are null. -/
def changeItem (i : Int) (change : Value → Value) (vs : List Value) : List Value :=
  let n := place i vs.length
  let vs := vs ++ List.replicate (n + 1 - vs.length) .null
  vs.modify n change

/-- Set what a path leads to.  Tables and lists on the way come into being, in place of what is no
table or no list. -/
def setPath : List KeyStep → Value → Value → Value
  | [], v, _ => v
  | [.child key], v, old => setKey key v old
  | .child key :: rest, v, old =>
    let es := entries old
    .table (put es key (setPath rest v ((valueAt? es key).getD .null)))
  | .index i :: rest, v, old => .list (changeItem i (setPath rest v) (items old))

end Config

end MarkdownDialects
