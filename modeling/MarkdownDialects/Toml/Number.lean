import MarkdownDialects.Data.Value
import MarkdownDialects.Text.Percent

/-!
# Numbers and dates in TOML

Integers of 64 bits in four bases, numbers with a fraction or an exponent, and dates and times,
which are kept as text.
-/

namespace MarkdownDialects

namespace Toml

/-- The digits after a first one, single underscores between them left out. -/
def moreDigits (p : Char → Bool) : Text → Text × Text
  | '_' :: c :: rest =>
    if p c then
      let (digits, rest) := moreDigits p rest
      (c :: digits, rest)
    else ([], '_' :: c :: rest)
  | c :: rest =>
    if p c then
      let (digits, rest) := moreDigits p rest
      (c :: digits, rest)
    else ([], c :: rest)
  | [] => ([], [])

/-- One or more digits. -/
def digits? (p : Char → Bool) : Text → Option (Text × Text)
  | c :: rest =>
    if p c then
      let (digits, rest) := moreDigits p rest
      some (c :: digits, rest)
    else none
  | [] => none

/-- A sign: whether it is a minus, and the text after it. -/
def sign : Text → Bool × Text
  | '-' :: rest => (true, rest)
  | '+' :: rest => (false, rest)
  | t => (false, t)

/-- Decimal digits of a number: a zero stands alone. -/
def whole? : Text → Option (Text × Text)
  | '0' :: rest => some (['0'], rest)
  | t => digits? Char.isDigit t

/-- A number of 64 bits with a sign. -/
def int64? (n : Int) : Option Value :=
  if -9223372036854775808 ≤ n ∧ n ≤ 9223372036854775807 then some (.int n) else none

/-- Digits in a base other than ten. -/
def based? (base : Nat) (t : Text) : Option (Value × Text) := do
  let isDigit (c : Char) : Bool := (Percent.hexValue? c).any (· < base)
  let (digits, rest) ← digits? isDigit t
  let n := digits.foldl (fun n c => base * n + (Percent.hexValue? c).getD 0) 0
  return (← int64? n, rest)

/-- An integer. -/
def integer? : Text → Option (Value × Text)
  | '0' :: 'x' :: rest => based? 16 rest
  | '0' :: 'o' :: rest => based? 8 rest
  | '0' :: 'b' :: rest => based? 2 rest
  | t => do
    let (negative, rest) := sign t
    let (digits, rest) ← whole? rest
    let n : Int := Numeral.value digits
    return (← int64? (if negative then -n else n), rest)

/-- The exponent of a number. -/
def exponent? : Text → Option (Int × Text)
  | 'e' :: rest | 'E' :: rest => do
    let (negative, rest) := sign rest
    let (digits, rest) ← digits? Char.isDigit rest
    let n : Int := Numeral.value digits
    return (if negative then -n else n, rest)
  | _ => none

/-- The number closest to some digits with an exponent.  Beyond four hundred places it is infinite
or zero. -/
def closest (digits : Text) (exponent : Int) : Float :=
  let n := Numeral.value digits
  let places : Int := (Nat.toDigits 10 n).length + exponent
  if n = 0 || places < -400 then 0
  else if 400 < places then 1 / 0
  else if 0 ≤ exponent then Float.ofScientific n false exponent.toNat
  else Float.ofScientific n true (-exponent).toNat

/-- A number with a fraction or an exponent. -/
def fractional? (t : Text) : Option (Value × Text) := do
  let (negative, rest) := sign t
  let (digits, rest) ← whole? rest
  let (digits, places, exponent, rest) ← match rest with
    | '.' :: rest => do
      let (more, rest) ← digits? Char.isDigit rest
      let (exponent, rest) := (exponent? rest).getD (0, rest)
      some (digits ++ more, more.length, exponent, rest)
    | rest => do
      let (exponent, rest) ← exponent? rest
      some (digits, 0, exponent, rest)
  let x := closest digits (exponent - places)
  if negative then return (.real (-x), rest)
  else if x.isInf then none
  else return (.real x, rest)

/-- An infinite number, or none. -/
def special? (t : Text) : Option (Value × Text) :=
  let (negative, rest) := sign t
  let infinite : Float := 1 / 0
  match Text.after? "inf".toList rest, Text.after? "nan".toList rest with
  | some rest, _ => some (.real (if negative then -infinite else infinite), rest)
  | none, some rest => some (.real (0 / 0), rest)
  | none, none => none

/-- So many decimal digits: their value, and what follows. -/
def fixed? (count : Nat) (t : Text) : Option (Nat × Text) :=
  let digits := t.take count
  if digits.length = count && digits.all Char.isDigit then some (Numeral.value digits, t.drop count)
  else none

/-- So many decimal digits whose value is in a range. -/
def within? (count low high : Nat) (t : Text) : Option (Nat × Text) :=
  (fixed? count t).filter fun (n, _) => low ≤ n && n ≤ high

/-- The number of days of a month. -/
def daysIn (year month : Nat) : Nat :=
  if month = 2 then
    if year % 4 = 0 && (year % 100 != 0 || year % 400 = 0) then 29 else 28
  else if [4, 6, 9, 11].contains month then 30
  else 31

/-- The text after a date. -/
def date? (t : Text) : Option Text := do
  let (year, rest) ← fixed? 4 t
  let (month, rest) ← within? 2 1 12 (← Text.after? ['-'] rest)
  let (_, rest) ← within? 2 1 (daysIn year month) (← Text.after? ['-'] rest)
  return rest

/-- The text after the fraction of a second, if there is one. -/
def skipFraction : Text → Text
  | '.' :: c :: rest => if c.isDigit then rest.dropWhile Char.isDigit else '.' :: c :: rest
  | t => t

/-- The text after a time whose hour is at most `lastHour`. -/
def time? (lastHour : Nat) (t : Text) : Option Text := do
  let (_, rest) ← within? 2 0 lastHour t
  let (_, rest) ← within? 2 0 59 (← Text.after? [':'] rest)
  let (_, rest) ← within? 2 0 60 (← Text.after? [':'] rest)
  return skipFraction rest

/-- The text after the distance from universal time. -/
def offset? : Text → Option Text
  | 'Z' :: rest | 'z' :: rest => some rest
  | '+' :: rest | '-' :: rest => do
    let (_, rest) ← within? 2 0 23 rest
    let (_, rest) ← within? 2 0 59 (← Text.after? [':'] rest)
    return rest
  | _ => none

/-- The text after the time that may follow a date. -/
def skipTimeOfDay : Text → Text
  | c :: rest =>
    if c == 'T' || c == 't' || c == ' ' then
      match time? 23 rest with
      | some after => (offset? after).getD after
      | none => c :: rest
    else c :: rest
  | [] => []

/-- A date, a time, or both. -/
def moment? (t : Text) : Option (Value × Text) := do
  let rest ← match date? t with
    | some rest => some (skipTimeOfDay rest)
    | none => time? 23 t
  return (.moment (t.take (t.length - rest.length)), rest)

/-- The text after a distance from universal time that is given in digits and is at most a day. -/
def dayOffset? : Text → Option Text
  | 'Z' :: rest | 'z' :: rest => some rest
  | '+' :: rest | '-' :: rest => do
    let (hours, rest) ← fixed? 2 rest
    let (minutes, rest) ← fixed? 2 (← Text.after? [':'] rest)
    if 60 * hours + minutes ≤ 24 * 60 then some rest else none
  | _ => none

/-- Whether a string describes a date, a time, or both.  It may say more than a value without
quotation marks: the hour may be 24, and a date alone may have a distance from universal time. -/
def describesMoment (t : Text) : Bool :=
  if t[2]? == some ':' then time? 24 t == some []
  else
    let afterTime := (date? t).bind fun rest =>
      match rest with
      | c :: more => if c == 'T' || c == 't' || c == ' ' then time? 24 more else some rest
      | [] => some []
    afterTime.any fun rest => rest.isEmpty || dayOffset? rest == some []

end Toml

end MarkdownDialects
