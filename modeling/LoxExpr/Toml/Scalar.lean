import LoxExpr.Number.Decimal
import LoxExpr.Toml.Text

/-!
# TOML numbers, dates and times

Whole numbers are decimal, hexadecimal, octal or binary, floats have a fraction or an exponent,
and single underscores may stand between digits. Dates and times are checked against the calendar
and the clock.
-/

namespace LoxExpr.Toml

/-! ## Numbers -/

/-- The digits after a first digit; an underscore belongs to them only if a digit follows it. -/
def moreDigits (isDigit : Char → Bool) : List Char → List Char × List Char
  | '_' :: c :: rest =>
    if isDigit c then
      let (digits, rest) := moreDigits isDigit rest
      (c :: digits, rest)
    else ([], '_' :: c :: rest)
  | c :: rest =>
    if isDigit c then
      let (digits, rest) := moreDigits isDigit rest
      (c :: digits, rest)
    else ([], c :: rest)
  | [] => ([], [])

/-- One digit or more. -/
def digits? (isDigit : Char → Bool) : List Char → Option (List Char × List Char)
  | c :: rest =>
    if isDigit c then
      let (digits, rest) := moreDigits isDigit rest
      some (c :: digits, rest)
    else none
  | [] => none

/-- The number that digits write in a base up to sixteen. -/
def ofDigits (base : Nat) (digits : List Char) : Nat :=
  digits.foldl (fun n c => base * n + (hexValue? c).getD 0) 0

/-- The base that a letter after a leading zero chooses, and its digits. -/
def base? : Char → Option (Nat × (Char → Bool))
  | 'x' => some (16, fun c => (hexValue? c).isSome)
  | 'o' => some (8, fun c => '0' ≤ c && c ≤ '7')
  | 'b' => some (2, fun c => c = '0' || c = '1')
  | _ => none

/-- A whole number in another base than ten. -/
def prefixed? : List Char → Option (Value × List Char)
  | '0' :: letter :: rest => do
    let (base, isDigit) ← base? letter
    let (digits, rest) ← digits? isDigit rest
    some (.integer (ofDigits base digits), rest)
  | _ => none

/-- The whole part of a decimal number: a zero, or digits that do not begin with one. -/
def wholePart? : List Char → Option (List Char × List Char)
  | '0' :: rest => some (['0'], rest)
  | text => digits? Char.isDigit text

/-- A point and digits; the digits. -/
def fractionPart? : List Char → Option (List Char × List Char)
  | '.' :: rest => digits? Char.isDigit rest
  | _ => none

/-- A sign that may be left out; the flag tells a minus. -/
def sign : List Char → Bool × List Char
  | '-' :: rest => (true, rest)
  | '+' :: rest => (false, rest)
  | text => (false, text)

/-- An exponent. -/
def exponentPart? : List Char → Option (Int × List Char)
  | c :: rest =>
    if c = 'e' ∨ c = 'E' then do
      let (negative, rest) := sign rest
      let (digits, rest) ← digits? Char.isDigit rest
      let n : Int := Decimal.ofDigits digits
      some (if negative then -n else n, rest)
    else none
  | [] => none

/-- A decimal number, whole or not. -/
def decimal? (text : List Char) : Option (Except Fault (Value × List Char)) := do
  let (negative, rest) := sign text
  let (whole, rest) ← wholePart? rest
  let (fraction, afterFraction) := (fractionPart? rest).getD ([], rest)
  let exponent := exponentPart? afterFraction
  if fraction.isEmpty && exponent.isNone then
    if maxIntegerDigits < whole.length then some (.error (.longInteger whole.length))
    else
      let n : Int := Decimal.ofDigits whole
      some (.ok (.integer (if negative then -n else n), rest))
  else
    let (power, rest) := exponent.getD (0, afterFraction)
    let d : Decimal := ⟨Decimal.ofDigits (whole ++ fraction), power - fraction.length⟩
    some (.ok (.float (d.toDouble negative), rest))

/-- An infinity or not-a-number, with a sign or without. -/
def special? (text : List Char) : Option (Value × List Char) :=
  match sign text with
  | (negative, 'i' :: 'n' :: 'f' :: rest) => some (.float (.infinity negative), rest)
  | (_, 'n' :: 'a' :: 'n' :: rest) => some (.float .nan, rest)
  | _ => none

/-! ## Dates and times -/

/-- Exactly as many digits as asked for. -/
def fixedDigits? (count : Nat) (text : List Char) : Option (Nat × List Char) :=
  let digits := text.take count
  if digits.length = count && digits.all Char.isDigit then
    some (Decimal.ofDigits digits, text.drop count)
  else none

/-- The text after an expected character. -/
def after? (c : Char) : List Char → Option (List Char)
  | d :: rest => if d = c then some rest else none
  | [] => none

/-- A date of the calendar. -/
def date? (text : List Char) : Option (Date × List Char) := do
  let (year, rest) ← fixedDigits? 4 text
  let (month, rest) ← fixedDigits? 2 (← after? '-' rest)
  let (day, rest) ← fixedDigits? 2 (← after? '-' rest)
  if h : 1 ≤ year ∧ (1 ≤ month ∧ month ≤ 12) ∧ (1 ≤ day ∧ day ≤ daysInMonth year month) then
    some (⟨year, month, day, h.1, h.2.1, h.2.2⟩, rest)
  else none

/-- A fraction of a second, in millionths; further digits are cut off. -/
def fractionOfSecond (text : List Char) : Nat × List Char :=
  match fractionPart? text with
  | none => (0, text)
  | some _ =>
    let digits := (text.drop 1).takeWhile Char.isDigit
    (Decimal.ofDigits (digits.take 6 ++ List.replicate (6 - digits.length) '0'),
      (text.drop 1).dropWhile Char.isDigit)

/-- Hours and minutes. -/
def hoursMinutes? (text : List Char) : Option (Nat × Nat × List Char) := do
  let (hour, rest) ← fixedDigits? 2 text
  let (minute, rest) ← fixedDigits? 2 (← after? ':' rest)
  guard (hour < 24 && minute < 60)
  some (hour, minute, rest)

/-- A time of day. -/
def time? (text : List Char) : Option (TimeOfDay × List Char) := do
  let (hour, minute, rest) ← hoursMinutes? text
  let (second, rest) ← fixedDigits? 2 (← after? ':' rest)
  let (micro, rest) := fractionOfSecond rest
  if h : hour < 24 ∧ minute < 60 ∧ second < 60 ∧ micro < 1000000 then
    some (⟨hour, minute, second, micro, h.1, h.2.1, h.2.2.1, h.2.2.2⟩, rest)
  else none

/-- An offset of hours and minutes. -/
def signedOffset? (negative : Bool) (text : List Char) : Option (Offset × List Char) := do
  let (hour, minute, rest) ← hoursMinutes? text
  let ahead : Int := 60 * hour + minute
  let minutes := if negative then -ahead else ahead
  if h : minutes.natAbs < 24 * 60 then some (⟨minutes, h⟩, rest) else none

/-- An offset from universal time. -/
def offset? : List Char → Option (Offset × List Char)
  | 'Z' :: rest => some (⟨0, by decide⟩, rest)
  | 'z' :: rest => some (⟨0, by decide⟩, rest)
  | '+' :: rest => signedOffset? false rest
  | '-' :: rest => signedOffset? true rest
  | _ => none

/-- A date, a date with a time, or a time. -/
def moment? (text : List Char) : Option (Moment × List Char) :=
  match date? text with
  | some (date, rest) =>
    let separated := match rest with
      | c :: rest => if c = 'T' ∨ c = 't' ∨ c = ' ' then time? rest else none
      | [] => none
    match separated with
    | some (time, rest) =>
      match offset? rest with
      | some (offset, rest) => some (.dateTime date time (some offset), rest)
      | none => some (.dateTime date time none, rest)
    | none => some (.date date, rest)
  | none => (time? text).map fun (time, rest) => (.time time, rest)

/-- A number, a date or a time. -/
def scalar (text : List Char) : Except Fault (Value × List Char) :=
  match moment? text with
  | some (moment, rest) => .ok (.moment moment, rest)
  | none =>
    match prefixed? text with
    | some reading => .ok reading
    | none =>
      match decimal? text with
      | some reading => reading
      | none =>
        match special? text with
        | some reading => .ok reading
        | none => .error .malformed

end LoxExpr.Toml
