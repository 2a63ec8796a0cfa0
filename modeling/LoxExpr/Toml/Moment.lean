/-!
# Dates and times

A moment is a date, a time of day or both, and a date with a time may say how far its clock is
ahead of universal time. A moment has two texts: its normal text, and the call that makes it,
which stands for it inside an array or a table.
-/

namespace LoxExpr.Toml

def isLeap (year : Nat) : Bool := (year % 4 = 0 && year % 100 ≠ 0) || year % 400 = 0

def daysInMonth (year month : Nat) : Nat :=
  if month = 2 then if isLeap year then 29 else 28
  else if month = 4 ∨ month = 6 ∨ month = 9 ∨ month = 11 then 30
  else 31

/-- A date of the calendar, in years from 1 on. -/
structure Date where
  year : Nat
  month : Nat
  day : Nat
  one_le_year : 1 ≤ year
  month_mem : 1 ≤ month ∧ month ≤ 12
  day_mem : 1 ≤ day ∧ day ≤ daysInMonth year month
  deriving DecidableEq

/-- A time of day, down to the millionth of a second. -/
structure TimeOfDay where
  hour : Nat
  minute : Nat
  second : Nat
  micro : Nat
  hour_lt : hour < 24
  minute_lt : minute < 60
  second_lt : second < 60
  micro_lt : micro < 1000000
  deriving DecidableEq

/-- How many minutes a clock is ahead of universal time; it is less than a day. -/
structure Offset where
  minutes : Int
  natAbs_lt : minutes.natAbs < 24 * 60
  deriving DecidableEq

inductive Moment
  | date (d : Date)
  | time (t : TimeOfDay)
  | dateTime (d : Date) (t : TimeOfDay) (offset : Option Offset)
  deriving DecidableEq

/-! ## Normal texts -/

/-- A number in decimal, padded with zeros to a width. -/
def padded (width n : Nat) : String :=
  let digits := Nat.toDigits 10 n
  .ofList (List.replicate (width - digits.length) '0' ++ digits)

def Date.text (d : Date) : String :=
  padded 4 d.year ++ "-" ++ padded 2 d.month ++ "-" ++ padded 2 d.day

/-- Hours, minutes and seconds; a fraction has six digits and is left out if it is zero. -/
def TimeOfDay.text (t : TimeOfDay) : String :=
  padded 2 t.hour ++ ":" ++ padded 2 t.minute ++ ":" ++ padded 2 t.second ++
    if t.micro = 0 then "" else "." ++ padded 6 t.micro

def Offset.text (o : Offset) : String :=
  let minutes := o.minutes.natAbs
  (if o.minutes < 0 then "-" else "+") ++ padded 2 (minutes / 60) ++ ":" ++ padded 2 (minutes % 60)

def Moment.text : Moment → String
  | .date d => d.text
  | .time t => t.text
  | .dateTime d t offset => d.text ++ " " ++ t.text ++ (offset.map Offset.text).getD ""

/-! ## Calls -/

/-- The name of a constructor with its arguments. -/
def callText (name : String) (arguments : List String) : String :=
  "datetime." ++ name ++ "(" ++ ", ".intercalate arguments ++ ")"

def Date.arguments (d : Date) : List String := [d.year, d.month, d.day].map toString

/-- Hour and minute, then as far as they are not zero the second and the fraction. -/
def TimeOfDay.arguments (t : TimeOfDay) : List String :=
  let numbers :=
    if t.micro ≠ 0 then [t.hour, t.minute, t.second, t.micro]
    else if t.second ≠ 0 then [t.hour, t.minute, t.second]
    else [t.hour, t.minute]
  numbers.map toString

/-- The offset as whole days, of which there is one less than none if the clock is behind, and
seconds from there. -/
def Offset.call (o : Offset) : String :=
  if o.minutes = 0 then "datetime.timezone.utc"
  else
    let difference :=
      if o.minutes < 0 then ["days=-1", "seconds=" ++ toString (86400 + 60 * o.minutes)]
      else ["seconds=" ++ toString (60 * o.minutes)]
    callText "timezone" [callText "timedelta" difference]

def Moment.call : Moment → String
  | .date d => callText "date" d.arguments
  | .time t => callText "time" t.arguments
  | .dateTime d t offset =>
    callText "datetime" (d.arguments ++ t.arguments ++
      offset.toList.map ("tzinfo=" ++ Offset.call ·))

end LoxExpr.Toml
