import DependencyAtlas.Text.Digits

namespace DependencyAtlas

structure Day where
  year : Nat
  month : Nat
  day : Nat
  deriving Repr, DecidableEq

structure Clock where
  hour : Nat
  minute : Nat
  second : Nat
  micro : Nat
  deriving Repr, DecidableEq

inductive Moment where
  | day (d : Day)
  | clock (c : Clock)
  | instant (d : Day) (c : Clock) (offset : Option Int)
  deriving Repr, DecidableEq

namespace Moment

open Text (decimalPadded)

def isLeap (year : Nat) : Bool :=
  year % 4 == 0 && (year % 100 != 0 || year % 400 == 0)

def daysIn (year month : Nat) : Nat :=
  if month == 2 then (if isLeap year then 29 else 28)
  else if month == 4 || month == 6 || month == 9 || month == 11 then 30
  else 31

def dayExists (d : Day) : Bool :=
  1 ≤ d.year && 1 ≤ d.month && d.month ≤ 12 && 1 ≤ d.day && d.day ≤ daysIn d.year d.month

def dayText (d : Day) : String :=
  decimalPadded 4 d.year ++ "-" ++ decimalPadded 2 d.month ++ "-" ++ decimalPadded 2 d.day

def clockText (c : Clock) : String :=
  decimalPadded 2 c.hour ++ ":" ++ decimalPadded 2 c.minute ++ ":" ++ decimalPadded 2 c.second ++
    (if c.micro = 0 then "" else "." ++ decimalPadded 6 c.micro)

def offsetText (minutes : Int) : String :=
  (if minutes < 0 then "-" else "+") ++ decimalPadded 2 (minutes.natAbs / 60) ++ ":" ++
    decimalPadded 2 (minutes.natAbs % 60)

def text : Moment → String
  | .day d => dayText d
  | .clock c => clockText c
  | .instant d c offset => dayText d ++ " " ++ clockText c ++ (offset.map offsetText).getD ""

def clockParts (c : Clock) : List Nat :=
  [c.hour, c.minute] ++
    (if c.micro != 0 then [c.second, c.micro] else if c.second != 0 then [c.second] else [])

def dayParts (d : Day) : List Nat :=
  [d.year, d.month, d.day]

def zoneText (minutes : Int) : String :=
  if minutes = 0 then "datetime.timezone.utc"
  else
    let seconds := minutes * 60
    let delta :=
      if seconds < 0 then "days=-1, seconds=" ++ toString (seconds + 86400)
      else "seconds=" ++ toString seconds
    "datetime.timezone(datetime.timedelta(" ++ delta ++ "))"

def quoted : Moment → String
  | .day d => "datetime.date(" ++ ", ".intercalate ((dayParts d).map toString) ++ ")"
  | .clock c => "datetime.time(" ++ ", ".intercalate ((clockParts c).map toString) ++ ")"
  | .instant d c offset =>
    "datetime.datetime(" ++ ", ".intercalate ((dayParts d ++ clockParts c).map toString) ++
      ((offset.map fun m => ", tzinfo=" ++ zoneText m).getD "") ++ ")"

end Moment

end DependencyAtlas
