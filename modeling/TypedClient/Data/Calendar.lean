import TypedClient.Text.Digits

set_option autoImplicit false

namespace TypedClient

structure Date where
  year : Nat
  month : Nat
  day : Nat
  deriving DecidableEq, Repr

/-- A day with the time of day, and the distance from universal time in minutes where it is known. -/
structure Moment where
  date : Date
  hour : Nat
  minute : Nat
  second : Nat
  microsecond : Nat
  offset : Option Int
  deriving DecidableEq, Repr

def isLeap (year : Nat) : Bool := year % 4 == 0 && (year % 100 != 0 || year % 400 == 0)

def monthDays (year month : Nat) : Nat :=
  if month == 2 then if isLeap year then 29 else 28
  else if [4, 6, 9, 11].contains month then 30
  else 31

namespace Date

def ordinal (d : Date) : Nat :=
  let past := d.year - 1
  365 * past + past / 4 - past / 100 + past / 400
    + (List.range (d.month - 1)).foldl (fun n m => n + monthDays d.year (m + 1)) 0 + d.day

def digits (d : Date) : String :=
  Text.zeroPadded 4 d.year ++ "-" ++ Text.zeroPadded 2 d.month ++ "-" ++ Text.zeroPadded 2 d.day

end Date

def offsetDigits (minutes : Int) : String :=
  (if minutes < 0 then "-" else "+") ++ Text.zeroPadded 2 (minutes.natAbs / 60) ++ ":"
    ++ Text.zeroPadded 2 (minutes.natAbs % 60)

namespace Moment

def digits (between : String) (m : Moment) : String :=
  m.date.digits ++ between ++ Text.zeroPadded 2 m.hour ++ ":" ++ Text.zeroPadded 2 m.minute ++ ":"
    ++ Text.zeroPadded 2 m.second
    ++ (if m.microsecond = 0 then "" else "." ++ Text.zeroPadded 6 m.microsecond)
    ++ m.offset.elim "" offsetDigits

/-- Minutes of universal time up to the minute of a moment with a given distance from it. -/
def minutes (m : Moment) (offset : Int) : Int := (m.date.ordinal * 24 + m.hour) * 60 + m.minute - offset

/-- Whether two moments are the same. Without a known distance from universal time they are so if they are
written alike. -/
def same (a b : Moment) : Bool :=
  match a.offset, b.offset with
  | none, none => a == b
  | some p, some q => a.minutes p == b.minutes q && a.second == b.second && a.microsecond == b.microsecond
  | _, _ => false

end Moment

end TypedClient
