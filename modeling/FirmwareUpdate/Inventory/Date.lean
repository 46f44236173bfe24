import FirmwareUpdate.Wire.Layout
import FirmwareUpdate.Wire.Reader

/-!
# Release dates

A date of the Gregorian calendar, and its eight digits `YYYYMMDD` on the wire.
Eight zero bytes are no date. Digits that name no day are no date either, while a
field without digits is invalid. A year field may carry a sign, and what follows
its digits is ignored, as in the other two fields.
-/

namespace FirmwareUpdate

open Wire

/-- The year has a 29th of February. -/
def isLeapYear (year : Int) : Bool :=
  year % 4 = 0 && (year % 100 != 0 || year % 400 = 0)

/-- The number of days of a month, 0 where there is no such month. -/
def daysInMonth (year : Int) (month : Nat) : Nat :=
  match month with
  | 1 | 3 | 5 | 7 | 8 | 10 | 12 => 31
  | 4 | 6 | 9 | 11 => 30
  | 2 => if isLeapYear year then 29 else 28
  | _ => 0

/-- The first year of the calendar. -/
def firstYear : Int := -262143

/-- The last year of the calendar. -/
def lastYear : Int := 262142

/-- A day of the calendar. -/
structure Date where
  year : Int
  month : Nat
  day : Nat
  year_known : firstYear ≤ year ∧ year ≤ lastYear
  day_exists : 1 ≤ day ∧ day ≤ daysInMonth year month
deriving DecidableEq

namespace Date

/-- The day with the given numbers, if there is one. -/
def of? (year : Int) (month day : Nat) : Option Date :=
  if known : firstYear ≤ year ∧ year ≤ lastYear then
    if here : 1 ≤ day ∧ day ≤ daysInMonth year month then
      some ⟨year, month, day, known, here⟩
    else none
  else none

/-- The number that the leading digits spell; at least one is needed. -/
def leadingNumber? (contents : List UInt8) : Option Nat :=
  match contents.takeWhile fun byte => 48 ≤ byte && byte ≤ 57 with
  | [] => none
  | digits => some (digits.foldl (fun value byte => 10 * value + (byte.toNat - 48)) 0)

/-- The number that a sign, if any, and the leading digits after it spell. -/
def leadingInteger? : List UInt8 → Option Int
  | 45 :: rest => (fun value : Nat => -(value : Int)) <$> leadingNumber? rest
  | 43 :: rest => (fun value : Nat => (value : Int)) <$> leadingNumber? rest
  | contents => (fun value : Nat => (value : Int)) <$> leadingNumber? contents

/-- Reads the digits of a date, which may name no day. -/
def digitsReader : Reader (Option Date) := do
  let year ← Reader.require (leadingInteger? (← Reader.take 4))
  let month ← Reader.require (leadingNumber? (← Reader.take 2))
  let day ← Reader.require (leadingNumber? (← Reader.take 2))
  pure (of? year month day)

/-- Reads an optional date. -/
def reader : Reader (Option Date) := fun input =>
  if input.take 8 = List.replicate 8 0 then .ok (none, input.drop 8)
  else digitsReader input

/-- The eight digits of a date. -/
def digits (date : Date) : List UInt8 :=
  (decimalNumber 4 date.year.toNat ++ decimalNumber 2 date.month ++
    decimalNumber 2 date.day).toUTF8.data.toList

/-- The field of an optional date. Years of more than four digits, or before the
year 0, have no field of their own and are written like no date. -/
def layout : Option Date → Layout
  | none => Layout.bytes (List.replicate 8 0)
  | some date =>
    if 0 ≤ date.year ∧ date.year ≤ 9999 then Layout.bytes date.digits
    else Layout.bytes (List.replicate 8 0)

/-- The year with at least four digits, and with its sign if it needs more or less. -/
def describeYear (year : Int) : String :=
  if 0 ≤ year ∧ year ≤ 9999 then decimalNumber 4 year.toNat
  else if year < 0 then "-" ++ decimalNumber 4 year.natAbs
  else "+" ++ decimalNumber 4 year.toNat

/-- Year, month and day, with hyphens between them. -/
def describe (date : Date) : String :=
  describeYear date.year ++ "-" ++ decimalNumber 2 date.month ++ "-" ++
    decimalNumber 2 date.day

end Date

end FirmwareUpdate
