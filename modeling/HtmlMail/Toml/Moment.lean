import HtmlMail.Text.Digits
import HtmlMail.Text.Search

/-!
# Dates and times

A moment in TOML is a date, a time of day, or both, and then perhaps with an offset from universal time.

- `isDate`, `isTime`, `isOffset` : the parts
- `isMoment` : the whole
-/

namespace HtmlMail.Toml

open Chars

/-- The value of a text of so many digits. -/
def fixedNumber? (length : Nat) (s : List Char) : Option Nat :=
  if s.length = length then numeral? 10 s else none

/-- How many days a month has. -/
def daysInMonth (year month : Nat) : Nat :=
  if month = 2 then
    if year % 4 = 0 && (year % 100 ≠ 0 || year % 400 = 0) then 29 else 28
  else if [4, 6, 9, 11].contains month then 30
  else 31

/-- Whether a text is a date: year, month and day with hyphens between them. -/
def isDate (s : List Char) : Bool :=
  match splitOnChar '-' s with
  | [year, month, day] =>
    match fixedNumber? 4 year, fixedNumber? 2 month, fixedNumber? 2 day with
    | some y, some m, some d => 1 ≤ m && m ≤ 12 && 1 ≤ d && d ≤ daysInMonth y m
    | _, _, _ => false
  | _ => false

/-- Whether a text is an hour and a minute with a colon between them. -/
def isHourMinute (hour minute : List Char) : Bool :=
  (fixedNumber? 2 hour).any (· < 24) && (fixedNumber? 2 minute).any (· < 60)

/-- Whether a text is a second, perhaps with a fraction. A minute may have one second more. -/
def isSecond (s : List Char) : Bool :=
  match splitAtChar? '.' s with
  | none => (fixedNumber? 2 s).any (· ≤ 60)
  | some (second, fraction) =>
    (fixedNumber? 2 second).any (· ≤ 60) && (numeral? 10 fraction).isSome

/-- Whether a text is a time of day. The second can be left out. -/
def isTime (s : List Char) : Bool :=
  match splitOnChar ':' s with
  | [hour, minute] => isHourMinute hour minute
  | [hour, minute, second] => isHourMinute hour minute && isSecond second
  | _ => false

/-- Whether a text, without its sign, is an offset from universal time. -/
def isOffset (s : List Char) : Bool :=
  match splitOnChar ':' s with
  | [hour, minute] => isHourMinute hour minute
  | _ => false

/-- Whether a text is a time of day, perhaps with an offset. -/
def isOffsetTime (s : List Char) : Bool :=
  isTime s ||
    match s.reverse with
    | last :: others =>
      if last = 'Z' || last = 'z' then isTime others.reverse
      else
        let isSign (c : Char) : Bool := c == '+' || c == '-'
        isTime (s.takeWhile (!isSign ·)) && isOffset ((s.dropWhile (!isSign ·)).drop 1)
    | [] => false

/-- Whether a text is a moment. A letter or a blank stands between the date and the time. -/
def isMoment (s : List Char) : Bool :=
  isDate s || isTime s ||
    match s.drop 10 with
    | mark :: time => isDate (s.take 10) && ['T', 't', ' '].contains mark && isOffsetTime time
    | [] => false

end HtmlMail.Toml
