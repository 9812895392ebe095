import RelDirectory.Text.Digits
import RelDirectory.Text.Split

/-!
# Dates and times as text

Reading a date `YYYY-MM-DD`, with or without a time of day behind it, and writing it again with
the fewest of 0, 3 or 6 places for the fraction of a second that keep it exact.
-/
set_option autoImplicit false
namespace RelDirectory.Text.Calendar

structure Date where
  year : Nat
  month : Nat
  day : Nat
deriving DecidableEq

structure Time where
  hour : Nat
  minute : Nat
  second : Nat
  micro : Nat
deriving DecidableEq

def isLeap (year : Nat) : Bool := year % 4 == 0 && (year % 100 != 0 || year % 400 == 0)

def daysIn (year month : Nat) : Nat :=
  if month = 2 then (if isLeap year then 29 else 28)
  else if [4, 6, 9, 11].contains month then 30
  else 31

def Date.isReal (d : Date) : Bool :=
  1 ≤ d.month && d.month ≤ 12 && 1 ≤ d.day && d.day ≤ daysIn d.year d.month

def Time.isReal (t : Time) : Bool := t.hour < 24 && t.minute < 60 && t.second < 60

def midnight : Time := ⟨0, 0, 0, 0⟩

def date? (cs : List Char) : Option Date := do
  match split '-' cs with
  | [y, m, d] =>
    let date : Date := ⟨← nat? y, ← nat? m, ← nat? d⟩
    if date.isReal then pure date else none
  | _ => none

/-- The millionths that up to six digits after a point are worth. -/
def micros? (cs : List Char) : Option Nat := do
  let n ← nat? cs
  if 6 < cs.length then none else pure (n * Nat.pow 10 (6 - cs.length))

def time? (cs : List Char) : Option Time := do
  let (whole, fraction) := (cutAt '.' cs).getD (cs, ['0'])
  match split ':' whole with
  | [h, m, s] =>
    let time : Time := ⟨← nat? h, ← nat? m, ← nat? s, ← micros? fraction⟩
    if time.isReal then pure time else none
  | _ => none

/-- A date alone means its midnight. -/
def moment? (cs : List Char) : Option (Date × Time) := do
  match cutAt ' ' cs with
  | none => pure (← date? cs, midnight)
  | some (d, t) => pure (← date? d, ← time? t)

/-- A year beyond 9999 carries a sign. -/
def Date.chars (d : Date) : List Char :=
  (if 9999 < d.year then ['+'] else []) ++ padded 4 d.year ++ ['-'] ++ padded 2 d.month ++
    ['-'] ++ padded 2 d.day

def fractionChars (micro : Nat) : List Char :=
  if micro = 0 then []
  else if micro % 1000 = 0 then '.' :: padded 3 (micro / 1000)
  else '.' :: padded 6 micro

def Time.chars (t : Time) : List Char :=
  padded 2 t.hour ++ [':'] ++ padded 2 t.minute ++ [':'] ++ padded 2 t.second ++
    fractionChars t.micro

end RelDirectory.Text.Calendar
