import SchemaModels.Yaml.Cursor

/-!
Dates and times as they stand in YAML texts: a date, and perhaps a time of day with a fraction of a
second and a distance from universal time.
-/

namespace SchemaModels.Yaml

/-- A distance from universal time. -/
structure Zone where
  behind : Bool
  hours : Nat
  minutes : Nat
  deriving DecidableEq, Inhabited

/-- A time of day. -/
structure Clock where
  hour : Nat
  minute : Nat
  second : Nat
  zone : Option Zone
  deriving DecidableEq, Inhabited

/-- A date, and perhaps a time of day. -/
structure Timestamp where
  year : Nat
  month : Nat
  day : Nat
  clock : Option Clock := none
  deriving DecidableEq, Inhabited

namespace Timestamp

/-! ## Reading -/

/-- A number and the characters behind it. -/
abbrev Digits := Option (Nat × List Char)

/-- The value of a row of digits. -/
def number (ds : List Char) : Nat := ds.foldl (fun n d => n * 10 + (d.toNat - 48)) 0

/-- Exactly so many digits. -/
def digits (n : Nat) (cs : List Char) : Digits :=
  let ds := cs.take n
  if ds.length = n ∧ ds.all Char.isDigit then some (number ds, cs.drop n) else none

/-- One digit or two. -/
def oneOrTwo (cs : List Char) : Digits := digits 2 cs <|> digits 1 cs

/-- The rest of a text that begins with a character. -/
def after (x : Char) : List Char → Option (List Char)
  | [] => none
  | c :: cs => if c = x then some cs else none

/-- What separates the time from the date. -/
def afterSeparator (cs : List Char) : Option (List Char) :=
  match cs with
  | [] => none
  | c :: rest =>
    if c = 'T' ∨ c = 't' then some rest
    else if isGap c then some (cs.dropWhile isGap)
    else none

/-- A zone that ends the text, or the end of the text. -/
def readZone (cs : List Char) : Option (Option Zone) :=
  match cs with
  | [] => some none
  | _ =>
    match cs.dropWhile isGap with
    | ['Z'] => some (some ⟨false, 0, 0⟩)
    | c :: rest =>
      if c = '+' ∨ c = '-' then do
        let (hours, rest) ← oneOrTwo rest
        match rest with
        | [] => some (some ⟨c = '-', hours, 0⟩)
        | _ => do
          let (minutes, rest) ← digits 2 (← after ':' rest)
          if rest.isEmpty then some (some ⟨c = '-', hours, minutes⟩) else none
      else none
    | [] => none

/-- A time of day that ends the text. -/
def readClock (cs : List Char) : Option Clock := do
  let (hour, cs) ← oneOrTwo cs
  let (minute, cs) ← digits 2 (← after ':' cs)
  let (second, cs) ← digits 2 (← after ':' cs)
  let cs :=
    match cs with
    | '.' :: rest => rest.dropWhile Char.isDigit
    | _ => cs
  let zone ← readZone cs
  some { hour, minute, second, zone }

/-- The date or time that a text is. -/
def ofText? (cs : List Char) : Option Timestamp := do
  let (year, cs) ← digits 4 cs
  let (month, cs) ← oneOrTwo (← after '-' cs)
  let (day, cs) ← oneOrTwo (← after '-' cs)
  match cs with
  | [] => some { year, month, day }
  | _ => do some { year, month, day, clock := some (← readClock (← afterSeparator cs)) }

/-- A text is a date or time without being marked as one; a date alone then has two digits for the
month and for the day. -/
def isPlain (cs : List Char) : Bool :=
  match ofText? cs with
  | none => false
  | some t => t.clock.isSome || cs.length == 10

/-! ## Days and moments that there are -/

def isLeap (year : Nat) : Bool :=
  year % 4 == 0 && (year % 100 != 0 || year % 400 == 0)

/-- How many days a month has. -/
def daysIn (year month : Nat) : Nat :=
  if month = 2 then (if isLeap year then 29 else 28)
  else if month = 4 ∨ month = 6 ∨ month = 9 ∨ month = 11 then 30 else 31

/-- A span of time in days and the seconds left, the seconds never below zero. -/
def spanText (seconds : Int) : String :=
  let days := seconds.fdiv 86400
  let rest := seconds.fmod 86400
  let parts := (if days = 0 then [] else [s!"days={days}"]) ++
    if rest = 0 then [] else [s!"seconds={rest}"]
  "datetime.timedelta(" ++ ", ".intercalate parts ++ ")"

/-- A zone is less than a day away. -/
def checkZone (z : Zone) : Except Fault Unit :=
  let seconds : Nat := (z.hours * 60 + z.minutes) * 60
  if seconds < 86400 then .ok ()
  else .error (.badDate
    ("offset must be a timedelta strictly between -timedelta(hours=24) and " ++
      s!"timedelta(hours=24), not {spanText (if z.behind then -seconds else seconds)}."))

/-- The first thing that is wrong with a date, or with the time of day after it. -/
def check (t : Timestamp) : Except Fault Unit := do
  match t.clock.bind (·.zone) with
  | some z => checkZone z
  | none => .ok ()
  let require := fun (holds : Bool) (reason : String) =>
    if holds then Except.ok () else .error (Fault.badDate reason)
  require (t.year != 0) s!"year {t.year} is out of range"
  require (1 ≤ t.month && t.month ≤ 12) "month must be in 1..12"
  require (1 ≤ t.day && t.day ≤ daysIn t.year t.month) "day is out of range for month"
  match t.clock with
  | none => .ok ()
  | some c => do
    require (c.hour ≤ 23) "hour must be in 0..23"
    require (c.minute ≤ 59) "minute must be in 0..59"
    require (c.second ≤ 59) "second must be in 0..59"

end Timestamp

end SchemaModels.Yaml
