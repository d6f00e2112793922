/-
**Days and dates.**

`Calendar.days` counts the days from the beginning of 1970 to a date, and `Calendar.date` finds the
date again.
-/

namespace KernelCache.Calendar

/-- A date. -/
structure Date where
  year : Int
  month : Nat
  day : Nat
  deriving DecidableEq, Repr

/-- The days from the beginning of 1970 to a date. -/
def days (date : Date) : Int :=
  let year := if date.month ≤ 2 then date.year - 1 else date.year
  let era := Int.fdiv year 400
  let yearOfEra := year - era * 400
  let month : Int := date.month
  let dayOfYear := (153 * (if 2 < month then month - 3 else month + 9) + 2) / 5 + date.day - 1
  let dayOfEra := yearOfEra * 365 + yearOfEra / 4 - yearOfEra / 100 + dayOfYear
  era * 146097 + dayOfEra - 719468

/-- The date so many days after the beginning of 1970. -/
def date (days : Int) : Date :=
  let shifted := days + 719468
  let era := Int.fdiv shifted 146097
  let dayOfEra := shifted - era * 146097
  let yearOfEra := (dayOfEra - dayOfEra / 1460 + dayOfEra / 36524 - dayOfEra / 146096) / 365
  let dayOfYear := dayOfEra - (365 * yearOfEra + yearOfEra / 4 - yearOfEra / 100)
  let shiftedMonth := (5 * dayOfYear + 2) / 153
  let day := dayOfYear - (153 * shiftedMonth + 2) / 5 + 1
  let month := if shiftedMonth < 10 then shiftedMonth + 3 else shiftedMonth - 9
  { year := yearOfEra + era * 400 + (if month ≤ 2 then 1 else 0)
    month := month.toNat
    day := day.toNat }

/-- Whether a year has a day more. -/
def isLong (year : Int) : Bool :=
  year % 4 == 0 && (year % 100 != 0 || year % 400 == 0)

/-- The days of a month. -/
def daysIn (year : Int) (month : Nat) : Nat :=
  if month = 2 then if isLong year then 29 else 28
  else if [4, 6, 9, 11].contains month then 30
  else 31

/-- Whether there is such a date. -/
def isValid (date : Date) : Bool :=
  1 ≤ date.month && date.month ≤ 12 && 1 ≤ date.day && date.day ≤ daysIn date.year date.month

/-- The names of the days of a week, from the one at the beginning of 1970 on. -/
def weekdays : List String :=
  ["Thursday", "Friday", "Saturday", "Sunday", "Monday", "Tuesday", "Wednesday"]

/-- The names of the months. -/
def months : List String :=
  ["January", "February", "March", "April", "May", "June", "July", "August", "September", "October",
    "November", "December"]

/-- The name of the day of a week. -/
def weekday (days : Int) : String := (weekdays[(days % 7).toNat]?).getD ""

/-- The time at which systems are started, in seconds since the beginning of 1970. -/
def start : Int := 1767225600

/-- A number of a text, if it is one. -/
def number? (text : List Char) : Option Nat :=
  if text ≠ [] ∧ text.all fun char => '0' ≤ char && char ≤ '9' then (String.ofList text).toNat?
  else none

/-- The seconds of a time of day such as `10:20` or `10:20:30`. -/
def timeOfDay? (text : List Char) : Option Nat := do
  let parts ← (((text.takeWhile (· != '.')).splitOn ':').mapM number?)
  match parts with
  | [hours, minutes] => if hours < 24 ∧ minutes < 60 then some (hours * 3600 + minutes * 60) else none
  | [hours, minutes, seconds] =>
    if hours < 24 ∧ minutes < 60 ∧ seconds ≤ 60 then some (hours * 3600 + minutes * 60 + seconds)
    else none
  | _ => none

/-- The days of a date such as `2001-02-03`. -/
def day? (text : List Char) : Option Int := do
  match ← (text.splitOn '-').mapM number? with
  | [year, month, day] =>
    let date : Date := { year, month, day }
    if isValid date then some (days date) else none
  | _ => none

/-- The seconds of a unit of time. -/
def unit? (word : String) : Option Int :=
  match word with
  | "sec" | "secs" | "second" | "seconds" => some 1
  | "min" | "mins" | "minute" | "minutes" => some 60
  | "hour" | "hours" => some 3600
  | "day" | "days" => some 86400
  | "week" | "weeks" => some 604800
  | _ => none

/-- A number with a sign. -/
def signed? (text : List Char) : Option Int :=
  if text.head? = some '-' then (number? (text.drop 1)).map fun value => -(value : Int)
  else if text.head? = some '+' then (number? (text.drop 1)).map fun value => (value : Int)
  else (number? text).map fun value => (value : Int)

/-- How far words such as `2 days ago` or `yesterday` lead away from a time, and how many words
they are. -/
def shift? (words : List (List Char)) : Option (Int × Nat) := do
  let word := String.ofList (words.headD [])
  if word = "now" ∨ word = "today" then return (0, 1)
  if word = "yesterday" then return (-86400, 1)
  if word = "tomorrow" then return (86400, 1)
  let count ← signed? word.toList
  let size ← unit? (String.ofList (← words[1]?))
  if words[2]? = some "ago".toList then return (-(count * size), 3) else return (count * size, 2)

/-- The seconds of a word that is a date, a time of day on the date found so far, or a count of
seconds. -/
def point? (base : Int) (word : List Char) : Option Int :=
  if word.head? = some '@' then signed? ((word.drop 1).takeWhile (· != '.'))
  else
    match day? word, timeOfDay? word with
    | some days, _ => some (days * 86400)
    | none, some seconds => some (base - base % 86400 + seconds)
    | none, none => none

/-- Reads the words of a point in time, from the seconds found so far. -/
def readWords? : Nat → Int → List (List Char) → Option Int
  | 0, _, _ => none
  | fuel + 1, base, words =>
    if words.isEmpty then some base
    else if ["UTC", "Z", "GMT", "+0000"].contains (String.ofList (words.headD [])) then
      readWords? fuel base (words.drop 1)
    else
      match shift? words with
      | some (distance, count) => readWords? fuel (base + distance) (words.drop count)
      | none =>
        match point? base (words.headD []) with
        | some found => readWords? fuel found (words.drop 1)
        | none => none

/-- The number of a month by the start of its name. -/
def month? (word : List Char) : Option Nat :=
  let start := (word.take 3).map Char.toLower
  if word.length < 3 then none
  else (months.findIdx? fun name => (name.toList.take 3).map Char.toLower == start).map (· + 1)

/-- Words in which a sign is joined with the number behind it, and a date with the name of a month
is written in digits. -/
def normalizedWords : List (List Char) → List (List Char)
  | ['+'] :: word :: rest => ('+' :: word) :: normalizedWords rest
  | ['-'] :: word :: rest => ('-' :: word) :: normalizedWords rest
  | first :: second :: third :: rest =>
    let third' := third.filter (· != ',')
    let second' := second.filter (· != ',')
    let named (day month year : List Char) : Option (List Char) := do
      let month ← month? month
      let day ← number? day
      let year ← number? year
      return (toString year ++ "-" ++ toString month ++ "-" ++ toString day).toList
    match (named first second third').or (named second' first third') with
    | some date => date :: normalizedWords rest
    | none => first :: normalizedWords (second :: third :: rest)
  | first :: rest => first :: normalizedWords rest
  | [] => []
termination_by words => words.length

/-- The seconds of a written point in time. -/
def read? (now : Int) (text : List Char) : Option Int :=
  let separated := text.map fun char => if char = '\t' then ' ' else char
  let words := (separated.splitOn ' ').filter (· ≠ [])
  let words := words.flatMap fun word =>
    match word.splitOn 'T' with
    | [date, time] => if (day? date).isSome then
        let bare := time.takeWhile (· != 'Z')
        [date, bare] else [word]
    | _ => [word]
  readWords? (words.length + 1) now (normalizedWords words)

/-- The seconds of a point in time in digits: month, day, hour and minute, with the year in front
and the seconds behind a point where they are given. -/
def readDigits? (now : Int) (text : List Char) : Option Int := do
  let body := text.takeWhile (· != '.')
  let seconds ← match text.drop body.length with
    | [] => some 0
    | _ :: digits => number? digits
  discard (number? body)
  let pair (index : Nat) : Option Nat := number? ((body.drop index).take 2)
  let (year, place) ← match body.length with
    | 8 => some ((date (Int.fdiv now 86400)).year, 0)
    | 10 => (pair 0).map fun two => ((if two < 69 then 2000 + two else 1900 + two : Int), 2)
    | 12 => (number? (body.take 4)).map fun year => ((year : Int), 4)
    | _ => none
  let month ← pair place
  let day ← pair (place + 2)
  let hour ← pair (place + 4)
  let minute ← pair (place + 6)
  let date : Date := { year, month, day }
  if isValid date ∧ hour < 24 ∧ minute < 60 ∧ seconds ≤ 60 then
    some (days date * 86400 + hour * 3600 + minute * 60 + seconds)
  else none

/-! ### Written points in time -/

/-- A point in time taken apart. -/
structure Instant where
  onDate : Date
  /-- Days since the beginning of 1970. -/
  dayNumber : Int
  /-- Seconds since the beginning of the day. -/
  second : Nat
  /-- Seconds since the beginning of 1970. -/
  seconds : Int
  microsecond : Nat

/-- The parts of a point in time, which is given in microseconds since the beginning of 1970. -/
def Instant.of (microseconds : Int) : Instant :=
  let seconds := Int.fdiv microseconds 1000000
  let days := Int.fdiv seconds 86400
  { onDate := date days
    dayNumber := days
    second := (seconds - days * 86400).toNat
    seconds
    microsecond := (microseconds - seconds * 1000000).toNat }

/-- The day of the week, from Sunday on. -/
def Instant.weekday (instant : Instant) : Nat := ((instant.dayNumber + 4) % 7).toNat

/-- The day of the year, from zero on. -/
def Instant.dayOfYear (instant : Instant) : Nat :=
  (instant.dayNumber - days { year := instant.onDate.year, month := 1, day := 1 }).toNat

/-- The year and the number of the week by the rule that a week belongs to the year in which its
Thursday is. -/
def Instant.week (instant : Instant) : Int × Nat :=
  let fromMonday := (instant.weekday + 6) % 7
  let thursday := instant.dayNumber - fromMonday + 3
  let year := (date thursday).year
  (year, ((thursday - days { year, month := 1, day := 1 }) / 7).toNat + 1)

/-- A number filled up to a width. -/
def filled (fill : Char) (width : Nat) (value : Int) : List Char :=
  let digits := (toString value.natAbs).toList
  let digits := List.replicate (width - digits.length) fill ++ digits
  if value < 0 then '-' :: digits else digits

/-- What a letter of a format stands for: a number with its width and what fills it up, or text. -/
def Instant.part (instant : Instant) (letter : Char) : Option ((Int × Nat × Char) ⊕ List Char) :=
  let number (value : Int) (width : Nat) (fill : Char := '0') :
      Option ((Int × Nat × Char) ⊕ List Char) := some (.inl (value, width, fill))
  let text (value : String) : Option ((Int × Nat × Char) ⊕ List Char) := some (.inr value.toList)
  let hour := instant.second / 3600
  let hour12 := if hour % 12 = 0 then 12 else hour % 12
  let month := (months[instant.onDate.month - 1]?).getD ""
  let day := Calendar.weekday instant.dayNumber
  let short (name : String) : String := String.ofList (name.toList.take 3)
  match letter with
  | 'Y' => number instant.onDate.year 4
  | 'C' => number (instant.onDate.year / 100) 2
  | 'y' => number (instant.onDate.year % 100) 2
  | 'm' => number instant.onDate.month 2
  | 'd' => number instant.onDate.day 2
  | 'e' => number instant.onDate.day 2 ' '
  | 'H' => number hour 2
  | 'k' => number hour 2 ' '
  | 'I' => number hour12 2
  | 'l' => number hour12 2 ' '
  | 'M' => number (instant.second / 60 % 60) 2
  | 'S' => number (instant.second % 60) 2
  | 's' => number instant.seconds 1
  | 'N' => number (instant.microsecond * 1000) 9
  | 'j' => number (instant.dayOfYear + 1) 3
  | 'u' => number (if instant.weekday = 0 then 7 else instant.weekday) 1
  | 'w' => number instant.weekday 1
  | 'q' => number ((instant.onDate.month + 2) / 3) 1
  | 'U' => number ((instant.dayOfYear + 7 - instant.weekday) / 7) 2
  | 'W' => number ((instant.dayOfYear + 7 - (instant.weekday + 6) % 7) / 7) 2
  | 'V' => number instant.week.2 2
  | 'G' => number instant.week.1 4
  | 'g' => number (instant.week.1 % 100) 2
  | 'a' => text (short day)
  | 'A' => text day
  | 'b' | 'h' => text (short month)
  | 'B' => text month
  | 'p' => text (if hour < 12 then "AM" else "PM")
  | 'P' => text (if hour < 12 then "am" else "pm")
  | 'Z' => text "UTC"
  | 'z' => text "+0000"
  | 'n' => text "\n"
  | 't' => text "\t"
  | '%' => text "%"
  | _ => none

/-- The format that a letter stands for. -/
def longFormat? (letter : Char) : Option String :=
  match letter with
  | 'D' | 'x' => some "%m/%d/%y"
  | 'F' => some "%Y-%m-%d"
  | 'R' => some "%H:%M"
  | 'T' | 'X' => some "%H:%M:%S"
  | 'r' => some "%I:%M:%S %p"
  | 'c' => some "%a %b %e %H:%M:%S %Y"
  | _ => none

/-- A format with the letters that stand for longer formats written out. -/
def spelledOut : List Char → List Char
  | '%' :: letter :: rest =>
    match longFormat? letter with
    | some format => format.toList ++ spelledOut rest
    | none => '%' :: letter :: spelledOut rest
  | char :: rest => char :: spelledOut rest
  | [] => []

/-- A point in time in a format whose letters are written out. -/
def Instant.writtenFrom (instant : Instant) : Nat → List Char → List Char
  | 0, _ => []
  | _ + 1, [] => []
  | fuel + 1, '%' :: rest =>
    let flags := rest.takeWhile fun char => "-_0^#:".toList.contains char
    let behind := rest.drop flags.length
    let digits := behind.takeWhile Char.isDigit
    let width? := (String.ofList digits).toNat?
    match behind.drop digits.length with
    | [] => ['%']
    | letter :: more =>
      let shown := match instant.part letter with
        | none => '%' :: rest.take (rest.length - more.length)
        | some (.inl (value, width, fill)) =>
          if flags.contains '-' then filled '0' 0 value
          else if letter = 'N' ∧ width?.isSome then (filled '0' 9 value).take (width?.getD 9)
          else
            let fill := if flags.contains '_' then ' ' else if flags.contains '0' then '0' else fill
            filled fill (max width (width?.getD 0)) value
        | some (.inr text) =>
          let text := if flags.contains ':' ∧ letter = 'z' then "+00:00".toList else text
          if flags.contains '^' then text.map Char.toUpper else text
      shown ++ writtenFrom instant fuel more
  | fuel + 1, char :: rest => char :: writtenFrom instant fuel rest

/-- A point in time in a format. -/
def Instant.written (instant : Instant) (format : List Char) : List Char :=
  let format := spelledOut format
  instant.writtenFrom (format.length + 1) format

end KernelCache.Calendar
