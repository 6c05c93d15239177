/-!
# Instants in universal time

Times in a status are instants on the universal calendar. An instant is kept as its calendar
fields, because these are what is written and read back; the fraction of a second takes part in
comparing two instants and is lost when one is written. A leap second is the sixtieth second of
its minute.

## Main definitions

* `Date`: a day of the Gregorian calendar, extended to both sides, of the years that a time can
  name.
* `Date.ofFields?`, `Date.next?`, `Date.previous?`.
* `Instant`: a day with the time of the day; `Instant.ofFields` makes one.
* `Instant.wholeSeconds`, `Instant.offSecond`: the instant without its fraction, and with one.
* `Instant.addSeconds?`: a later instant.
-/

namespace ClusterOperator

namespace Date

/-- Whether a year has a 29th of February. -/
def isLeap (year : Int) : Bool :=
  year % 4 == 0 && (year % 100 != 0 || year % 400 == 0)

/-- The number of days of a month; zero for what is no month. -/
def daysInMonth (year : Int) (month : Nat) : Nat :=
  match month with
  | 2 => if isLeap year then 29 else 28
  | 4 | 6 | 9 | 11 => 30
  | 1 | 3 | 5 | 7 | 8 | 10 | 12 => 31
  | _ => 0

/-- The fields name a day of a year that can be named. -/
def Valid (year : Int) (month day : Nat) : Prop :=
  (-262143 ≤ year ∧ year ≤ 262142) ∧ (1 ≤ month ∧ month ≤ 12) ∧
    (1 ≤ day ∧ day ≤ daysInMonth year month)

instance (year : Int) (month day : Nat) : Decidable (Valid year month day) := by
  unfold Valid; infer_instance

end Date

/-- A day of the calendar. -/
structure Date where
  year : Int
  month : Nat
  day : Nat
  valid : Date.Valid year month day
  deriving DecidableEq

namespace Date

/-- The day with the given fields, if there is one. -/
def ofFields? (year : Int) (month day : Nat) : Option Date :=
  if h : Valid year month day then some ⟨year, month, day, h⟩ else none

/-- The day after. -/
def next? (d : Date) : Option Date :=
  (ofFields? d.year d.month (d.day + 1)).or
    ((ofFields? d.year (d.month + 1) 1).or (ofFields? (d.year + 1) 1 1))

/-- The day before. -/
def previous? (d : Date) : Option Date :=
  (ofFields? d.year d.month (d.day - 1)).or
    ((ofFields? d.year (d.month - 1) (daysInMonth d.year (d.month - 1))).or
      (ofFields? (d.year - 1) 12 31))

@[simp] theorem ofFields?_eq (d : Date) : ofFields? d.year d.month d.day = some d := by
  simp [ofFields?, d.valid]

end Date

/-- A point in time: a day and the time of the day. -/
structure Instant where
  date : Date
  hour : Fin 24
  minute : Fin 60
  second : Fin 61
  nano : Fin 1000000000
  deriving DecidableEq

namespace Instant

/-- The start of the year 1970. -/
def epoch : Instant := ⟨⟨1970, 1, 1, by decide⟩, 0, 0, 0, 0⟩

instance : Inhabited Instant := ⟨epoch⟩

/-- The time of a day with the given fields, each taken into its range. -/
def ofFields (date : Date) (hour minute second nano : Nat) : Instant :=
  ⟨date, Fin.ofNat _ hour, Fin.ofNat _ minute, Fin.ofNat _ second, Fin.ofNat _ nano⟩

/-- The instant without its fraction of a second. -/
def wholeSeconds (t : Instant) : Instant := { t with nano := 0 }

@[simp] theorem wholeSeconds_wholeSeconds (t : Instant) :
    t.wholeSeconds.wholeSeconds = t.wholeSeconds := rfl

/-- The instant a moment into its second, which is no time that was read from a status. -/
def offSecond (t : Instant) : Instant := { t with nano := ⟨1, by decide⟩ }

theorem nano_offSecond_ne (t : Instant) : t.offSecond.nano ≠ 0 := fun h =>
  Nat.one_ne_zero (congrArg Fin.val h)

/-- The day a number of days later. -/
def laterDay? : Nat → Date → Option Date
  | 0, d => some d
  | n + 1, d => d.next?.bind (laterDay? n)

/-- The instant a number of seconds later, if its year can be named. -/
def addSeconds? (t : Instant) (seconds : Nat) : Option Instant :=
  let total := t.hour.val * 3600 + t.minute.val * 60 + t.second.val + seconds
  (laterDay? (total / 86400) t.date).map fun date =>
    let rest := total % 86400
    ⟨date, Fin.ofNat 24 (rest / 3600), Fin.ofNat 60 (rest / 60 % 60), Fin.ofNat 61 (rest % 60),
      t.nano⟩

/-- The same point in time for a clock that is ahead of universal time by a number of minutes of
less than a day: the time of the day moves back, at most into the day before or after. -/
def ofLocal? (t : Instant) (aheadMinutes : Int) : Option Instant :=
  let total : Int := (t.hour.val * 60 + t.minute.val : Nat) - aheadMinutes
  let place (date : Date) (minutes : Int) : Instant :=
    { t with date, hour := Fin.ofNat 24 (minutes.toNat / 60),
             minute := Fin.ofNat 60 (minutes.toNat % 60) }
  if total < 0 then t.date.previous?.map (place · (total + 1440))
  else if 1440 ≤ total then t.date.next?.map (place · (total - 1440))
  else some (place t.date total)

end Instant

end ClusterOperator
