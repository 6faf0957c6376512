import Switchboard.Value
import Switchboard.Text.Blank

/-!
The written forms of calendar dates and points in time.
-/
namespace Switchboard

/-- A number with at least `width` digits. -/
def padded (width n : Nat) : String :=
  let digits := Nat.toDigits 10 n
  String.ofList (List.replicate (width - digits.length) '0' ++ digits)

namespace Moment

/-- The offset from universal time, as `+hh:mm`. -/
def offsetText (minutes : Int) : String :=
  (if minutes < 0 then "-" else "+") ++ padded 2 (minutes.natAbs / 60) ++ ":"
    ++ padded 2 (minutes.natAbs % 60)

/-- The clock as `hh:mm:ss`, with six decimals when there are microseconds, then the offset. -/
def clockText (c : Clock) : String :=
  padded 2 c.hour ++ ":" ++ padded 2 c.minute ++ ":" ++ padded 2 c.second
    ++ (if c.micros = 0 then "" else "." ++ padded 6 c.micros)
    ++ (match c.offset with | some minutes => offsetText minutes | none => "")

/-- The date as `yyyy-mm-dd`. -/
def dateText (m : Moment) : String :=
  padded 4 m.year ++ "-" ++ padded 2 m.month ++ "-" ++ padded 2 m.day

/-- Date and clock with `sep` between them. -/
def text (sep : String) (m : Moment) : String :=
  match m.clock with
  | none => m.dateText
  | some c => m.dateText ++ sep ++ clockText c

/-- The form of the standard for dates and times, with a `T` between date and clock. -/
def isoText (m : Moment) : String := m.text "T"

/-- The expression that rebuilds a span of time, as messages show it: whole days, rounded down, and the
seconds left over. -/
def spanLiteral (minutes : Int) : String :=
  let days := Int.fdiv minutes 1440
  let seconds := (minutes - days * 1440) * 60
  let fields := (if days = 0 then [] else ["days=" ++ toString days])
    ++ (if seconds = 0 then [] else ["seconds=" ++ toString seconds])
  "datetime.timedelta(" ++ (if fields.isEmpty then "0" else Text.join ", " fields) ++ ")"

/-- The expression that rebuilds the moment, as messages show it. -/
def literal (m : Moment) : String :=
  let numbers (ns : List Nat) : String := Text.join ", " (ns.map toString)
  match m.clock with
  | none => "datetime.date(" ++ numbers [m.year, m.month, m.day] ++ ")"
  | some c =>
    let fields := [m.year, m.month, m.day, c.hour, c.minute]
      ++ (if c.micros != 0 then [c.second, c.micros] else if c.second != 0 then [c.second] else [])
    let zone := match c.offset with
      | none => ""
      | some 0 => ", tzinfo=datetime.timezone.utc"
      | some minutes => ", tzinfo=datetime.timezone(" ++ spanLiteral minutes ++ ")"
    "datetime.datetime(" ++ numbers fields ++ zone ++ ")"

end Moment

end Switchboard
