import Slumber.Text.Blank

/-!
# Formats of dates and times

A format describes the text of a date and time: literal characters, blanks, and specifiers such as
`%Y` for the year or `%.3f` for a fraction of three digits. `Format.ofText` splits the text of a
format into its items. A specifier that is unknown, cut off, or has a padding mark it cannot take
becomes `FormatItem.invalid`, which no text matches.
-/

namespace Slumber.Time

/-- The numbers that a format can name. -/
inductive NumericField where
  | year | century | yearOfCentury
  | isoYear | isoCentury | isoYearOfCentury
  | quarter | month | day
  | weekFromSunday | weekFromMonday | isoWeek
  | daysFromSunday | weekdayFromMonday
  | ordinal | hour | hour12 | minute | second | nanosecond | timestamp
deriving DecidableEq, Repr

/-- One item of a format. -/
inductive FormatItem where
  | literal (text : List Char)
  | blank
  | number (field : NumericField)
  | shortMonth
  | longMonth
  | shortWeekday
  | longWeekday
  | halfDay
  | fraction
  | fixedFraction (digits : Nat)
  | bareFraction (digits : Nat)
  | zoneName
  | offset
  | offsetOrZ
  | instant
  | invalid
deriving DecidableEq, Repr

/-- The items of a format in order. -/
abbrev Format := List FormatItem

namespace Format

open FormatItem NumericField

/-- The items of a specifier of one letter. -/
def specifier : Char → Format
  | 'A' => [longWeekday]
  | 'B' => [longMonth]
  | 'C' => [number century]
  | 'D' | 'x' => [number month, literal ['/'], number day, literal ['/'], number yearOfCentury]
  | 'F' => [number year, literal ['-'], number month, literal ['-'], number day]
  | 'G' => [number isoYear]
  | 'H' | 'k' => [number hour]
  | 'I' | 'l' => [number hour12]
  | 'M' => [number minute]
  | 'P' | 'p' => [halfDay]
  | 'R' => [number hour, literal [':'], number minute]
  | 'S' => [number second]
  | 'T' | 'X' => [number hour, literal [':'], number minute, literal [':'], number second]
  | 'U' => [number weekFromSunday]
  | 'V' => [number isoWeek]
  | 'W' => [number weekFromMonday]
  | 'Y' => [number year]
  | 'Z' => [zoneName]
  | 'a' => [shortWeekday]
  | 'b' | 'h' => [shortMonth]
  | 'c' => [shortWeekday, blank, shortMonth, blank, number day, blank, number hour, literal [':'],
      number minute, literal [':'], number second, blank, number year]
  | 'd' | 'e' => [number day]
  | 'f' => [number nanosecond]
  | 'g' => [number isoYearOfCentury]
  | 'j' => [number ordinal]
  | 'm' => [number month]
  | 'n' | 't' => [blank]
  | 'q' => [number quarter]
  | 'r' => [number hour12, literal [':'], number minute, literal [':'], number second, blank,
      halfDay]
  | 's' => [number timestamp]
  | 'u' => [number weekdayFromMonday]
  | 'v' => [number day, literal ['-'], shortMonth, literal ['-'], number year]
  | 'w' => [number daysFromSunday]
  | 'y' => [number yearOfCentury]
  | 'z' => [offset]
  | '+' => [instant]
  | '%' => [literal ['%']]
  | _ => [invalid]

/-- Whether a specifier can take a padding mark: only a single number can. -/
def takesPadding : Format → Bool
  | [number _] => true
  | _ => false

/-- The items of the specifier behind a percent sign, and what follows it. -/
def readSpecifier : List Char → Format × List Char
  | [] => ([invalid], [])
  | '-' :: c :: cs | '0' :: c :: cs | '_' :: c :: cs =>
    let items := specifier c
    (if takesPadding items then items else [invalid], cs)
  | '-' :: [] | '0' :: [] | '_' :: [] | '#' :: [] => ([invalid], [])
  | '#' :: c :: cs => (if c = 'z' then [offsetOrZ] else [invalid], cs)
  | ':' :: ':' :: ':' :: 'z' :: cs | ':' :: ':' :: 'z' :: cs | ':' :: 'z' :: cs => ([offset], cs)
  | '.' :: '3' :: 'f' :: cs => ([fixedFraction 3], cs)
  | '.' :: '6' :: 'f' :: cs => ([fixedFraction 6], cs)
  | '.' :: '9' :: 'f' :: cs => ([fixedFraction 9], cs)
  | '.' :: 'f' :: cs => ([fraction], cs)
  | '3' :: 'f' :: cs => ([bareFraction 3], cs)
  | '6' :: 'f' :: cs => ([bareFraction 6], cs)
  | '9' :: 'f' :: cs => ([bareFraction 9], cs)
  | c :: cs => (specifier c, cs)

/-- The items of the text of a format, at most `fuel` characters and specifiers of it. -/
def ofChars : Nat → List Char → Format
  | 0, _ | _, [] => []
  | fuel + 1, c :: cs =>
    if c = '%' then
      let (items, rest) := readSpecifier cs
      items ++ ofChars fuel rest
    else if Text.isBlank c then blank :: ofChars fuel cs
    else literal [c] :: ofChars fuel cs

/-- The items of the text of a format. -/
def ofText (s : String) : Format :=
  ofChars s.length s.toList

end Format

end Slumber.Time
