import Slumber.Time.ClockHistory

/-!
# A small table of zones

Some clocks with their histories since 1970, for a program that is run without a database of zones:
clocks that never change, clocks of both hemispheres that are put forward and back, and clocks that
left their offset once.
-/

namespace Slumber.Time.ClockHistory

/-- A clock that never changes. -/
def fixed (name : String) (offset : Int) : ClockHistory :=
  ⟨name, offset, []⟩

/-- The rules of the United States: two o'clock on the clock itself. -/
def newYorkRules : List ClockRule :=
  [yearly 1967 2006 10 .lastSunday 7200 .wall 0,
   yearly 1967 1973 4 .lastSunday 7200 .wall 3600,
   yearly 1974 1974 1 (.fixed 6) 7200 .wall 3600,
   yearly 1975 1975 2 .lastSunday 7200 .wall 3600,
   yearly 1976 1986 4 .lastSunday 7200 .wall 3600,
   yearly 1987 2006 4 (.sundayFrom 1) 7200 .wall 3600,
   yearly 2007 forever 3 (.sundayFrom 8) 7200 .wall 3600,
   yearly 2007 forever 11 (.sundayFrom 1) 7200 .wall 0]

/-- The rules of Newfoundland: one minute past midnight for many years, and two hours of saving in
1988. -/
def stJohnsRules : List ClockRule :=
  [yearly 1967 1986 4 .lastSunday 7200 .wall 3600,
   yearly 1967 1986 10 .lastSunday 7200 .wall 0,
   yearly 1987 1987 4 (.sundayFrom 1) 60 .wall 3600,
   yearly 1988 1988 4 (.sundayFrom 1) 60 .wall 7200,
   yearly 1989 2006 4 (.sundayFrom 1) 60 .wall 3600,
   yearly 1987 2006 10 .lastSunday 60 .wall 0,
   yearly 2007 2011 3 (.sundayFrom 8) 60 .wall 3600,
   yearly 2007 2010 11 (.sundayFrom 1) 60 .wall 0,
   yearly 2011 forever 11 (.sundayFrom 1) 7200 .wall 0,
   yearly 2012 forever 3 (.sundayFrom 8) 7200 .wall 3600]

/-- The rules of New Zealand: two o'clock in standard time. -/
def aucklandRules : List ClockRule :=
  [yearly 1974 1974 11 (.sundayFrom 1) 7200 .standard 3600,
   yearly 1975 1975 2 .lastSunday 7200 .standard 0,
   yearly 1975 1988 10 .lastSunday 7200 .standard 3600,
   yearly 1976 1989 3 (.sundayFrom 1) 7200 .standard 0,
   yearly 1989 1989 10 (.sundayFrom 8) 7200 .standard 3600,
   yearly 1990 2006 10 (.sundayFrom 1) 7200 .standard 3600,
   yearly 1990 2007 3 (.sundayFrom 15) 7200 .standard 0,
   yearly 2007 forever 9 .lastSunday 7200 .standard 3600,
   yearly 2008 forever 4 (.sundayFrom 1) 7200 .standard 0]

/-- The rules of Lord Howe Island, whose clock is put forward by half an hour since 1985. -/
def lordHoweRules : List ClockRule :=
  [yearly 1981 1984 10 .lastSunday 7200 .wall 3600,
   yearly 1982 1985 3 (.sundayFrom 1) 7200 .wall 0,
   yearly 1985 1985 10 .lastSunday 7200 .wall 1800,
   yearly 1986 1989 3 (.sundayFrom 15) 7200 .wall 0,
   yearly 1986 1986 10 (.fixed 19) 7200 .wall 1800,
   yearly 1987 1999 10 .lastSunday 7200 .wall 1800,
   yearly 1990 1995 3 (.sundayFrom 1) 7200 .wall 0,
   yearly 1996 2005 3 .lastSunday 7200 .wall 0,
   yearly 2000 2000 8 .lastSunday 7200 .wall 1800,
   yearly 2001 2007 10 .lastSunday 7200 .wall 1800,
   yearly 2006 2006 4 (.sundayFrom 1) 7200 .wall 0,
   yearly 2007 2007 3 .lastSunday 7200 .wall 0,
   yearly 2008 forever 4 (.sundayFrom 1) 7200 .wall 0,
   yearly 2008 forever 10 (.sundayFrom 1) 7200 .wall 1800]

/-- The second of Universal Time of a date and a second of its day. -/
def secondOf (year : Int) (month day second : Nat) : Int :=
  dayNumber ⟨year, month, day⟩ * 86400 + second

/-- The clocks of the table. -/
def table : List ClockHistory :=
  [fixed "UTC" 0, fixed "GMT" 0, fixed "EST" (-18000), fixed "Etc/UTC" 0,
   fixed "Etc/GMT+5" (-18000), fixed "Asia/Kolkata" 19800,
   ⟨"Asia/Kathmandu", 19800, [(secondOf 1985 12 31 66600, 20700)]⟩,
   ⟨"Pacific/Kiritimati", -38400,
     [(secondOf 1979 10 1 38400, -36000), (secondOf 1994 12 31 36000, 50400)]⟩,
   ⟨"America/New_York", -18000, ClockRule.changes newYorkRules (-18000)⟩,
   ⟨"America/St_Johns", -12600, ClockRule.changes stJohnsRules (-12600)⟩,
   paris,
   ⟨"Pacific/Auckland", 43200, ClockRule.changes aucklandRules 43200⟩,
   ⟨"Australia/Lord_Howe", 36000,
     (secondOf 1981 2 28 50400, 37800) :: ClockRule.changes lordHoweRules 37800⟩]

end Slumber.Time.ClockHistory
