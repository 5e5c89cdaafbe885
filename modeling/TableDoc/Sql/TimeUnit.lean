import TableDoc.Dialect

/-!
# Units of time

The words that count an interval, with the short forms that some of them have. A dialect may know
spans of units as single words.
-/

namespace TableDoc.Sql

namespace TimeUnit

/-- The words for units that both dialects read. -/
def common : List String :=
  ["Y", "YY", "YYY", "YYYY", "YR", "YEARS", "YRS", "YEAR", "MM", "MON", "MONS", "MONTHS", "MONTH",
   "D", "DD", "DAYS", "DAYOFMONTH", "DAY", "WEEKDAY", "DOW", "DW", "DAYOFWEEK", "WEEKDAY_ISO",
   "DOW_ISO", "DW_ISO", "DAYOFWEEK_ISO", "DAYOFWEEKISO", "DOY", "DY", "DAYOFYEAR", "W", "WK",
   "WEEKOFYEAR", "WOY", "WY", "WEEK", "WEEK_ISO", "WEEKOFYEARISO", "WEEKOFYEAR_ISO", "WEEKISO",
   "Q", "QTR", "QTRS", "QUARTERS", "QUARTER", "H", "HH", "HR", "HOURS", "HRS", "HOUR", "M", "MI",
   "MIN", "MINUTES", "MINS", "MINUTE", "S", "SEC", "SECONDS", "SECS", "SECOND", "MS", "MSEC",
   "MSECS", "MSECOND", "MSECONDS", "MILLISEC", "MILLISECS", "MILLISECON", "MILLISECONDS",
   "MILLISECOND", "US", "USEC", "USECS", "MICROSEC", "MICROSECS", "USECOND", "USECONDS",
   "MICROSECONDS", "MICROSECOND", "NS", "NSEC", "NANOSEC", "NSECOND", "NSECONDS", "NANOSECS",
   "NANOSECOND", "EPOCH_SECOND", "EPOCH_SECONDS", "EPOCH", "EPOCH_MILLISECONDS",
   "EPOCH_MILLISECOND", "EPOCH_MICROSECONDS", "EPOCH_MICROSECOND", "EPOCH_NANOSECONDS",
   "EPOCH_NANOSECOND", "TZH", "TIMEZONE_HOUR", "TZM", "TIMEZONE_MINUTE", "DEC", "DECS", "DECADES",
   "DECADE", "MIL", "MILS", "MILLENIA", "MILLENNIUM", "C", "CENT", "CENTS", "CENTURIES",
   "CENTURY"]

/-- The words for spans of units, which one dialect reads as units of their own. -/
def spans : List String :=
  ["SECOND_MICROSECOND", "MINUTE_MICROSECOND", "MINUTE_SECOND", "HOUR_MICROSECOND", "HOUR_SECOND",
   "HOUR_MINUTE", "DAY_MICROSECOND", "DAY_SECOND", "DAY_MINUTE", "DAY_HOUR", "YEAR_MONTH"]

/-- Whether a word in capitals counts an interval in a dialect. -/
def isUnit (d : Dialect) (word : String) : Bool :=
  common.contains word || (d == .mysql && spans.contains word)

/-- The unit that a word in capitals stands for: short forms are written out. -/
def written (word : String) : String :=
  (List.lookup word
    [("D", "DAY"), ("H", "HOUR"), ("M", "MINUTE"), ("MS", "MILLISECOND"), ("NS", "NANOSECOND"),
     ("Q", "QUARTER"), ("S", "SECOND"), ("US", "MICROSECOND"), ("W", "WEEK"),
     ("Y", "YEAR")]).getD word

/-- The unit without the mark of more than one. -/
def singular (word : String) : String :=
  (List.lookup word
    [("MICROSECONDS", "MICROSECOND"), ("SECONDS", "SECOND"), ("MINUTES", "MINUTE"),
     ("HOURS", "HOUR"), ("DAYS", "DAY"), ("WEEKS", "WEEK"), ("MONTHS", "MONTH"),
     ("QUARTERS", "QUARTER"), ("YEARS", "YEAR")]).getD word

end TimeUnit

end TableDoc.Sql
