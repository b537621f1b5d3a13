import SqlDraft.Calendar.Moment

/-!
# London time

The offset of the clocks of London from universal time: mean solar time until 1847, then the recorded
changes until 1996, then summer time between the last Sundays of March and October.

* `londonOffset`: the offset at an instant.
* `zonedText`, `londonText`: a moment as read from clocks with an offset, and from those of London.
-/

namespace SqlDraft

/-- The offset before the first recorded change, in seconds: mean solar time. -/
def londonMeanTime : Int := -75

/-- The recorded changes in universal time, with the offset in seconds that holds from then on. -/
def londonChanges : List (Date × Clock × Int) :=
  [(⟨1847, 12, 1⟩, ⟨0, 1, 15⟩, 0), (⟨1916, 5, 21⟩, ⟨2, 0, 0⟩, 3600),
   (⟨1916, 10, 1⟩, ⟨2, 0, 0⟩, 0), (⟨1917, 4, 8⟩, ⟨2, 0, 0⟩, 3600), (⟨1917, 9, 17⟩, ⟨2, 0, 0⟩, 0),
   (⟨1918, 3, 24⟩, ⟨2, 0, 0⟩, 3600), (⟨1918, 9, 30⟩, ⟨2, 0, 0⟩, 0),
   (⟨1919, 3, 30⟩, ⟨2, 0, 0⟩, 3600), (⟨1919, 9, 29⟩, ⟨2, 0, 0⟩, 0),
   (⟨1920, 3, 28⟩, ⟨2, 0, 0⟩, 3600), (⟨1920, 10, 25⟩, ⟨2, 0, 0⟩, 0),
   (⟨1921, 4, 3⟩, ⟨2, 0, 0⟩, 3600), (⟨1921, 10, 3⟩, ⟨2, 0, 0⟩, 0),
   (⟨1922, 3, 26⟩, ⟨2, 0, 0⟩, 3600), (⟨1922, 10, 8⟩, ⟨2, 0, 0⟩, 0),
   (⟨1923, 4, 22⟩, ⟨2, 0, 0⟩, 3600), (⟨1923, 9, 16⟩, ⟨2, 0, 0⟩, 0),
   (⟨1924, 4, 13⟩, ⟨2, 0, 0⟩, 3600), (⟨1924, 9, 21⟩, ⟨2, 0, 0⟩, 0),
   (⟨1925, 4, 19⟩, ⟨2, 0, 0⟩, 3600), (⟨1925, 10, 4⟩, ⟨2, 0, 0⟩, 0),
   (⟨1926, 4, 18⟩, ⟨2, 0, 0⟩, 3600), (⟨1926, 10, 3⟩, ⟨2, 0, 0⟩, 0),
   (⟨1927, 4, 10⟩, ⟨2, 0, 0⟩, 3600), (⟨1927, 10, 2⟩, ⟨2, 0, 0⟩, 0),
   (⟨1928, 4, 22⟩, ⟨2, 0, 0⟩, 3600), (⟨1928, 10, 7⟩, ⟨2, 0, 0⟩, 0),
   (⟨1929, 4, 21⟩, ⟨2, 0, 0⟩, 3600), (⟨1929, 10, 6⟩, ⟨2, 0, 0⟩, 0),
   (⟨1930, 4, 13⟩, ⟨2, 0, 0⟩, 3600), (⟨1930, 10, 5⟩, ⟨2, 0, 0⟩, 0),
   (⟨1931, 4, 19⟩, ⟨2, 0, 0⟩, 3600), (⟨1931, 10, 4⟩, ⟨2, 0, 0⟩, 0),
   (⟨1932, 4, 17⟩, ⟨2, 0, 0⟩, 3600), (⟨1932, 10, 2⟩, ⟨2, 0, 0⟩, 0),
   (⟨1933, 4, 9⟩, ⟨2, 0, 0⟩, 3600), (⟨1933, 10, 8⟩, ⟨2, 0, 0⟩, 0),
   (⟨1934, 4, 22⟩, ⟨2, 0, 0⟩, 3600), (⟨1934, 10, 7⟩, ⟨2, 0, 0⟩, 0),
   (⟨1935, 4, 14⟩, ⟨2, 0, 0⟩, 3600), (⟨1935, 10, 6⟩, ⟨2, 0, 0⟩, 0),
   (⟨1936, 4, 19⟩, ⟨2, 0, 0⟩, 3600), (⟨1936, 10, 4⟩, ⟨2, 0, 0⟩, 0),
   (⟨1937, 4, 18⟩, ⟨2, 0, 0⟩, 3600), (⟨1937, 10, 3⟩, ⟨2, 0, 0⟩, 0),
   (⟨1938, 4, 10⟩, ⟨2, 0, 0⟩, 3600), (⟨1938, 10, 2⟩, ⟨2, 0, 0⟩, 0),
   (⟨1939, 4, 16⟩, ⟨2, 0, 0⟩, 3600), (⟨1939, 11, 19⟩, ⟨2, 0, 0⟩, 0),
   (⟨1940, 2, 25⟩, ⟨2, 0, 0⟩, 3600), (⟨1941, 5, 4⟩, ⟨1, 0, 0⟩, 7200),
   (⟨1941, 8, 10⟩, ⟨1, 0, 0⟩, 3600), (⟨1942, 4, 5⟩, ⟨1, 0, 0⟩, 7200),
   (⟨1942, 8, 9⟩, ⟨1, 0, 0⟩, 3600), (⟨1943, 4, 4⟩, ⟨1, 0, 0⟩, 7200),
   (⟨1943, 8, 15⟩, ⟨1, 0, 0⟩, 3600), (⟨1944, 4, 2⟩, ⟨1, 0, 0⟩, 7200),
   (⟨1944, 9, 17⟩, ⟨1, 0, 0⟩, 3600), (⟨1945, 4, 2⟩, ⟨1, 0, 0⟩, 7200),
   (⟨1945, 7, 15⟩, ⟨1, 0, 0⟩, 3600), (⟨1945, 10, 7⟩, ⟨2, 0, 0⟩, 0),
   (⟨1946, 4, 14⟩, ⟨2, 0, 0⟩, 3600), (⟨1946, 10, 6⟩, ⟨2, 0, 0⟩, 0),
   (⟨1947, 3, 16⟩, ⟨2, 0, 0⟩, 3600), (⟨1947, 4, 13⟩, ⟨1, 0, 0⟩, 7200),
   (⟨1947, 8, 10⟩, ⟨1, 0, 0⟩, 3600), (⟨1947, 11, 2⟩, ⟨2, 0, 0⟩, 0),
   (⟨1948, 3, 14⟩, ⟨2, 0, 0⟩, 3600), (⟨1948, 10, 31⟩, ⟨2, 0, 0⟩, 0),
   (⟨1949, 4, 3⟩, ⟨2, 0, 0⟩, 3600), (⟨1949, 10, 30⟩, ⟨2, 0, 0⟩, 0),
   (⟨1950, 4, 16⟩, ⟨2, 0, 0⟩, 3600), (⟨1950, 10, 22⟩, ⟨2, 0, 0⟩, 0),
   (⟨1951, 4, 15⟩, ⟨2, 0, 0⟩, 3600), (⟨1951, 10, 21⟩, ⟨2, 0, 0⟩, 0),
   (⟨1952, 4, 20⟩, ⟨2, 0, 0⟩, 3600), (⟨1952, 10, 26⟩, ⟨2, 0, 0⟩, 0),
   (⟨1953, 4, 19⟩, ⟨2, 0, 0⟩, 3600), (⟨1953, 10, 4⟩, ⟨2, 0, 0⟩, 0),
   (⟨1954, 4, 11⟩, ⟨2, 0, 0⟩, 3600), (⟨1954, 10, 3⟩, ⟨2, 0, 0⟩, 0),
   (⟨1955, 4, 17⟩, ⟨2, 0, 0⟩, 3600), (⟨1955, 10, 2⟩, ⟨2, 0, 0⟩, 0),
   (⟨1956, 4, 22⟩, ⟨2, 0, 0⟩, 3600), (⟨1956, 10, 7⟩, ⟨2, 0, 0⟩, 0),
   (⟨1957, 4, 14⟩, ⟨2, 0, 0⟩, 3600), (⟨1957, 10, 6⟩, ⟨2, 0, 0⟩, 0),
   (⟨1958, 4, 20⟩, ⟨2, 0, 0⟩, 3600), (⟨1958, 10, 5⟩, ⟨2, 0, 0⟩, 0),
   (⟨1959, 4, 19⟩, ⟨2, 0, 0⟩, 3600), (⟨1959, 10, 4⟩, ⟨2, 0, 0⟩, 0),
   (⟨1960, 4, 10⟩, ⟨2, 0, 0⟩, 3600), (⟨1960, 10, 2⟩, ⟨2, 0, 0⟩, 0),
   (⟨1961, 3, 26⟩, ⟨2, 0, 0⟩, 3600), (⟨1961, 10, 29⟩, ⟨2, 0, 0⟩, 0),
   (⟨1962, 3, 25⟩, ⟨2, 0, 0⟩, 3600), (⟨1962, 10, 28⟩, ⟨2, 0, 0⟩, 0),
   (⟨1963, 3, 31⟩, ⟨2, 0, 0⟩, 3600), (⟨1963, 10, 27⟩, ⟨2, 0, 0⟩, 0),
   (⟨1964, 3, 22⟩, ⟨2, 0, 0⟩, 3600), (⟨1964, 10, 25⟩, ⟨2, 0, 0⟩, 0),
   (⟨1965, 3, 21⟩, ⟨2, 0, 0⟩, 3600), (⟨1965, 10, 24⟩, ⟨2, 0, 0⟩, 0),
   (⟨1966, 3, 20⟩, ⟨2, 0, 0⟩, 3600), (⟨1966, 10, 23⟩, ⟨2, 0, 0⟩, 0),
   (⟨1967, 3, 19⟩, ⟨2, 0, 0⟩, 3600), (⟨1967, 10, 29⟩, ⟨2, 0, 0⟩, 0),
   (⟨1968, 2, 18⟩, ⟨2, 0, 0⟩, 3600), (⟨1971, 10, 31⟩, ⟨2, 0, 0⟩, 0),
   (⟨1972, 3, 19⟩, ⟨2, 0, 0⟩, 3600), (⟨1972, 10, 29⟩, ⟨2, 0, 0⟩, 0),
   (⟨1973, 3, 18⟩, ⟨2, 0, 0⟩, 3600), (⟨1973, 10, 28⟩, ⟨2, 0, 0⟩, 0),
   (⟨1974, 3, 17⟩, ⟨2, 0, 0⟩, 3600), (⟨1974, 10, 27⟩, ⟨2, 0, 0⟩, 0),
   (⟨1975, 3, 16⟩, ⟨2, 0, 0⟩, 3600), (⟨1975, 10, 26⟩, ⟨2, 0, 0⟩, 0),
   (⟨1976, 3, 21⟩, ⟨2, 0, 0⟩, 3600), (⟨1976, 10, 24⟩, ⟨2, 0, 0⟩, 0),
   (⟨1977, 3, 20⟩, ⟨2, 0, 0⟩, 3600), (⟨1977, 10, 23⟩, ⟨2, 0, 0⟩, 0),
   (⟨1978, 3, 19⟩, ⟨2, 0, 0⟩, 3600), (⟨1978, 10, 29⟩, ⟨2, 0, 0⟩, 0),
   (⟨1979, 3, 18⟩, ⟨2, 0, 0⟩, 3600), (⟨1979, 10, 28⟩, ⟨2, 0, 0⟩, 0),
   (⟨1980, 3, 16⟩, ⟨2, 0, 0⟩, 3600), (⟨1980, 10, 26⟩, ⟨2, 0, 0⟩, 0),
   (⟨1981, 3, 29⟩, ⟨1, 0, 0⟩, 3600), (⟨1981, 10, 25⟩, ⟨1, 0, 0⟩, 0),
   (⟨1982, 3, 28⟩, ⟨1, 0, 0⟩, 3600), (⟨1982, 10, 24⟩, ⟨1, 0, 0⟩, 0),
   (⟨1983, 3, 27⟩, ⟨1, 0, 0⟩, 3600), (⟨1983, 10, 23⟩, ⟨1, 0, 0⟩, 0),
   (⟨1984, 3, 25⟩, ⟨1, 0, 0⟩, 3600), (⟨1984, 10, 28⟩, ⟨1, 0, 0⟩, 0),
   (⟨1985, 3, 31⟩, ⟨1, 0, 0⟩, 3600), (⟨1985, 10, 27⟩, ⟨1, 0, 0⟩, 0),
   (⟨1986, 3, 30⟩, ⟨1, 0, 0⟩, 3600), (⟨1986, 10, 26⟩, ⟨1, 0, 0⟩, 0),
   (⟨1987, 3, 29⟩, ⟨1, 0, 0⟩, 3600), (⟨1987, 10, 25⟩, ⟨1, 0, 0⟩, 0),
   (⟨1988, 3, 27⟩, ⟨1, 0, 0⟩, 3600), (⟨1988, 10, 23⟩, ⟨1, 0, 0⟩, 0),
   (⟨1989, 3, 26⟩, ⟨1, 0, 0⟩, 3600), (⟨1989, 10, 29⟩, ⟨1, 0, 0⟩, 0),
   (⟨1990, 3, 25⟩, ⟨1, 0, 0⟩, 3600), (⟨1990, 10, 28⟩, ⟨1, 0, 0⟩, 0),
   (⟨1991, 3, 31⟩, ⟨1, 0, 0⟩, 3600), (⟨1991, 10, 27⟩, ⟨1, 0, 0⟩, 0),
   (⟨1992, 3, 29⟩, ⟨1, 0, 0⟩, 3600), (⟨1992, 10, 25⟩, ⟨1, 0, 0⟩, 0),
   (⟨1993, 3, 28⟩, ⟨1, 0, 0⟩, 3600), (⟨1993, 10, 24⟩, ⟨1, 0, 0⟩, 0),
   (⟨1994, 3, 27⟩, ⟨1, 0, 0⟩, 3600), (⟨1994, 10, 23⟩, ⟨1, 0, 0⟩, 0),
   (⟨1995, 3, 26⟩, ⟨1, 0, 0⟩, 3600), (⟨1995, 10, 22⟩, ⟨1, 0, 0⟩, 0),
   (⟨1996, 3, 31⟩, ⟨1, 0, 0⟩, 3600), (⟨1996, 10, 27⟩, ⟨1, 0, 0⟩, 0)]

/-- The first second of 1997, from which the summer-time rule holds. -/
def londonRuleStart : Int := secondsOf ⟨1997, 1, 1⟩ ⟨0, 0, 0⟩

/-- The offset of the last recorded change that is not after an instant. -/
def recordedOffset (t : Int) : Int :=
  londonChanges.foldl (fun o e => if secondsOf e.1 e.2.1 ≤ t then e.2.2 else o) londonMeanTime

/-- One o'clock universal time on the last Sunday of a month of 31 days. -/
def clockChange (year month : Nat) : Int := ((lastSunday year month * daySeconds + 3600 : Nat) : Int)

/-- Summer time between the last Sundays of March and October. -/
def ruleOffset (t : Int) : Int :=
  let year := yearOfDay (t.toNat / daySeconds)
  if clockChange year 3 ≤ t ∧ t < clockChange year 10 then 3600 else 0

/-- The offset of the clocks of London at an instant, in seconds. -/
def londonOffset (t : Int) : Int := if t < londonRuleStart then recordedOffset t else ruleOffset t

/-- A moment as read from clocks with a given offset at each instant, if universal time and what they show both lie
in the years 1 to 9999. -/
def zonedText (offset : Int → Int) (m : Moment) : Except Fault String :=
  let t := m.instant
  let l := t + offset t
  if inCalendar t && inCalendar l then
    let (d, c) := clockOf l.toNat
    .ok (plainText d c)
  else .error .dateOutOfRange

/-- A moment as read from the clocks of London. -/
def londonText (m : Moment) : Except Fault String := zonedText londonOffset m

/-- The shape of every text of a current moment, with `D` for a digit. -/
def currentShape : String := "DDDD-DD-DD DD:DD:DD"

end SqlDraft
