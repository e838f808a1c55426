namespace CoordinatorGateway

structure Duration where
  nanos : Nat
  deriving DecidableEq, Repr

namespace Duration

def ofMillis (ms : Nat) : Duration := ⟨ms * 1000000⟩

def millis (d : Duration) : Nat := d.nanos / 1000000

/-- The milliseconds as a 64-bit number, which wraps around. -/
def millis64 (d : Duration) : Nat := d.millis % UInt64.size

def seconds (d : Duration) : Nat := d.nanos / 1000000000

/-- The least positive number of seconds that is no shorter. -/
def secondsRoundedUp (d : Duration) : Nat :=
  if d.nanos % 1000000000 = 0 then max d.seconds 1 else d.seconds + 1

/-- The units of a time limit on the wire, the finest first: a letter and a number of
nanoseconds. -/
def timeoutUnits : List (Char × Nat) :=
  [('n', 1), ('u', 1000), ('m', 1000000), ('S', 1000000000), ('M', 60000000000),
    ('H', 3600000000000)]

/-- A time limit as the wire carries it: a count of at most eight digits in the finest unit that
admits it. -/
def timeoutHeader (d : Duration) : String :=
  let (letter, size) :=
    (timeoutUnits.find? fun u => decide (d.nanos / u.2 < 100000000)).getD ('H', 3600000000000)
  (toString (d.nanos / size)).push letter

end Duration

end CoordinatorGateway
