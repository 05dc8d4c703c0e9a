/-!
# Time

Instants and durations are whole numbers of nanoseconds. The clock of a run starts at zero.
-/

namespace ConnectionRouter

/-- Nanoseconds since the start of a run. -/
abbrev Instant : Type := Nat

/-- Nanoseconds between two instants. -/
abbrev Duration : Type := Nat

namespace Duration

def ofSeconds (n : Nat) : Duration := n * 1000000000

def ofMilliseconds (n : Nat) : Duration := n * 1000000

/-- The whole milliseconds of a duration. -/
def milliseconds (d : Duration) : Nat := d / 1000000

end Duration

end ConnectionRouter
