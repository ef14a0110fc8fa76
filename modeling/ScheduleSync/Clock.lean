import Mathlib.Data.Int.Notation

/-! Go's time.Time and time.Duration as nanoseconds, and the intervals the
program names. -/
namespace ScheduleSync

def second : Int := 1000000000
def minute : Int := 60 * second
def hour : Int := 60 * minute

/-- Time.Unix: whole seconds since the epoch, rounded down. -/
def unix (t : Int) : Int := t / second

def maxConcurrentScrapes : Nat := 3
def pollInterval : Int := 60 * second
def minScrapeInterval : Int := 16 * hour
def maxScrapeInterval : Int := 24 * hour
def scrapeTimeout : Int := 2 * minute
def maxRetries : Nat := 3
def pullInterval : Int := 5 * minute

def pinExpiry : Int := 10 * minute
def maxAttempts : Nat := 5
def sessionDuration : Int := 90 * 24 * hour

theorem unix_mono {a b : Int} (h : a ≤ b) : unix a ≤ unix b := by
  unfold unix second
  omega

theorem unix_add_seconds (t n : Int) : unix (t + n * second) = unix t + n := by
  unfold unix second
  omega

/-- rand.Int63n over the width of the interval, added to its lower end. -/
def scrapeJitter (r : Nat) : Int :=
  (r : Int) % (maxScrapeInterval - minScrapeInterval) + minScrapeInterval

theorem scrapeJitter_ge (r : Nat) : minScrapeInterval ≤ scrapeJitter r := by
  have h : (0 : Int) ≤ (r : Int) % (maxScrapeInterval - minScrapeInterval) :=
    Int.emod_nonneg _ (by decide)
  unfold scrapeJitter
  omega

end ScheduleSync
