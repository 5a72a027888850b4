import SdkShelf.Timestamp.Basic

/-!
Points in time from what a clock shows: seconds since the beginning of 1970, and nanoseconds.
-/

namespace SdkShelf

def Date.epoch : Date := ⟨1970, 1, 1, by decide⟩

/-- The day so many days on; the calendar's last day is not passed. -/
def Date.after (d : Date) : Nat → Date
  | 0 => d
  | n + 1 => ((d.after n).next?).getD (d.after n)

def Timestamp.ofClock (seconds nanos : Nat) : Timestamp where
  date := Date.epoch.after (seconds / 86400)
  hour := seconds % 86400 / 3600
  minute := seconds % 3600 / 60
  second := seconds % 60
  nanos := nanos % 1000000000
  isTime := by
    refine ⟨?_, ?_, ?_, .inl ?_⟩ <;> omega

end SdkShelf
