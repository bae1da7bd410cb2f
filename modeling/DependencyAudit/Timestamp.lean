import DependencyAudit.Text.Basic

namespace DependencyAudit

/-- A moment in universal time. -/
structure Moment where
  year : Nat
  month : Nat
  day : Nat
  hour : Nat
  minute : Nat
  second : Nat
  microsecond : Nat
deriving DecidableEq

/-- Date and time to the millisecond, cut off and not rounded. -/
def Moment.stamp (m : Moment) : Text :=
  let two := Text.zeroPadded 2
  Text.zeroPadded 4 m.year ++ '-' :: two m.month ++ '-' :: two m.day ++ 'T' :: two m.hour ++
    ':' :: two m.minute ++ ':' :: two m.second ++ '.' :: Text.zeroPadded 3 (m.microsecond / 1000) ++ ['Z']

end DependencyAudit
