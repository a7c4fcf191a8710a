import ActionPriority.Binary64.Fixed
import ActionPriority.Time.Basic

/-! # Times and Seconds

    Seconds given as a float become nanoseconds by exact rounding to the nearest one,
    a half going to the even one.  Back, the whole seconds and the fraction of a second
    are converted one by one and added.

    * `Time.ofSeconds` refuses what is no length of time, and says why.
    * `Time.clampSeconds` replaces it by the nearest time.
    * `Time.scale` and `Time.divide` stretch a length by a float.
-/

namespace ActionPriority

/-! ### Refusals -/

/-- Why a number of seconds is not a length of time. -/
inductive SecondsError where
  /-- It is less than zero. -/
  | negative
  /-- It is `2 ^ 64` or more, or not a number. -/
  | tooBig
  deriving DecidableEq, Repr

/-- The wording of a refusal. -/
def SecondsError.message : SecondsError → String
  | .negative => "cannot convert float seconds to Duration: value is negative"
  | .tooBig => "cannot convert float seconds to Duration: value is either too big or NaN"

namespace Time

/-! ### From seconds -/

/-- `2 ^ 64`, the first number of seconds past the last instant. -/
def secondsLimit : Float := 18446744073709551616.0

/-- The length of `x` seconds, to the nearest nanosecond, a half going to the even one.
    Negative zero counts as zero. -/
def ofSeconds (x : Float) : Except SecondsError Time :=
  if x < 0.0 then .error .negative
  else if x < secondsLimit then
    match Binary64.magnitude? x with
    | some m => .ok (ofNanos (Binary64.roundDiv (m.numerator * nanosPerSecond) m.denominator))
    | none => .error .tooBig
  else .error .tooBig

/-- The length of `x` seconds, or the last instant if there is no such length. -/
def ofSecondsOrNever (x : Float) : Time := (ofSeconds x).toOption.getD never

/-- The instant nearest to `x` seconds; the start of the trial if `x` is not a number. -/
def clampSeconds (x : Float) : Time :=
  if x.isNaN || x ≤ 0.0 then zero else ofSecondsOrNever x

/-! ### To seconds -/

/-- The length in seconds: the whole seconds plus the part of the last one. -/
def toSeconds (a : Time) : Float :=
  (UInt64.ofNat (a.nanos / nanosPerSecond)).toFloat +
    (UInt64.ofNat (a.nanos % nanosPerSecond)).toFloat / 1000000000.0

/-! ### Stretching -/

/-- `a` times `factor`, at most the last instant.  A factor that is not a positive finite
    number leaves nothing. -/
def scale (a : Time) (factor : Float) : Time :=
  if !factor.isFinite || factor ≤ 0.0 then zero else ofSecondsOrNever (a.toSeconds * factor)

/-- `a` divided by `divisor`, at most the last instant.  A divisor that is not a positive
    finite number changes nothing. -/
def divide (a : Time) (divisor : Float) : Time :=
  if !divisor.isFinite || divisor ≤ 0.0 then a else ofSecondsOrNever (a.toSeconds / divisor)

/-! ### Texts -/

/-- Seconds with three places and the unit: `2.308s`. -/
def brief (a : Time) : String := Binary64.fixed 3 a.toSeconds ++ "s"

/-- A count of units of `10 ^ (-places)` without trailing zeros. -/
def trimmed (places units : Nat) : String :=
  let text := (Binary64.withPoint places units).toList.reverse.dropWhile (· = '0')
  match text with
  | '.' :: whole => String.ofList whole.reverse
  | digits => String.ofList digits.reverse

/-- The exact length in the greatest of the units s, ms, µs and ns that is not longer:
    `1.5s`, `500ms`, `999.3µs`, `700ns`. -/
def exact (a : Time) : String :=
  if nanosPerSecond ≤ a.nanos then trimmed 9 a.nanos ++ "s"
  else if 1000000 ≤ a.nanos then trimmed 6 a.nanos ++ "ms"
  else if 1000 ≤ a.nanos then trimmed 3 a.nanos ++ "µs"
  else toString a.nanos ++ "ns"

end Time

end ActionPriority
