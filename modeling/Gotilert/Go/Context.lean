/-
**Deadlines of `context`**, as the forwarder's `withBoundedTimeout` reads and sets them.

## What a context is here

A `context.Context` is read through `Deadline()` alone. Cancellation passes from a
parent to every child, whichever constructor made the child, so two children of one
parent differ only in their deadlines, and a `Context` is its deadline: a reading of
the monotonic clock in nanoseconds, or none.

Times are readings of that clock. `time.Time.Sub` saturates at the bounds of
`time.Duration`, which is where it differs from subtraction; `Add` and `Before` are
addition and `<` on readings far inside the range of `time.Time`.

`context.WithDeadline(parent, d)` keeps the parent's deadline when that one is
already before `d`, and otherwise sets `d` (a `d` already past gives a context that
is done at once, with deadline `d`). `context.WithTimeout(parent, t)` is
`WithDeadline(parent, time.Now().Add(t))`, and its clock reading is an argument.
-/
import Mathlib.Order.MinMax

set_option autoImplicit false

namespace Gotilert.Go

/-- A context, as its `Deadline()`. -/
structure Context where
  deadline : Option Int

/-- `math.MaxInt64`, the largest `time.Duration`. -/
def maxDuration : Int := 9223372036854775807

/-- `math.MinInt64`, the smallest `time.Duration`. -/
def minDuration : Int := -9223372036854775808

/-- `t.Sub(u)`: `t - u`, saturated to the range of `time.Duration`. -/
def timeSub (t u : Int) : Int := max minDuration (min maxDuration (t - u))

/-- `time.Until(t)`, with `now` the clock it reads. -/
def timeUntil (t now : Int) : Int := timeSub t now

/-- `context.WithCancel(parent)`: the parent's deadline. -/
def withCancel (parent : Context) : Context := ⟨parent.deadline⟩

/-- `context.WithDeadline(parent, d)`. -/
def withDeadline (parent : Context) (d : Int) : Context :=
  match parent.deadline with
  | some cur => if cur < d then withCancel parent else ⟨some d⟩
  | none => ⟨some d⟩

/-- `context.WithTimeout(parent, timeout)`, with `now` the clock `time.Now()` reads. -/
def withTimeout (parent : Context) (now timeout : Int) : Context := withDeadline parent (now + timeout)

/-- The deadline `WithDeadline` sets is the earlier of the parent's and `d`. -/
theorem withDeadline_deadline (parent : Context) (d : Int) :
    (withDeadline parent d).deadline = some (match parent.deadline with
      | some cur => min cur d
      | none => d) := by
  unfold withDeadline withCancel
  cases hp : parent.deadline with
  | none => rfl
  | some cur =>
    dsimp only
    split_ifs with h
    · exact congrArg some (min_eq_left h.le).symm
    · exact congrArg some (min_eq_right (not_lt.mp h)).symm

/-- Inside the range of `time.Duration`, `Until` is subtraction. -/
theorem timeUntil_eq_sub {t now : Int} (h : t - now ≤ maxDuration) (h' : minDuration ≤ t - now) :
    timeUntil t now = t - now := by
  unfold timeUntil timeSub
  omega

end Gotilert.Go
