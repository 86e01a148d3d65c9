/-
The **retry loop** of `Client.PostAlerts`, with `computeBackoff` and
`sleepWithContext`.

## The world one call runs in

`PostAlerts` reads three things it does not control: what each exchange comes to,
whether the caller's context is done when an attempt has failed (`ctx.Err()`), and
whether the context fires before the timer during each backoff sleep (the `select`
of `sleepWithContext`, which Go may resolve either way when both are ready). A
`World` gives all three for every attempt, with no constraint between them: the
results below hold for every combination, consistent ones included.

## What is recorded

The model returns the steps the loop took (each attempt with the batch it posted,
and each sleep with its duration) and the `return` statement it left by, so that
"exactly `k` attempts", "this sleep between them" and "the trailing
`return ErrDoRequest` is never reached" are statements about the result.

## The law

`Continues w N i` is what has to hold for the loop to go past attempt `i`.
`postAlertsLoop_continue` and `postAlertsLoop_stop` are the two ways one iteration
can end; `postAlertsLoop_run` strings iterations together up to the first attempt
that does not continue, and `postAlerts_retry_law` reads off the whole call.

## Backoff

`computeBackoff` doubles an `int64` in a loop. `computeBackoff_law` shows that, for
durations below `2^62` ns, no doubling leaves `int64` (`computeBackoffDoublings` lists
the products the loop computes), so the result is `min(initial * 2^(attempt-1), maxBackoff)`
over the integers.
-/
import Gotilert.Alertmanager.Client

set_option autoImplicit false

namespace Gotilert.Alertmanager

open Gotilert.Go

/-! ## Backoff and sleep -/

/-- An `int64` result: `x` wrapped into `[-2^63, 2^63)`. -/
def wrapInt64 (x : Int) : Int := (x + 2 ^ 63) % 2 ^ 64 - 2 ^ 63

/-- The doubling loop of `computeBackoff` with `n` iterations left, then the check
after the loop. -/
def computeBackoffLoop (maxBackoff : Int) : Nat → Int → Int
  | 0, backoff => if backoff > maxBackoff then maxBackoff else backoff
  | n + 1, backoff =>
    let backoff := wrapInt64 (backoff * 2)
    if backoff ≥ maxBackoff then maxBackoff else computeBackoffLoop maxBackoff n backoff

/-- `computeBackoff`: the loop `for i := 1; i < attempt; i++` runs `attempt - 1` times. -/
def computeBackoff (attempt : Int) (initial maxBackoff : Int) : Int :=
  if attempt ≤ 1 then initial else computeBackoffLoop maxBackoff (attempt - 1).toNat initial

/-- The products `backoff * 2` the doubling loop of `computeBackoff` computes, in order,
each before it is stored back into the `int64` `backoff`: the loop of
`computeBackoffLoop` with `n` iterations left, ending where it returns. -/
def backoffDoublings (maxBackoff : Int) : Nat → Int → List Int
  | 0, _ => []
  | n + 1, backoff =>
    backoff * 2 ::
      if wrapInt64 (backoff * 2) ≥ maxBackoff then [] else backoffDoublings maxBackoff n (wrapInt64 (backoff * 2))

/-- The products the doubling loop computes in `computeBackoff(attempt, initial, maxBackoff)`. -/
def computeBackoffDoublings (attempt initial maxBackoff : Int) : List Int :=
  if attempt ≤ 1 then [] else backoffDoublings maxBackoff (attempt - 1).toNat initial

/-- `ctx.Err()` of a context that is done. -/
inductive CtxErr where
  | canceled
  | deadlineExceeded
  deriving DecidableEq, Repr

/-- The sentinel `ctx.Err()` returns. -/
def CtxErr.sentinel : CtxErr → Sentinel
  | .canceled => .canceled
  | .deadlineExceeded => .deadlineExceeded

/-- `sleepWithContext(ctx, d)`: `cut` is the context's error when it fires before the
timer. -/
def sleepWithContext (_d : Int) (cut : Option CtxErr) : Option GoError :=
  cut.map fun ctxErr => .wrap2 (.ofSentinel .errContextDone) (.ofSentinel ctxErr.sentinel)

/-! ## The loop -/

/-- What the loop reads at attempt `i` (from 1): the exchange, `ctx.Err()` after a
failed attempt, and whether the sleep after it is cut short, with the context's error. -/
structure World where
  exchange : Nat → Exchange
  ctxErrAfter : Nat → Option CtxErr
  sleepCut : Nat → Option CtxErr

/-- One step of the loop: an attempt posting a batch, or a backoff sleep. -/
inductive Step where
  | post (attempt : Nat) (alerts : List Alert)
  | sleep (duration : Int)

/-- The `return` statement `PostAlerts` left by. -/
inductive Exit where
  | clientNil
  | delivered
  | contextDone (err : GoError)
  | failed (err : GoError)
  | sleepCut (err : GoError)
  | loopDone

/-- The error an exit returns. -/
def Exit.error : Exit → Option GoError
  | .clientNil => some (.ofSentinel .errClientNil)
  | .delivered => none
  | .contextDone err | .failed err | .sleepCut err => some err
  | .loopDone => some (.ofSentinel .errDoRequest)

/-- The body of `for attempt := 1; attempt <= attempts; attempt++` in `PostAlerts`,
from `attempt` on. -/
def postAlertsLoop (client : Client) (alerts : List Alert) (w : World) (attempts attempt : Nat) :
    List Step × Exit :=
  if attempt ≤ attempts then
    match postAlertsOnce (w.exchange attempt) with
    | none => ([.post attempt alerts], .delivered)
    | some err =>
      match w.ctxErrAfter attempt with
      | some ctxErr =>
        ([.post attempt alerts], .contextDone (.wrap2 (.ofSentinel .errDoRequest) (.ofSentinel ctxErr.sentinel)))
      | none =>
        if !shouldRetry (some err) || attempt == attempts then ([.post attempt alerts], .failed err)
        else
          let backoff := computeBackoff attempt client.retryInitial client.retryMaxBackoff
          match sleepWithContext backoff (w.sleepCut attempt) with
          | some sleepErr =>
            ([.post attempt alerts, .sleep backoff], .sleepCut (.wrap2 (.ofSentinel .errDoRequest) sleepErr))
          | none =>
            let rest := postAlertsLoop client alerts w attempts (attempt + 1)
            (.post attempt alerts :: .sleep backoff :: rest.1, rest.2)
  else ([], .loopDone)
termination_by attempts + 1 - attempt

/-- `max(client.retryMaxAttempts, 1)`. -/
def attemptsOf (client : Client) : Nat := (max client.retryMaxAttempts 1).toNat

/-- `Client.PostAlerts`; `none` is a nil client. -/
def postAlerts (client : Option Client) (alerts : List Alert) (w : World) : List Step × Exit :=
  match client with
  | none => ([], .clientNil)
  | some c => postAlertsLoop c alerts w (attemptsOf c) 1

/-! ## The retry law -/

section RetryLaw

variable (c : Client) (alerts : List Alert) (w : World) (attempts : Nat)

/-- Attempt `i` fails and the loop goes on past it: the context is live after it, its
error is retryable, it is not the last attempt, and the sleep after it runs out. -/
def Continues (i : Nat) : Prop :=
  (postAlertsOnce (w.exchange i)).isSome ∧ w.ctxErrAfter i = none ∧
    shouldRetry (postAlertsOnce (w.exchange i)) = true ∧ i ≠ attempts ∧ w.sleepCut i = none

/-- The sleep after attempt `i` is cut short: the only way it is taken and not finished. -/
def SleepCut (i : Nat) : Prop :=
  (postAlertsOnce (w.exchange i)).isSome ∧ w.ctxErrAfter i = none ∧
    shouldRetry (postAlertsOnce (w.exchange i)) = true ∧ i ≠ attempts ∧ (w.sleepCut i).isSome

/-- The loop stops at attempt `i` because of the caller's context. -/
def StoppedByContext (i : Nat) : Prop :=
  (postAlertsOnce (w.exchange i)).isSome ∧ w.ctxErrAfter i ≠ none ∨ SleepCut w attempts i

/-- The backoff sleep after attempt `i`. -/
def backoffAfter (i : Nat) : Int := computeBackoff i c.retryInitial c.retryMaxBackoff

/-- `n` attempts from `a` on, each followed by its backoff sleep. -/
def rounds (a : Nat) : Nat → List Step
  | 0 => []
  | n + 1 => .post a alerts :: .sleep (backoffAfter c a) :: rounds (a + 1) n

instance (i : Nat) : Decidable (SleepCut w attempts i) := inferInstanceAs (Decidable (_ ∧ _))

/-- The steps after the last attempt: its sleep, when the context cut it short. -/
def trailingSleep (i : Nat) : List Step :=
  if SleepCut w attempts i then [.sleep (backoffAfter c i)] else []

variable {c alerts w attempts}

theorem postAlertsLoop_continue {a : Nat} (ha : a ≤ attempts) (h : Continues w attempts a) :
    postAlertsLoop c alerts w attempts a =
      (.post a alerts :: .sleep (backoffAfter c a) :: (postAlertsLoop c alerts w attempts (a + 1)).1,
        (postAlertsLoop c alerts w attempts (a + 1)).2) := by
  obtain ⟨h1, h2, h3, h4, h5⟩ := h
  obtain ⟨e, he⟩ := Option.isSome_iff_exists.mp h1
  rw [he] at h3
  rw [postAlertsLoop, if_pos ha]
  have h4' : (a == attempts) = false := by simpa using h4
  simp only [he, h2, h3, h5, h4', sleepWithContext, Option.map_none', Bool.not_true, Bool.false_or,
    Bool.false_eq_true, if_false, backoffAfter]

theorem errorsIs_wrap_ctx (ce : CtxErr) (s : Sentinel) :
    errorsIs (.wrap2 (.ofSentinel .errDoRequest) (.ofSentinel ce.sentinel)) s = true ↔ s = .errDoRequest ∨ s = ce.sentinel := by
  cases ce <;> cases s <;> decide

theorem postAlertsLoop_stop {a : Nat} (ha : a ≤ attempts) (h : ¬Continues w attempts a) :
    (postAlertsLoop c alerts w attempts a).1 = .post a alerts :: trailingSleep c w attempts a ∧
    (postAlertsLoop c alerts w attempts a).2 ≠ .loopDone ∧
    ((postAlertsLoop c alerts w attempts a).2.error = none ↔ postAlertsOnce (w.exchange a) = none) ∧
    (StoppedByContext w attempts a → ∃ e ce, (postAlertsLoop c alerts w attempts a).2.error = some e ∧
        (w.ctxErrAfter a = some ce ∨ w.sleepCut a = some ce) ∧
        errorsIs e .errDoRequest ∧ errorsIs e ce.sentinel ∧ ¬errorsIs e .errUpstreamNon2xx) ∧
    (¬StoppedByContext w attempts a →
      (postAlertsLoop c alerts w attempts a).2.error = postAlertsOnce (w.exchange a)) := by
  rw [postAlertsLoop, if_pos ha]
  cases hp : postAlertsOnce (w.exchange a) with
  | none => simp [trailingSleep, SleepCut, StoppedByContext, hp, Exit.error]
  | some e =>
    cases hc : w.ctxErrAfter a with
    | some ce =>
      have htr : ¬SleepCut w attempts a := fun h => by simp [SleepCut, hc] at h
      have hst : StoppedByContext w attempts a := .inl ⟨by simp [hp], by simp [hc]⟩
      simp only [trailingSleep, if_neg htr, hst, not_true_eq_false, false_implies, and_true, true_implies]
      refine ⟨trivial, nofun, by simp [Exit.error], _, ce, rfl, .inl rfl, ?_⟩
      simp only [errorsIs_wrap_ctx, true_or, or_true, true_and]
      cases ce <;> simp [CtxErr.sentinel]
    | none =>
      by_cases hr : (!shouldRetry (some e) || a == attempts) = true
      · have htr : ¬SleepCut w attempts a := fun ⟨_, _, h3, h4, _⟩ => by
          simp only [Bool.or_eq_true, Bool.not_eq_true', beq_iff_eq] at hr; simp_all
        have hst : ¬StoppedByContext w attempts a := by simp [StoppedByContext, hc, htr]
        simp only [if_pos hr, trailingSleep, if_neg htr, hst, false_implies, true_and, not_false_eq_true,
          true_implies]
        exact ⟨nofun, by simp [Exit.error], rfl⟩
      · simp only [Bool.or_eq_true, Bool.not_eq_true', beq_iff_eq, not_or, Bool.not_eq_false] at hr
        cases hs : w.sleepCut a with
        | none => exact absurd ⟨by simp [hp], hc, by simpa [hp] using hr.1, hr.2, hs⟩ h
        | some ce =>
          have htr : SleepCut w attempts a := ⟨by simp [hp], hc, by simpa [hp] using hr.1, hr.2, by simp [hs]⟩
          simp only [hr, Bool.not_true, Bool.false_or, beq_iff_eq, hr.2, decide_False, Bool.false_eq_true,
            if_false, sleepWithContext, hs, Option.map_some', trailingSleep, if_pos htr, backoffAfter,
            Or.inr htr, StoppedByContext, or_true, true_implies, not_true_eq_false, false_implies, and_true]
          refine ⟨trivial, nofun, by simp [Exit.error], _, ce, rfl, .inr rfl, ?_⟩
          cases ce <;> decide

/-- **The loop runs to the first attempt that does not continue.** From any attempt `a`
within the budget, every attempt before the first `k ≥ a` that does not continue is
followed by its backoff sleep, and the loop then ends as it ends at `k`. -/
theorem postAlertsLoop_run (n : Nat) : ∀ a, attempts + 1 - a = n → a ≤ attempts →
    ∃ k, a ≤ k ∧ k ≤ attempts ∧ ¬Continues w attempts k ∧ (∀ i, a ≤ i → i < k → Continues w attempts i) ∧
      postAlertsLoop c alerts w attempts a =
        (rounds c alerts a (k - a) ++ (postAlertsLoop c alerts w attempts k).1,
          (postAlertsLoop c alerts w attempts k).2) := by
  induction n with
  | zero => intro a hn ha; omega
  | succ n ih =>
    intro a hn ha
    by_cases h : Continues w attempts a
    · have ha' : a + 1 ≤ attempts := by have := h.2.2.2.1; omega
      obtain ⟨k, hk1, hk2, hk3, hk4, hk5⟩ := ih (a + 1) (by omega) ha'
      refine ⟨k, by omega, hk2, hk3, fun i hi hik => ?_, ?_⟩
      · rcases Nat.eq_or_lt_of_le hi with rfl | hi
        exacts [h, hk4 i hi hik]
      · rw [postAlertsLoop_continue ha h, hk5, show k - a = k - (a + 1) + 1 by omega, rounds]
        rfl
    · exact ⟨a, le_rfl, ha, h, fun i h1 h2 => absurd h2 (by omega), by simp [rounds]⟩

theorem one_le_attemptsOf (c : Client) : 1 ≤ attemptsOf c := by
  simp only [attemptsOf]; omega

/-- **The retry law of `PostAlerts`.** For every client, batch and world there is one
attempt `k`, within `N = max(retryMaxAttempts, 1)`, that is the first not to continue.
The call posts the batch at attempts `1 … k` and sleeps `computeBackoff(i)` after each
attempt `i < k` (and after `k` only when the context cuts that sleep short); it returns
nil exactly when attempt `k` succeeded; when the context stopped it, its error wraps
`ErrDoRequest` and `ctx.Err()` and not `ErrUpstreamNon2xx`; otherwise it returns
attempt `k`'s error as it was; and it never leaves by the `return ErrDoRequest` after
the loop. -/
theorem postAlerts_retry_law (c : Client) (alerts : List Alert) (w : World) :
    ∃ k, 1 ≤ k ∧ k ≤ attemptsOf c ∧ ¬Continues w (attemptsOf c) k ∧
      (∀ i, 1 ≤ i → i < k → Continues w (attemptsOf c) i) ∧
      (postAlerts (some c) alerts w).1 =
        rounds c alerts 1 (k - 1) ++ .post k alerts :: trailingSleep c w (attemptsOf c) k ∧
      ((postAlerts (some c) alerts w).2.error = none ↔ postAlertsOnce (w.exchange k) = none) ∧
      (StoppedByContext w (attemptsOf c) k → ∃ e ce, (postAlerts (some c) alerts w).2.error = some e ∧
          (w.ctxErrAfter k = some ce ∨ w.sleepCut k = some ce) ∧
          errorsIs e .errDoRequest ∧ errorsIs e ce.sentinel ∧ ¬errorsIs e .errUpstreamNon2xx) ∧
      (¬StoppedByContext w (attemptsOf c) k →
        (postAlerts (some c) alerts w).2.error = postAlertsOnce (w.exchange k)) ∧
      (postAlerts (some c) alerts w).2 ≠ .loopDone := by
  obtain ⟨k, hk1, hk2, hk3, hk4, hk5⟩ :=
    @postAlertsLoop_run c alerts w _ _ 1 rfl (one_le_attemptsOf c)
  obtain ⟨s1, s2, s3, s4, s5⟩ := @postAlertsLoop_stop c alerts w _ _ hk2 hk3
  refine ⟨k, hk1, hk2, hk3, hk4, ?_, ?_⟩ <;> simp only [postAlerts, hk5]
  · rw [s1]
  · exact ⟨s3, s4, s5, s2⟩

theorem post_mem_rounds {a n i : Nat} {as : List Alert} (h : Step.post i as ∈ rounds c alerts a n) :
    as = alerts := by
  induction n generalizing a with
  | zero => cases h
  | succ n ih =>
    simp only [rounds, List.mem_cons] at h
    rcases h with h | h | h
    · cases h; rfl
    · cases h
    · exact ih h

/-- Every attempt of `PostAlerts` posts the batch it was given. -/
theorem post_mem_postAlerts {client : Option Client} {i : Nat} {as : List Alert}
    (h : Step.post i as ∈ (postAlerts client alerts w).1) : as = alerts := by
  cases client with
  | none => cases h
  | some c =>
    obtain ⟨k, -, hk2, hk3, -, hk5⟩ :=
      @postAlertsLoop_run c alerts w _ _ 1 rfl (one_le_attemptsOf c)
    have hs := (@postAlertsLoop_stop c alerts w _ _ hk2 hk3).1
    simp only [postAlerts, hk5, hs, List.mem_append, List.mem_cons] at h
    rcases h with h | h | h
    · exact post_mem_rounds h
    · cases h; rfl
    · unfold trailingSleep at h; split_ifs at h <;> simp at h

/-- With a client, a call's first step posts the batch: attempt 1 always runs. -/
theorem head_postAlerts (c : Client) (alerts : List Alert) (w : World) :
    (postAlerts (some c) alerts w).1.head? = some (.post 1 alerts) := by
  obtain ⟨k, hk1, hk2, hk3, -, hk5⟩ := @postAlertsLoop_run c alerts w _ _ 1 rfl (one_le_attemptsOf c)
  have hs := (@postAlertsLoop_stop c alerts w _ _ hk2 hk3).1
  simp only [postAlerts, hk5, hs]
  rcases Nat.eq_or_lt_of_le hk1 with rfl | hlt
  · rfl
  · rw [show k - 1 = (k - 2) + 1 by omega]
    rfl

theorem rounds_add (a n m : Nat) :
    rounds c alerts a (n + m) = rounds c alerts a n ++ rounds c alerts (a + n) m := by
  induction n generalizing a with
  | zero => simp [rounds]
  | succ n ih =>
    rw [Nat.succ_add, rounds, rounds, ih, show a + 1 + n = a + (n + 1) by omega]
    rfl

/-- **Every call keeps to the full schedule.** For every client, batch and world, the
steps of `PostAlerts` are a non-empty prefix of the whole budget: attempts `1 … N`
with the backoff sleep after each but the last. However the exchanges and the
context turn out, a call never posts more often, sleeps longer or in another order. -/
theorem postAlerts_prefix_schedule (c : Client) (alerts : List Alert) (w : World) :
    (postAlerts (some c) alerts w).1 ≠ [] ∧
      (postAlerts (some c) alerts w).1 <+: rounds c alerts 1 (attemptsOf c - 1) ++ [.post (attemptsOf c) alerts] := by
  obtain ⟨k, hk1, hk2, hk3, -, hk5⟩ := @postAlertsLoop_run c alerts w _ _ 1 rfl (one_le_attemptsOf c)
  have hs := (@postAlertsLoop_stop c alerts w _ _ hk2 hk3).1
  simp only [postAlerts, hk5, hs]
  refine ⟨by simp, ?_⟩
  -- the schedule splits at attempt `k`
  rw [show attemptsOf c - 1 = (k - 1) + (attemptsOf c - k) by omega, rounds_add, List.append_assoc,
    show 1 + (k - 1) = k by omega]
  refine (List.prefix_append_right_inj _).mpr ?_
  unfold trailingSleep
  rcases Nat.eq_or_lt_of_le hk2 with rfl | hlt
  · -- the last attempt: no sleep follows it
    rw [if_neg fun h => h.2.2.2.1 rfl, Nat.sub_self]
    exact List.prefix_refl _
  · obtain ⟨j, hj⟩ : ∃ j, attemptsOf c - k = j + 1 := ⟨_, (Nat.succ_pred_eq_of_pos (by omega)).symm⟩
    rw [hj, rounds, List.cons_append, List.cons_append, List.prefix_cons_inj]
    split_ifs
    · exact (List.prefix_cons_inj _).mpr List.nil_prefix
    · exact List.nil_prefix

end RetryLaw

/-! ## The backoff law

Below `2^62` a doubling cannot leave `int64`: the loop starts from `initial < 2^62`, and
it doubles again only while the backoff is below `maxBackoff ≤ 2^62`. So the loop
computes `initial * 2^(attempt - 1)` over the integers, cut at `maxBackoff`. -/

section Backoff

variable {maxBackoff : Int}

theorem wrapInt64_of_lt {x : Int} (h : -2 ^ 63 ≤ x ∧ x < 2 ^ 63) : wrapInt64 x = x := by
  unfold wrapInt64
  omega

/-- The doubling loop from a backoff below `2^62`: `backoff * 2^n` cut at `maxBackoff`. -/
theorem computeBackoffLoop_eq_min (hm : 0 < maxBackoff ∧ maxBackoff ≤ 2 ^ 62) :
    ∀ (n : Nat) (backoff : Int), 0 < backoff → backoff < 2 ^ 62 →
      computeBackoffLoop maxBackoff n backoff = min (backoff * 2 ^ n) maxBackoff
  | 0, backoff, _, _ => by
    rw [computeBackoffLoop, pow_zero, mul_one, min_def]
    split_ifs <;> omega
  | n + 1, backoff, h0, h1 => by
    have hw : wrapInt64 (backoff * 2) = backoff * 2 := wrapInt64_of_lt (by omega)
    have hle : backoff * 2 ≤ backoff * 2 ^ (n + 1) :=
      mul_le_mul_of_nonneg_left (le_self_pow₀ (by norm_num) n.succ_ne_zero) h0.le
    rw [computeBackoffLoop, hw]
    split_ifs with hge
    · exact (min_eq_right (hge.trans hle)).symm
    · rw [computeBackoffLoop_eq_min hm n (backoff * 2) (by omega) (by omega), pow_succ', mul_assoc,
        mul_comm (2 : Int)]

/-- Every product the doubling loop computes from a backoff below `2^62` fits in `int64`. -/
theorem backoffDoublings_lt (hm : 0 < maxBackoff ∧ maxBackoff ≤ 2 ^ 62) :
    ∀ (n : Nat) (backoff : Int), 0 < backoff → backoff < 2 ^ 62 →
      ∀ x ∈ backoffDoublings maxBackoff n backoff, 0 < x ∧ x < 2 ^ 63
  | 0, _, _, _ => by simp [backoffDoublings]
  | n + 1, backoff, h0, h1 => by
    have hw : wrapInt64 (backoff * 2) = backoff * 2 := wrapInt64_of_lt (by omega)
    simp only [backoffDoublings, hw, List.mem_cons]
    rintro x (rfl | hx)
    · omega
    · split_ifs at hx with hge
      · cases hx
      · exact backoffDoublings_lt hm n (backoff * 2) (by omega) (by omega) x hx

theorem length_backoffDoublings_le : ∀ (n : Nat) (backoff : Int),
    (backoffDoublings maxBackoff n backoff).length ≤ n
  | 0, _ => le_rfl
  | n + 1, backoff => by
    simp only [backoffDoublings, List.length_cons]
    split_ifs
    · simp
    · exact Nat.succ_le_succ (length_backoffDoublings_le n _)

end Backoff

/-- **The backoff law.** For every attempt (an attempt below 1 counts as the first) and every `initial` in `(0, 2^62)` and
`maxBackoff` in `(0, 2^62]`: the first attempt waits `initial`, and a later one
`min(initial * 2^(attempt-1), maxBackoff)` over the integers; every doubling the loop
computes fits in `int64`, and there are at most `attempt - 1` of them; so from attempt 2
on the backoff never decreases and never exceeds `maxBackoff`. -/
theorem computeBackoff_law (attempt initial maxBackoff : Int)
    (hi : 0 < initial ∧ initial < 2 ^ 62) (hm : 0 < maxBackoff ∧ maxBackoff ≤ 2 ^ 62) :
    (attempt = 1 → computeBackoff attempt initial maxBackoff = initial) ∧
    (2 ≤ attempt →
      computeBackoff attempt initial maxBackoff = min (initial * 2 ^ (attempt - 1).toNat) maxBackoff) ∧
    (∀ x ∈ computeBackoffDoublings attempt initial maxBackoff, -2 ^ 63 ≤ x ∧ x < 2 ^ 63) ∧
    (computeBackoffDoublings attempt initial maxBackoff).length ≤ (attempt - 1).toNat ∧
    (∀ later, 2 ≤ attempt → attempt ≤ later →
      computeBackoff attempt initial maxBackoff ≤ computeBackoff later initial maxBackoff) ∧
    (2 ≤ attempt → computeBackoff attempt initial maxBackoff ≤ maxBackoff) := by
  have hmin (a : Int) (h2 : 2 ≤ a) :
      computeBackoff a initial maxBackoff = min (initial * 2 ^ (a - 1).toNat) maxBackoff := by
    rw [computeBackoff, if_neg (by omega), computeBackoffLoop_eq_min hm _ _ hi.1 hi.2]
  refine ⟨fun h1 => by rw [computeBackoff, if_pos h1.le], hmin attempt, fun x hx => ?_, ?_,
    fun later h2 hl => ?_, fun h2 => hmin attempt h2 ▸ min_le_right _ _⟩
  · unfold computeBackoffDoublings at hx
    split_ifs at hx
    · cases hx
    · have := backoffDoublings_lt hm _ _ hi.1 hi.2 x hx
      omega
  · unfold computeBackoffDoublings
    split_ifs
    · exact Nat.zero_le _
    · exact length_backoffDoublings_le _ _
  · rw [hmin attempt h2, hmin later (h2.trans hl)]
    exact min_le_min_right _ (mul_le_mul_of_nonneg_left
      (pow_le_pow_right₀ (by norm_num) (by omega)) hi.1.le)

/-- The client's defaults, 200 ms and 1 s in nanoseconds: the third attempt waits 800 ms. -/
theorem defaultBackoff_third_attempt :
    computeBackoff 3 200000000 1000000000 = 800000000 ∧
      computeBackoff 3 200000000 1000000000 = min (200000000 * 2 ^ (3 - 1 : Int).toNat) 1000000000 :=
  ⟨by decide, (computeBackoff_law 3 200000000 1000000000 (by norm_num) (by norm_num)).2.1
    (by norm_num)⟩

end Gotilert.Alertmanager
