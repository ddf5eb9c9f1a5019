import UbuntuPush.Basic

/-!
# The redialer: `Timeouts`, `Jitter` and `AutoRetry`

`util/redialer.go` as code. Its theorems are in `UbuntuPush.Util.Backoff`.

* `timeouts` — the backoff schedule `init()` installs: 1, 2, 5, 11, 19, 37, 67, 113, 191 s.
* `jitter rnd spread` — `Jitter`. The random source is a `Rand`: any function that answers a
  positive bound `n` within `[0, n)`, which is all `math/rand`'s `Int63n` promises.
* `AutoRetry.stepWith` — one pass of `AutoRetry`'s `for` loop, given what `f` answers, what
  `jitter` returns or whether it panics, and whether the `select` takes `quitRedialing`, each
  indexed by the pass; `AutoRetry.runWith n` is the loop's state after `n` passes.
* `AutoRetry.step`, `AutoRetry.run` — the same for a `RetryWorld`, whose `jitter` function
  returns: every behaviour of `f`, of such a jitter and of the quit channel is one world.
* `autoRedial` — `AutoRedial` for a dialer whose `Jitter` is the package's `Jitter`, a panic of
  `Jitter` included.

Go panics are `GoError.panic` results. The loop keeps two records the Go code does not: the
number of calls of `f` and the list of timers it started. They are what the theorems observe.
-/

namespace UbuntuPush.Util

/-! ## `Jitter` -/

/-- The random source behind `rand.Int63n`: for a positive bound `n` it draws a value in
`[0, n)`. Every such function is a possible source, so a statement over all `Rand`s is a
statement over every value `Int63n` may return.
Source: `math/rand.Int63n` (not under `src/`), called from `util/redialer.go` Jitter
Kind: D
Fidelity: exact (the draw left open) -/
structure Rand where
  /-- The value drawn for the bound `n`. -/
  draw : Int64 → Int64
  /-- A draw for a positive bound lies in `[0, n)`. -/
  draw_range : ∀ n : Int64, 0 < n.toInt → 0 ≤ (draw n).toInt ∧ (draw n).toInt < n.toInt

/-- The source that always draws 0, the least value a draw may take.
Kind: D -/
def Rand.zero : Rand := ⟨fun _ => 0, fun _ hn => ⟨by simp, by simpa using hn⟩⟩

/-- `rand.Int63n(n)`: a draw in `[0, n)`, and a panic for `n ≤ 0`.
Source: `math/rand.Int63n` (not under `src/`)
Kind: D
Fidelity: exact -/
def Rand.int63n (rnd : Rand) (n : Int64) : Except GoError Int64 :=
  if n.toInt ≤ 0 then .error (.panic "invalid argument to Int63n") else .ok (rnd.draw n)

/-- `Jitter(spread)`: a random duration meant to lie in `[-spread, spread]`.
Source: `util/redialer.go` Jitter
Kind: D
Fidelity: exact -/
def jitter (rnd : Rand) (spread : Duration) : Except GoError Duration :=
  if spread < 0 then .error (.panic "spread must be non-negative")
  else do
    let n : Int64 := spread
    let r ← rnd.int63n (2 * n + 1)
    pure (r - n)

/-! ## The schedule -/

/-- The base delays `init()` lists, in seconds (`3 pₙ₊₁ ≥ 5 pₙ`, says its comment).
Source: `util/redialer.go` init (`ps`)
Kind: D
Fidelity: exact -/
def timeoutSeconds : List Int := [1, 2, 5, 11, 19, 37, 67, 113, 191]

/-- `Timeouts` as `init()` sets it: `time.Duration(n) * time.Second` for each `n` of `ps`.
Source: `util/redialer.go` init
Kind: D
Fidelity: exact -/
def timeouts : Array Duration :=
  (timeoutSeconds.map fun n => Int64.ofInt n * Duration.second).toArray

/-! ## `AutoRetry` -/

/-- What the outside world answers on pass `k` of `AutoRetry`'s loop (passes counted from 0):
whether the `k`-th call of `f` returns an error, what the `k`-th call of `jitter` returns for
its argument, and whether the `k`-th `select` receives from `quitRedialing` rather than from
its timer (when both are ready Go picks either, so this is the world's choice too). Its
`jitter` returns; one that may panic is given to `AutoRetry.stepWith` directly.
Source: `util/redialer.go` AutoRetry (its arguments `f`, `jitter`; the channel `quitRedialing`)
Kind: D
Fidelity: exact -/
structure RetryWorld where
  /-- `f()` returns an error on pass `k`. -/
  fFails : Nat → Bool
  /-- `jitter(timeout)` on pass `k`. -/
  jitter : Nat → Duration → Duration
  /-- The `select` of pass `k` takes `quitRedialing`. -/
  quit : Nat → Bool

/-- Pass `k` ends the loop: `f` succeeds, or it fails and the wait is cancelled.
Kind: D -/
def RetryWorld.stopsAt (w : RetryWorld) (k : Nat) : Prop := w.fFails k = false ∨ w.quit k = true

instance (w : RetryWorld) (k : Nat) : Decidable (w.stopsAt k) :=
  inferInstanceAs (Decidable (_ ∨ _))

/-- Where `AutoRetry` is: still in its loop, returned with a count, or panicked.
Source: `util/redialer.go` AutoRetry
Kind: D
Fidelity: exact -/
inductive RetryStatus
  | looping
  | returned (attempts : UInt32)
  | panicked (err : GoError)
  deriving DecidableEq, Repr

/-- `AutoRetry`'s loop variable `dialAttempts`, its status, and two records the theorems read:
`calls`, the number of calls of `f` so far, and `waits`, every timer started, in order.
Source: `util/redialer.go` AutoRetry
Kind: D
Fidelity: exact (plus the two records) -/
structure RetryState where
  /-- `dialAttempts`, the `uint32` failure counter. -/
  dialAttempts : UInt32
  /-- How many times `f` has been called. -/
  calls : Nat
  /-- The timeouts of the timers started so far. -/
  waits : List Duration
  /-- Running, returned or panicked. -/
  status : RetryStatus

/-- `numTimeouts := uint32(len(Timeouts))`; the conversion wraps.
Source: `util/redialer.go` AutoRetry
Kind: D
Fidelity: exact -/
def numTimeouts (timeouts : Array Duration) : UInt32 := UInt32.ofNat timeouts.size

/-- The index the loop reads `Timeouts` at: `dialAttempts` while it is below `numTimeouts`,
then `numTimeouts-1` (in `uint32`).
Source: `util/redialer.go` AutoRetry
Kind: D
Fidelity: exact -/
def timeoutIndex (numTimeouts dialAttempts : UInt32) : UInt32 :=
  if dialAttempts < numTimeouts then dialAttempts else numTimeouts - 1

namespace AutoRetry

/-- The variables before the loop: no attempts, no calls, no timers.
Source: `util/redialer.go` AutoRetry, lines 55-57
Kind: D -/
def init : RetryState := ⟨0, 0, [], .looping⟩

/-- One pass of the `for` loop: call `f`; return `dialAttempts + 1` on success; otherwise pick
the timeout, add its jitter, count the failure and wait, returning `dialAttempts` if the wait
is cancelled. An index outside `Timeouts` panics as Go does, and so does a `jitter` call that
panics. `fFails`, `jitter` and `quit` answer pass `k` (counted from 0) by `k`.
Source: `util/redialer.go` AutoRetry, lines 54-75
Kind: D
Fidelity: exact -/
def stepWith (timeouts : Array Duration) (fFails : Nat → Bool)
    (jitter : Nat → Duration → Except GoError Duration) (quit : Nat → Bool) (s : RetryState) :
    RetryState :=
  match s.status with
  | .looping =>
    match fFails s.calls with
    | false => { s with calls := s.calls + 1, status := .returned (s.dialAttempts + 1) }
    | true =>
      match timeouts[(timeoutIndex (numTimeouts timeouts) s.dialAttempts).toNat]? with
      | none =>
        { s with calls := s.calls + 1, status := .panicked (.panic "index out of range") }
      | some base =>
        match jitter s.calls base with
        | .error err => { s with calls := s.calls + 1, status := .panicked err }
        | .ok j =>
          let timeout := base + j
          { dialAttempts := s.dialAttempts + 1
            calls := s.calls + 1
            waits := s.waits ++ [timeout]
            status := if quit s.calls then .returned (s.dialAttempts + 1) else .looping }
  | _ => s

/-- The loop after `n` passes.
Source: `util/redialer.go` AutoRetry
Kind: D
Fidelity: exact -/
def runWith (timeouts : Array Duration) (fFails : Nat → Bool)
    (jitter : Nat → Duration → Except GoError Duration) (quit : Nat → Bool) : Nat → RetryState
  | 0 => init
  | n + 1 => stepWith timeouts fFails jitter quit (runWith timeouts fFails jitter quit n)

/-- One pass in a world whose `jitter` returns.
Source: `util/redialer.go` AutoRetry, lines 54-75
Kind: D
Fidelity: exact -/
def step (timeouts : Array Duration) (w : RetryWorld) : RetryState → RetryState :=
  stepWith timeouts w.fFails (fun k d => .ok (w.jitter k d)) w.quit

/-- The loop after `n` passes in a world whose `jitter` returns.
Source: `util/redialer.go` AutoRetry
Kind: D
Fidelity: exact -/
def run (timeouts : Array Duration) (w : RetryWorld) : Nat → RetryState :=
  runWith timeouts w.fFails (fun k d => .ok (w.jitter k d)) w.quit

/-- The loop before its first pass.
Source: none: infrastructure
Kind: L -/
@[simp] theorem run_zero (timeouts : Array Duration) (w : RetryWorld) :
    run timeouts w 0 = init := rfl

/-- The loop after one more pass.
Source: none: infrastructure
Kind: L -/
@[simp] theorem run_succ (timeouts : Array Duration) (w : RetryWorld) (n : Nat) :
    run timeouts w (n + 1) = step timeouts w (run timeouts w n) := rfl

end AutoRetry

/-! ## `AutoRedial` -/

/-- A `Dialer` whose `Jitter` method is the package's `Jitter`, the default its doc comment
offers Dialers: the outcome of each `Dial` call, the random source of each `Jitter` call, and
whether each `select` takes `quitRedialing`.
Source: `util/redialer.go` Dialer, lines 24-31; Jitter, lines 41-50
Kind: D
Fidelity: exact for `Jitter`; `Dial` left open -/
structure JitterDialer where
  /-- `dialer.Dial()` returns an error on pass `k`. -/
  dialFails : Nat → Bool
  /-- The random source `Jitter` draws from on pass `k`. -/
  rnd : Nat → Rand
  /-- The `select` of pass `k` takes `quitRedialing`. -/
  quit : Nat → Bool

/-- `AutoRedial(dialer)`: `AutoRetry(dialer.Dial, dialer.Jitter)` over the `Timeouts` of
`init()`, after `n` passes of its loop; a panic of `Jitter` ends it as a panic.
Source: `util/redialer.go` AutoRedial, lines 77-82
Kind: D
Fidelity: exact -/
def autoRedial (d : JitterDialer) (n : Nat) : RetryState :=
  AutoRetry.runWith timeouts d.dialFails (fun k => jitter (d.rnd k)) d.quit n

end UbuntuPush.Util
