import UbuntuPush.Util.Redialer

/-!
# The redialer's laws

* **`Jitter`** (`jitter_spec`): a negative spread panics with the source's message; for
  `0 ≤ spread < 2^62` every draw gives a value in `[-spread, spread]`; from `2^62` on, the bound
  `2*n+1` wraps negative in `int64` and `Int63n` panics (`jitter_panics_of_ge`; at the smallest
  such spread, `jitter_overflows_at_two_pow_62`).
* **One pass.** `step_of_not_looping`, `step_of_success` and `step_of_failure` say what a pass
  does. `RetryInv` — the `k`-th timer is `retryWait k` and follows a failed call that was not
  cancelled unless it is the last, the counter counts failures modulo `2^32`, a returned count
  is the number of calls modulo `2^32`, nothing panicked — holds before the loop and is kept by
  every pass over a non-empty schedule (`retryInv_step`), hence after any number of passes
  (`retryInv_run`).
* **The schedule** (`autoRetry_timeout_schedule`): every failed call of `f` starts a timer
  (`lt_length_waits_of_failure`), and the timer after the `(k+1)`-th failed call waits
  `Timeouts[i]` plus its jitter, with `i = timeoutIndex N (k mod 2^32)` always inside the slice,
  and `i = min (k mod 2^32) (N-1)` when `N < 2^32`. After `2^32` failures the counter has
  wrapped and the schedule is back at its head (`autoRetry_schedule_restarts_after_wrap`).
* **The count** (`autoRetry_returns_call_count`): `f` is called until the first pass that ends
  the loop, and `AutoRetry` then returns the number of calls modulo `2^32`.
-/

namespace UbuntuPush.Util

/-! ## `Jitter` -/

section jitter

variable (rnd : Rand) {spread : Duration}

/-- Below `2^62` the bound `2*n+1` handed to `Int63n` does not overflow.
Source: `util/redialer.go` Jitter, line 49
Kind: L -/
theorem toInt_two_mul_add_one (h₀ : 0 ≤ spread.toInt) (h : spread.toInt < 2^62) :
    (2 * spread + 1).toInt = 2 * spread.toInt + 1 := by
  simp only [Int64.toInt_add, Int64.toInt_mul, Int64.toInt_ofNat_of_lt 2 (by decide),
    Int64.toInt_ofNat_of_lt 1 (by decide)]
  unfold Int64.wrap; omega

/-- From `2^62` on, `2*n+1` wraps to a non-positive `int64`.
Source: `util/redialer.go` Jitter, line 49
Kind: L -/
theorem toInt_two_mul_add_one_nonpos (h : 2^62 ≤ spread.toInt) :
    (2 * spread + 1).toInt ≤ 0 := by
  have := spread.range
  simp only [Int64.toInt_add, Int64.toInt_mul, Int64.toInt_ofNat_of_lt 2 (by decide),
    Int64.toInt_ofNat_of_lt 1 (by decide)]
  unfold Int64.wrap; omega

/-- A negative spread panics.
Source: `util/redialer.go` Jitter, lines 45-47
Kind: L -/
theorem jitter_of_neg (h : spread.toInt < 0) :
    jitter rnd spread = .error (.panic "spread must be non-negative") := by
  simp [jitter, Int64.lt_iff, h]

/-- Below `2^62` a spread jitters by the draw for `2*n+1`, less `n`.
Source: `util/redialer.go` Jitter, lines 48-49
Kind: L -/
theorem jitter_of_lt (h₀ : 0 ≤ spread.toInt) (h : spread.toInt < 2^62) :
    jitter rnd spread = .ok (rnd.draw (2 * spread + 1) - spread) := by
  have hb := toInt_two_mul_add_one h₀ h
  simp only [jitter, Int64.lt_iff, Int64.toInt_ofNat_of_lt 0 (by decide), Rand.int63n, hb]
  rw [if_neg (by omega), if_neg (by omega)]
  rfl

/-- A spread in `[0, 2^62)` jitters within `[-spread, spread]`, whatever the draw.
Source: `util/redialer.go` Jitter, lines 41-50
Kind: L -/
theorem jitter_mem_range (h₀ : 0 ≤ spread.toInt) (h : spread.toInt < 2^62) :
    ∃ d, jitter rnd spread = .ok d ∧ -spread.toInt ≤ d.toInt ∧ d.toInt ≤ spread.toInt := by
  refine ⟨_, jitter_of_lt rnd h₀ h, ?_⟩
  have hd := rnd.draw_range (2 * spread + 1) (by rw [toInt_two_mul_add_one h₀ h]; omega)
  rw [toInt_two_mul_add_one h₀ h] at hd
  have := spread.range
  simp only [Int64.toInt_sub]
  unfold Int64.wrap; omega

/-- From `2^62` on, `Int63n` receives a non-positive bound and panics.
Source: `util/redialer.go` Jitter, line 49
Kind: L -/
theorem jitter_panics_of_ge (h : 2^62 ≤ spread.toInt) :
    jitter rnd spread = .error (.panic "invalid argument to Int63n") := by
  have hb := toInt_two_mul_add_one_nonpos h
  simp only [jitter, Int64.lt_iff, Int64.toInt_ofNat_of_lt 0 (by decide), Rand.int63n, hb]
  rw [if_neg (by omega), if_pos trivial]
  rfl

end jitter

/-- **`Jitter`, completely.** For every random source: a negative spread panics with "spread must
be non-negative"; a spread in `[0, 2^62)` returns a duration in `[-spread, spread]`; a spread in
`[2^62, 2^63)` panics inside `Int63n`, because `2*n+1` overflows `int64`.
Source: `util/redialer.go` Jitter, lines 41-50
Kind: P
Fidelity: exact
Hyps: none -/
theorem jitter_spec (rnd : Rand) (spread : Duration) :
    (spread.toInt < 0 → jitter rnd spread = .error (.panic "spread must be non-negative")) ∧
    (0 ≤ spread.toInt → spread.toInt < 2^62 →
      ∃ d, jitter rnd spread = .ok d ∧ -spread.toInt ≤ d.toInt ∧ d.toInt ≤ spread.toInt) ∧
    (2^62 ≤ spread.toInt → jitter rnd spread = .error (.panic "invalid argument to Int63n")) :=
  ⟨jitter_of_neg rnd, jitter_mem_range rnd, jitter_panics_of_ge rnd⟩

/-- `jitter_spec` at the zero draw, for a spread of one second.
Kind: L -/
theorem jitter_spec_zero_draw :
    ∃ d, jitter Rand.zero Duration.second = .ok d ∧
      -Duration.second.toInt ≤ d.toInt ∧ d.toInt ≤ Duration.second.toInt :=
  (jitter_spec Rand.zero Duration.second).2.1 (by decide) (by decide)

/-- **`Jitter(2^62 ns)` panics.** `2*n+1 = 2^63+1` wraps to `-2^63+1`, and `Int63n` rejects it.
Source: `util/redialer.go` Jitter, line 49
Kind: P
Fidelity: exact
Hyps: none -/
theorem jitter_overflows_at_two_pow_62 (rnd : Rand) :
    jitter rnd (Int64.ofInt (2^62)) = .error (.panic "invalid argument to Int63n") :=
  jitter_panics_of_ge rnd (by decide)

/-! ## The index into the schedule -/

/-- The index the loop reads is inside a non-empty schedule, whatever the counter.
Source: `util/redialer.go` AutoRetry, lines 63-67
Kind: L -/
theorem timeoutIndex_lt {timeouts : Array Duration} (hN : 0 < timeouts.size) (d : UInt32) :
    (timeoutIndex (numTimeouts timeouts) d).toNat < timeouts.size := by
  have hn := UInt32.toNat_ofNat' timeouts.size
  unfold timeoutIndex numTimeouts
  split
  · rename_i h
    rw [UInt32.lt_iff_toNat, hn] at h
    omega
  · rw [UInt32.toNat_sub_one, hn]
    omega

/-- For a schedule shorter than `2^32` the index is `min (k mod 2^32) (N-1)`.
Source: `util/redialer.go` AutoRetry, lines 63-67
Kind: L -/
theorem timeoutIndex_eq_min {N : Nat} (h₀ : 0 < N) (h : N < 2^32) (k : Nat) :
    (timeoutIndex (UInt32.ofNat N) (UInt32.ofNat k)).toNat = min (k % 2^32) (N - 1) := by
  have hN := UInt32.toNat_ofNat' N
  have hk := UInt32.toNat_ofNat' k
  unfold timeoutIndex
  split <;> rename_i hlt <;> rw [UInt32.lt_iff_toNat, hN, hk] at hlt
  · rw [hk]; omega
  · rw [UInt32.toNat_sub_one, hN]; omega

/-- The timer `AutoRetry` starts on pass `k` when `f` fails there: the entry of `Timeouts` the
counter `k mod 2^32` selects, plus that pass's jitter of it.
Source: `util/redialer.go` AutoRetry, lines 62-67
Kind: D
Fidelity: exact -/
def retryWait (timeouts : Array Duration) (w : RetryWorld) (k : Nat) : Duration :=
  let base := timeouts.getD (timeoutIndex (numTimeouts timeouts) (UInt32.ofNat k)).toNat 0
  base + w.jitter k base

/-! ## One pass -/

namespace AutoRetry

variable {timeouts : Array Duration} {w : RetryWorld} {s : RetryState}

/-- A loop that has returned or panicked stays as it is.
Source: `util/redialer.go` AutoRetry
Kind: L -/
theorem step_of_not_looping (h : s.status ≠ .looping) : step timeouts w s = s := by
  unfold step stepWith; split <;> simp_all

/-- A pass whose call of `f` succeeds returns `dialAttempts + 1`.
Source: `util/redialer.go` AutoRetry, lines 59-61
Kind: L -/
theorem step_of_success (h : s.status = .looping) (hf : w.fFails s.calls = false) :
    step timeouts w s =
      { s with calls := s.calls + 1, status := .returned (s.dialAttempts + 1) } := by
  simp [step, stepWith, h, hf]

/-- A pass whose call of `f` fails starts the timer its counter selects, counts the failure,
and returns if the `select` takes `quitRedialing`.
Source: `util/redialer.go` AutoRetry, lines 62-74
Kind: L -/
theorem step_of_failure (hN : 0 < timeouts.size) (h : s.status = .looping)
    (hf : w.fFails s.calls = true) :
    step timeouts w s =
      let base := timeouts.getD (timeoutIndex (numTimeouts timeouts) s.dialAttempts).toNat 0
      { dialAttempts := s.dialAttempts + 1
        calls := s.calls + 1
        waits := s.waits ++ [base + w.jitter s.calls base]
        status := if w.quit s.calls then .returned (s.dialAttempts + 1) else .looping } := by
  have hi := timeoutIndex_lt hN s.dialAttempts
  simp [step, stepWith, h, hf, Array.getElem?_eq_getElem hi]

/-- A pass never removes a timer.
Source: `util/redialer.go` AutoRetry
Kind: L -/
theorem length_waits_le_step (s : RetryState) :
    s.waits.length ≤ (step timeouts w s).waits.length := by
  unfold step stepWith
  repeat' split
  all_goals simp

end AutoRetry

/-! ## The loop invariant -/

/-- What holds of the loop after every pass over a non-empty schedule: the `k`-th timer is
`retryWait k` and follows a failed call; a timer followed by another was not cancelled; while
looping, every call so far failed, started a timer and was not cancelled, and `dialAttempts`
counts them modulo `2^32`; a returned count is the number of calls modulo `2^32`; nothing
panicked.
Kind: D -/
structure RetryInv (timeouts : Array Duration) (w : RetryWorld) (s : RetryState) : Prop where
  waits_eq : s.waits = (List.range s.waits.length).map (retryWait timeouts w)
  failed : ∀ k < s.waits.length, w.fFails k = true
  continued : ∀ k, k + 1 < s.waits.length → w.quit k = false
  looping : s.status = .looping →
    s.calls = s.waits.length ∧ s.dialAttempts.toNat = s.calls % 2^32 ∧
      ∀ k < s.waits.length, w.quit k = false
  returned : ∀ r, s.status = .returned r → r.toNat = s.calls % 2^32
  not_panicked : ∀ e, s.status ≠ .panicked e

/-- The `k`-th timer, read off the invariant.
Source: none: infrastructure
Kind: L -/
theorem RetryInv.getElem_waits {timeouts : Array Duration} {w : RetryWorld} {s : RetryState}
    (hs : RetryInv timeouts w s) (k : Nat)
    (hk : k < s.waits.length) : s.waits[k] = retryWait timeouts w k := by
  have := congrArg (·[k]?) hs.waits_eq
  simp only [List.getElem?_eq_getElem hk, List.getElem?_map, List.getElem?_range hk,
    Option.map_some'] at this
  exact Option.some.inj this

namespace AutoRetry

variable {timeouts : Array Duration} {w : RetryWorld} {s : RetryState}

/-- The invariant holds before the loop.
Source: `util/redialer.go` AutoRetry, lines 55-57
Kind: L -/
theorem retryInv_init : RetryInv timeouts w init :=
  ⟨rfl, by simp [init], by simp [init], by simp [init], by simp [init], by simp [init]⟩

/-- Every pass over a non-empty schedule keeps the invariant.
Source: `util/redialer.go` AutoRetry, lines 58-74
Kind: L -/
theorem retryInv_step (hN : 0 < timeouts.size) (hs : RetryInv timeouts w s) :
    RetryInv timeouts w (step timeouts w s) := by
  by_cases hl : s.status = .looping
  · obtain ⟨hc, hd, hq⟩ := hs.looping hl
    cases hf : w.fFails s.calls
    · rw [step_of_success hl hf]
      exact ⟨hs.waits_eq, hs.failed, hs.continued, by simp, by simp [UInt32.toNat_add_one, hd],
        by simp⟩
    · have hk : UInt32.ofNat s.waits.length = s.dialAttempts :=
        UInt32.toNat.inj (by rw [UInt32.toNat_ofNat', hd, hc])
      have hwait : retryWait timeouts w s.waits.length =
          timeouts.getD (timeoutIndex (numTimeouts timeouts) s.dialAttempts).toNat 0 +
            w.jitter s.calls
              (timeouts.getD (timeoutIndex (numTimeouts timeouts) s.dialAttempts).toNat 0) := by
        rw [retryWait, hk, hc]
      rw [step_of_failure hN hl hf]
      refine ⟨?_, ?_, ?_, ?_, ?_, ?_⟩
      · simp only [List.length_append, List.length_singleton, List.range_succ, List.map_append,
          List.map_singleton, ← hs.waits_eq, hwait]
      · intro k hk'
        simp only [List.length_append, List.length_singleton] at hk'
        rcases Nat.lt_succ_iff_lt_or_eq.mp hk' with hk' | rfl
        · exact hs.failed k hk'
        · rwa [← hc]
      · intro k hk'
        simp only [List.length_append, List.length_singleton] at hk'
        exact hq k (by omega)
      · intro hl'
        split at hl'
        · cases hl'
        · refine ⟨by simp [hc], by simp [UInt32.toNat_add_one, hd, hc], fun k hk' => ?_⟩
          simp only [List.length_append, List.length_singleton] at hk'
          rcases Nat.lt_succ_iff_lt_or_eq.mp hk' with hk' | rfl
          · exact hq k hk'
          · rw [← hc]; simpa using ‹¬w.quit s.calls = true›
      · intro r hr
        split at hr
        · cases hr; simp [UInt32.toNat_add_one, hd]
        · cases hr
      · intro e; split <;> simp
  · rw [step_of_not_looping hl]; exact hs

/-- The invariant holds after any number of passes.
Source: `util/redialer.go` AutoRetry
Kind: L -/
theorem retryInv_run (hN : 0 < timeouts.size) (w : RetryWorld) :
    ∀ n, RetryInv timeouts w (run timeouts w n)
  | 0 => retryInv_init
  | n + 1 => retryInv_step hN (retryInv_run hN w n)

/-- Until a pass ends the loop, it keeps looping, one call per pass.
Source: `util/redialer.go` AutoRetry, lines 58-74
Kind: L -/
theorem run_of_no_stop (hN : 0 < timeouts.size) :
    ∀ n, (∀ k < n, ¬ w.stopsAt k) → (run timeouts w n).status = .looping ∧ (run timeouts w n).calls = n
  | 0, _ => ⟨rfl, rfl⟩
  | n + 1, h => by
    obtain ⟨hl, hc⟩ := run_of_no_stop hN n fun k hk => h k (by omega)
    have hn : w.fFails n = true ∧ w.quit n = false := by
      simpa [RetryWorld.stopsAt] using h n (by omega)
    rw [run_succ, step_of_failure hN hl (by rw [hc]; exact hn.1)]
    simp [hc, hn.2]

/-- Once the loop has returned, further passes change nothing.
Source: `util/redialer.go` AutoRetry
Kind: L -/
theorem run_add_of_not_looping {n : Nat} (h : (run timeouts w n).status ≠ .looping) :
    ∀ d, run timeouts w (n + d) = run timeouts w n
  | 0 => rfl
  | d + 1 => by rw [← Nat.add_assoc, run_succ, run_add_of_not_looping h d, step_of_not_looping h]

/-- Once the loop has returned, it is what it was when it returned.
Source: `util/redialer.go` AutoRetry
Kind: L -/
theorem run_stable {n : Nat} (h : (run timeouts w n).status ≠ .looping) (m : Nat)
    (hm : n ≤ m) : run timeouts w m = run timeouts w n := by
  rw [← Nat.add_sub_cancel' hm, run_add_of_not_looping h]

/-- Timers started stay started.
Source: `util/redialer.go` AutoRetry
Kind: L -/
theorem length_waits_mono {m n : Nat} (h : m ≤ n) :
    (run timeouts w m).waits.length ≤ (run timeouts w n).waits.length := by
  induction h with
  | refl => exact le_rfl
  | step _ ih => exact ih.trans (length_waits_le_step _)

/-- The failed call of pass `k`, reached without a success or a cancellation, starts timer
`k`, and every later state keeps it.
Source: `util/redialer.go` AutoRetry, lines 62-69
Kind: L -/
theorem lt_length_waits_of_failure (hN : 0 < timeouts.size) {k : Nat}
    (hpre : ∀ j < k, ¬ w.stopsAt j) (hk : w.fFails k = true) {n : Nat} (hn : k < n) :
    k < (run timeouts w n).waits.length := by
  obtain ⟨hl, hc⟩ := run_of_no_stop hN k hpre
  have hlen : (run timeouts w k).waits.length = k :=
    ((retryInv_run hN w k).looping hl).1.symm.trans hc
  have h₁ : (run timeouts w (k + 1)).waits.length = k + 1 := by
    rw [run_succ, step_of_failure hN hl (by rw [hc]; exact hk)]
    simp [hlen]
  exact Nat.lt_of_lt_of_le (h₁ ▸ Nat.lt_succ_self k) (length_waits_mono hn)

end AutoRetry

/-! ## The schedule and the count -/

/-- A world where `f` always fails, with no jitter and no cancellation.
Kind: D -/
def RetryWorld.neverUp : RetryWorld := ⟨fun _ => true, fun _ _ => 0, fun _ => false⟩

open AutoRetry in
/-- **The timers of `AutoRetry`.** Over a non-empty `Timeouts` of any length `N`, and for every
world: nothing panics; the failed call of pass `k` (from 0; the `(k+1)`-th failed call) reached
after `k` passes that neither succeeded nor were cancelled starts timer `k`, which every later
state keeps; every timer `k` follows such a history, and waits `Timeouts[i] + jitter(Timeouts[i])`
with `i = timeoutIndex (N mod 2^32) (k mod 2^32)`, always inside the slice; for `N < 2^32`,
`i = min (k mod 2^32) (N-1)`. The schedule climbs one entry per failure and stays on the last,
until the `uint32` counter wraps.
Source: `util/redialer.go` AutoRetry, lines 54-75
Kind: P
Fidelity: exact
Hyps: a non-empty schedule -/
theorem autoRetry_timeout_schedule (timeouts : Array Duration) (hN : 0 < timeouts.size)
    (w : RetryWorld) :
    (∀ n e, (run timeouts w n).status ≠ .panicked e) ∧
    ∀ k, ∃ hi : (timeoutIndex (numTimeouts timeouts) (UInt32.ofNat k)).toNat < timeouts.size,
      ((∀ j < k, ¬ w.stopsAt j) → w.fFails k = true →
        ∀ n, k < n → k < (run timeouts w n).waits.length) ∧
      (∀ n (hk : k < (run timeouts w n).waits.length),
        (∀ j < k, ¬ w.stopsAt j) ∧ w.fFails k = true ∧
        (run timeouts w n).waits[k] =
          timeouts[(timeoutIndex (numTimeouts timeouts) (UInt32.ofNat k)).toNat] +
            w.jitter k timeouts[(timeoutIndex (numTimeouts timeouts) (UInt32.ofNat k)).toNat]) ∧
      (timeouts.size < 2^32 →
        (timeoutIndex (numTimeouts timeouts) (UInt32.ofNat k)).toNat =
          min (k % 2^32) (timeouts.size - 1)) := by
  refine ⟨fun n => (retryInv_run hN w n).not_panicked, fun k => ⟨timeoutIndex_lt hN _,
    fun hpre hk _ hn => lt_length_waits_of_failure hN hpre hk hn, fun n hk => ?_,
    fun h => timeoutIndex_eq_min hN h k⟩⟩
  have hinv := retryInv_run hN w n
  refine ⟨fun j hj => ?_, hinv.failed k hk, ?_⟩
  · simp [RetryWorld.stopsAt, hinv.failed j (by omega), hinv.continued j (by omega)]
  · rw [hinv.getElem_waits k hk, retryWait]
    simp [Array.getD, timeoutIndex_lt hN]

/-- `autoRetry_timeout_schedule` over the default schedule with `f` always failing: the timer
after the third failed call waits `Timeouts[2] = 5 s`.
Kind: L -/
theorem autoRetry_timeout_schedule_default :
    ∃ hk : 2 < (AutoRetry.run timeouts .neverUp 3).waits.length,
      (AutoRetry.run timeouts .neverUp 3).waits[2] = Int64.ofInt 5 * Duration.second := by
  obtain ⟨_, hstart, hwaits, -⟩ :=
    (autoRetry_timeout_schedule timeouts (by decide) .neverUp).2 2
  have hpre : ∀ j < 2, ¬ RetryWorld.neverUp.stopsAt j := fun _ _ => by
    simp [RetryWorld.stopsAt, RetryWorld.neverUp]
  have hk := hstart hpre rfl 3 (by decide)
  exact ⟨hk, (hwaits 3 hk).2.2.trans rfl⟩

open AutoRetry in
/-- **After `2^32` failures the schedule is back at its head.** With the default `Timeouts` and
`f` always failing, the `(2^32+1)`-th timer waits `Timeouts[0] = 1 s`, not the last entry
(`191 s`) that `Timeouts[min (k-1) (N-1)]` names.
Source: `util/redialer.go` AutoRetry, lines 56-68
Kind: P
Fidelity: exact
Hyps: none -/
theorem autoRetry_schedule_restarts_after_wrap :
    ∃ hk : 2^32 < (run timeouts .neverUp (2^32 + 1)).waits.length,
      (run timeouts .neverUp (2^32 + 1)).waits[2^32] ≠
        timeouts.getD (min (2^32) (timeouts.size - 1)) 0 +
          RetryWorld.neverUp.jitter (2^32) (timeouts.getD (min (2^32) (timeouts.size - 1)) 0) := by
  have hN : 0 < timeouts.size := by decide
  have hinv := retryInv_run hN .neverUp (2^32 + 1)
  obtain ⟨hl, hc⟩ := run_of_no_stop (w := .neverUp) hN (2^32 + 1)
    (fun _ _ => by simp [RetryWorld.stopsAt, RetryWorld.neverUp])
  have hlen := (hinv.looping hl).1
  refine ⟨by omega, ?_⟩
  rw [hinv.getElem_waits _ (by omega)]
  decide

open AutoRetry in
/-- **`AutoRetry` returns the number of calls of `f`, modulo `2^32`.** Over a non-empty schedule
and every world: as long as no pass has ended the loop it keeps calling `f`, once per pass; if
pass `j` is the first to end it (`f` succeeded, or failed and the wait was cancelled), `f` has
been called exactly `j+1` times, never again, and the returned count is `(j+1) mod 2^32`; and
whenever it has returned, the count is the number of calls modulo `2^32`.
Source: `util/redialer.go` AutoRetry, lines 54-75
Kind: P
Fidelity: exact
Hyps: a non-empty schedule -/
theorem autoRetry_returns_call_count (timeouts : Array Duration) (hN : 0 < timeouts.size)
    (w : RetryWorld) :
    (∀ n, (∀ k < n, ¬ w.stopsAt k) →
      (run timeouts w n).status = .looping ∧ (run timeouts w n).calls = n) ∧
    (∀ j, w.stopsAt j → (∀ k < j, ¬ w.stopsAt k) → ∀ n, j < n →
      (run timeouts w n).calls = j + 1 ∧
        ∃ r, (run timeouts w n).status = .returned r ∧ r.toNat = (j + 1) % 2^32) ∧
    (∀ n r, (run timeouts w n).status = .returned r → r.toNat = (run timeouts w n).calls % 2^32) := by
  refine ⟨run_of_no_stop hN, fun j hj hfirst n hn => ?_,
    fun n => (retryInv_run hN w n).returned⟩
  obtain ⟨hl, hc⟩ := run_of_no_stop hN j hfirst
  have hstop : (run timeouts w (j + 1)).status ≠ .looping ∧ (run timeouts w (j + 1)).calls = j + 1 := by
    rw [run_succ]
    cases hf : w.fFails (run timeouts w j).calls
    · rw [step_of_success hl hf]; simp [hc]
    · have hq : w.quit j = true := by
        rw [hc] at hf; simpa [RetryWorld.stopsAt, hf] using hj
      rw [step_of_failure hN hl hf]; simp [hc, hq]
  have hinv := retryInv_run hN w (j + 1)
  rw [run_stable hstop.1 n hn]
  refine ⟨hstop.2, ?_⟩
  cases hst : (run timeouts w (j + 1)).status with
  | looping => exact absurd hst hstop.1
  | returned r => exact ⟨r, rfl, hstop.2 ▸ hinv.returned r hst⟩
  | panicked e => exact absurd hst (hinv.not_panicked e)

/-- A world where `f` fails twice and then succeeds.
Kind: D -/
def RetryWorld.upOnThird : RetryWorld := ⟨fun k => decide (k < 2), fun _ _ => 0, fun _ => false⟩

/-- `autoRetry_returns_call_count` when `f` succeeds on its third call: three calls.
Kind: L -/
theorem autoRetry_three_calls_on_third_success :
    0 < timeouts.size ∧ (AutoRetry.run timeouts .upOnThird 5).calls = 3 :=
  ⟨by decide, ((autoRetry_returns_call_count timeouts (by decide) .upOnThird).2.1 2
    (by decide) (by decide) 5 (by decide)).1⟩

end UbuntuPush.Util
