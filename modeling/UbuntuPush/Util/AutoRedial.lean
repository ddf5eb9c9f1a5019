import UbuntuPush.Util.Backoff

/-!
# `AutoRedial` with the package's `Jitter` stays in range

`Jitter` panics from a spread of `2^62` ns on, because `2*n+1` overflows `int64`; but the
schedule `AutoRedial` runs over never gets near that. Every entry of `Timeouts` lies between
1 s and 191 s (`timeouts_pos_le`), so:

* `AutoRetry.runWith_congr` — the loop asks `jitter` only about entries of `Timeouts`, so two
  jitter functions that agree there give the same run. `autoRedial_eq_run`: `AutoRedial`,
  whose `Jitter` may panic, therefore runs as `AutoRetry` runs in `JitterDialer.world`, the
  world of the durations `Jitter` returns on those entries.
* `autoRedial_waits_bounded` — for every dialer that uses `Jitter`, every outcome of its `Dial`
  calls, every draw and every cancellation, `AutoRedial` never panics, each of its `Jitter`
  calls returns, and the `k`-th timer waits `Timeouts[i] + Jitter(Timeouts[i])`, a duration in
  `[0, 2 · Timeouts[i]]`: the `int64` sum does not wrap either.
-/

namespace UbuntuPush.Util

/-- Every entry of the default schedule is positive and at most `191 s`.
Source: `util/redialer.go` init, lines 84-90
Kind: L -/
theorem timeouts_pos_le : ∀ t ∈ timeouts.toList, 0 < t.toInt ∧ t.toInt ≤ 191 * 10^9 := by
  simp [timeouts, timeoutSeconds, Duration.second, Int64.wrap]

/-- An entry read with a default inside the bounds is an entry.
Source: none: infrastructure
Kind: L -/
theorem getD_mem_toList {timeouts : Array Duration} {i : Nat} (hi : i < timeouts.size) :
    timeouts.getD i 0 ∈ timeouts.toList := by
  simp only [Array.getD, hi, dite_true]
  exact Array.getElem_mem_toList timeouts hi

/-- `Jitter` of an entry of the default schedule returns, and the entry plus its jitter lies in
`[0, 2 · entry]` with no `int64` wrap.
Source: `util/redialer.go` Jitter, init
Kind: L -/
theorem jitter_add_mem_range (rnd : Rand) {base : Duration} (hmem : base ∈ timeouts.toList) :
    ∃ j, jitter rnd base = .ok j ∧ 0 ≤ (base + j).toInt ∧ (base + j).toInt ≤ 2 * base.toInt := by
  obtain ⟨hpos, hle⟩ := timeouts_pos_le base hmem
  obtain ⟨j, hj, hlo, hhi⟩ := jitter_mem_range rnd (show 0 ≤ base.toInt by omega) (by omega)
  refine ⟨j, hj, ?_⟩
  rw [Int64.toInt_add]
  unfold Int64.wrap
  omega

/-! ## `AutoRedial` runs in the world of `Jitter`'s values -/

namespace AutoRetry

variable {timeouts : Array Duration} {fFails quit : Nat → Bool}
  {J J' : Nat → Duration → Except GoError Duration}

/-- A pass calls `jitter` only on an entry of `Timeouts`: two jitter functions that agree on
the entries give the same pass.
Source: `util/redialer.go` AutoRetry, lines 63-67
Kind: L -/
theorem stepWith_congr (h : ∀ k, ∀ b ∈ timeouts.toList, J k b = J' k b) (s : RetryState) :
    stepWith timeouts fFails J quit s = stepWith timeouts fFails J' quit s := by
  unfold stepWith
  split
  · split
    · rfl
    · split
      · rfl
      · rename_i base hbase
        obtain ⟨hi, rfl⟩ := Array.getElem?_eq_some_iff.mp hbase
        rw [h _ _ (Array.getElem_mem_toList _ hi)]
  · rfl

/-- Jitter functions that agree on the entries of `Timeouts` give the same run.
Source: `util/redialer.go` AutoRetry
Kind: L -/
theorem runWith_congr (h : ∀ k, ∀ b ∈ timeouts.toList, J k b = J' k b) :
    ∀ n, runWith timeouts fFails J quit n = runWith timeouts fFails J' quit n
  | 0 => rfl
  | n + 1 => by rw [runWith, runWith, runWith_congr h n, stepWith_congr h]

end AutoRetry

/-- The world of the durations `Jitter` returns where `AutoRedial` calls it: on a spread in
`[0, 2^62)`, `Jitter` returns the draw for `2*spread+1`, less `spread` (`jitter_of_lt`).
Kind: D -/
def JitterDialer.world (d : JitterDialer) : RetryWorld where
  fFails := d.dialFails
  jitter k spread := (d.rnd k).draw (2 * spread + 1) - spread
  quit := d.quit

/-- `AutoRedial` runs as `AutoRetry` runs in the world of `Jitter`'s values: no `Jitter` call it
makes panics.
Source: `util/redialer.go` AutoRedial, Jitter, init
Kind: L -/
theorem autoRedial_eq_run (d : JitterDialer) (n : Nat) :
    autoRedial d n = AutoRetry.run timeouts d.world n :=
  AutoRetry.runWith_congr (fun k b hb => by
    obtain ⟨hpos, hle⟩ := timeouts_pos_le b hb
    exact jitter_of_lt (d.rnd k) (by omega) (by omega)) n

/-- **`AutoRedial` with `Jitter` never panics, and its timers stay within twice their base.**
For every dialer whose `Jitter` is the package's `Jitter`, and any number of passes: nothing
panics (`Jitter` included), and the `k`-th timer waits `base + j`, where `base` is an entry of
`Timeouts`, `j` is what `Jitter(base)` returned on that pass, and `0 ≤ base + j ≤ 2 · base`.
Source: `util/redialer.go` Jitter, AutoRetry, AutoRedial, init, lines 41-92
Kind: P
Fidelity: exact
Hyps: none -/
theorem autoRedial_waits_bounded (d : JitterDialer) (n : Nat) :
    (∀ e, (autoRedial d n).status ≠ .panicked e) ∧
    ∀ k (hk : k < (autoRedial d n).waits.length),
      ∃ base ∈ timeouts.toList, ∃ j, jitter (d.rnd k) base = .ok j ∧
        (autoRedial d n).waits[k] = base + j ∧
        0 ≤ (autoRedial d n).waits[k].toInt ∧
        (autoRedial d n).waits[k].toInt ≤ 2 * base.toInt := by
  rw [autoRedial_eq_run]
  have hN : 0 < timeouts.size := by decide
  have hinv := AutoRetry.retryInv_run hN d.world n
  refine ⟨hinv.not_panicked, fun k hk => ?_⟩
  have hmem := getD_mem_toList (timeoutIndex_lt hN (UInt32.ofNat k))
  obtain ⟨hpos, hle⟩ := timeouts_pos_le _ hmem
  obtain ⟨j, hj, hlo, hhi⟩ := jitter_add_mem_range (d.rnd k) hmem
  have hval := jitter_of_lt (d.rnd k) hpos.le (by omega)
  have hw : (AutoRetry.run timeouts d.world n).waits[k] =
      timeouts.getD (timeoutIndex (numTimeouts timeouts) (UInt32.ofNat k)).toNat 0 + j := by
    rw [hinv.getElem_waits k hk, ← Except.ok.inj (hval.symm.trans hj)]
    rfl
  exact ⟨_, hmem, j, hj, hw, hw ▸ hlo, hw ▸ hhi⟩

/-- A dialer whose `Dial` always fails, whose `Jitter` draws 0, and which is never cancelled.
Kind: D -/
def JitterDialer.zeroDraw : JitterDialer := ⟨fun _ => true, fun _ => Rand.zero, fun _ => false⟩

/-- `autoRedial_waits_bounded` at the zero draw, for the timer after the third failed `Dial`.
Kind: L -/
theorem autoRedial_waits_bounded_zero_draw :
    ∃ hk : 2 < (autoRedial .zeroDraw 3).waits.length,
      ∃ base ∈ timeouts.toList, ∃ j, jitter Rand.zero base = .ok j ∧
        (autoRedial .zeroDraw 3).waits[2] = base + j ∧
        0 ≤ (autoRedial .zeroDraw 3).waits[2].toInt ∧
        (autoRedial .zeroDraw 3).waits[2].toInt ≤ 2 * base.toInt :=
  ⟨by decide, (autoRedial_waits_bounded .zeroDraw 3).2 2 _⟩

end UbuntuPush.Util
