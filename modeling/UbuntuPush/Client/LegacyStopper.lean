import UbuntuPush.Client.Legacy

/-!
# What the earlier client's `Stop` channels guarantee, and what they do not

Over the system of `UbuntuPush.Client.Legacy`:

* `ClientInv` depends only on the connectivity flag, the held channel, the number of retriers
  and the `Stop` channels (`ClientInv.of_stops`), so every event that moves a retrier or the
  session keeps it for free; `connectSession`, `disconnectSession`, `handleConnState` and
  `handleErr` keep it by their own lemmas; `ClientInv.step` assembles the cases, and
  `ClientInv.run` carries the invariant along a run.
* `legacy_stop_sends_never_block` — in every reachable state the held `Stop` channel is a
  started retrier's and is empty, every other retrier has been told to stop, and a channel is
  held only with connectivity.
* `legacy_disconnect_keeps_session` — what the invariant does not give: the held channel may
  belong to a retrier that has already returned. After a successful dial, losing connectivity
  signals that stale channel and skips `session.Close()`, leaving the session connected while
  the client has no connectivity and no dial in flight.
-/

namespace UbuntuPush.Client.Legacy

/-- The invariant of every reachable state.
Kind: D -/
structure ClientInv (c : Client) : Prop where
  /-- The held `Stop` channel belongs to a started retrier and is still empty. -/
  stopper_fresh : ∀ i, c.sessionRetrierStopper = some i →
    i < c.started ∧ (c.retriers i).stop = .empty
  /-- Every other started retrier has been told to stop. -/
  others_stopped : ∀ i < c.started, c.sessionRetrierStopper ≠ some i →
    (c.retriers i).stop ≠ .empty
  /-- A `Stop` channel is held only while there is connectivity. -/
  stopper_connected : c.sessionRetrierStopper.isSome → c.hasConnectivity = true

namespace Client

/-- Retrier `j` after retrier `i` changed.
Source: none: infrastructure
Kind: L -/
@[simp] theorem setRetrier_retriers (c : Client) (i j : Nat) (r : Retrier) :
    (c.setRetrier i r).retriers j = if j = i then r else c.retriers j := by
  simp [setRetrier, Function.update_apply]

/-- Changing a retrier leaves the connectivity flag.
Source: none: infrastructure
Kind: L -/
@[simp] theorem setRetrier_hasConnectivity (c : Client) (i : Nat) (r : Retrier) :
    (c.setRetrier i r).hasConnectivity = c.hasConnectivity := rfl

/-- Changing a retrier leaves the held channel.
Source: none: infrastructure
Kind: L -/
@[simp] theorem setRetrier_sessionRetrierStopper (c : Client) (i : Nat) (r : Retrier) :
    (c.setRetrier i r).sessionRetrierStopper = c.sessionRetrierStopper := rfl

/-- Changing a retrier leaves the number started.
Source: none: infrastructure
Kind: L -/
@[simp] theorem setRetrier_started (c : Client) (i : Nat) (r : Retrier) :
    (c.setRetrier i r).started = c.started := rfl

/-- `session.Close()` changes only the session's two fields.
Source: `client/client_test.go` disconnectSession, line 1317
Kind: L -/
theorem closeSession_eq (c : Client) :
    ∃ live errs, c.closeSession = { c with sessionLive := live, errsPending := errs } := by
  unfold closeSession; split
  · exact ⟨_, _, rfl⟩
  · exact ⟨c.sessionLive, c.errsPending, rfl⟩

end Client

/-- No `Stop` channel held, and every started retrier told to stop: the state both
`connectSession` and `disconnectSession` pass through after signalling the held channel.
Kind: D -/
def AllStopped (c : Client) : Prop :=
  c.sessionRetrierStopper = none ∧ ∀ i < c.started, (c.retriers i).stop ≠ .empty

namespace ClientInv

variable {c : Client}

/-- The invariant reads only the flag, the held channel, the count and the `Stop` channels.
Source: none: infrastructure
Kind: L -/
theorem of_stops (h : ClientInv c) {c' : Client} (hc : c'.hasConnectivity = c.hasConnectivity)
    (hs : c'.sessionRetrierStopper = c.sessionRetrierStopper) (hn : c'.started = c.started)
    (hstop : ∀ i, (c'.retriers i).stop = (c.retriers i).stop) : ClientInv c' :=
  ⟨fun i hi => by rw [hn, hstop]; exact h.stopper_fresh i (hs ▸ hi),
    fun i hi hne => by rw [hstop]; exact h.others_stopped i (hn ▸ hi) (hs ▸ hne),
    fun hi => hc ▸ h.stopper_connected (hs ▸ hi)⟩

/-- A retrier changing phase keeps the invariant.
Source: `AutoRetrier.Retry` (not under `src/`; spec §4.1)
Kind: L -/
theorem setPhase (h : ClientInv c) (i : Nat) (p : RetrierPhase) :
    ClientInv (c.setRetrier i { c.retriers i with phase := p }) :=
  h.of_stops rfl rfl rfl fun j => by by_cases hj : j = i <;> simp [hj]

/-- `session.Close()` keeps the invariant.
Source: `client/client_test.go` disconnectSession, line 1317
Kind: L -/
theorem closeSession (h : ClientInv c) : ClientInv c.closeSession := by
  obtain ⟨live, errs, he⟩ := c.closeSession_eq
  rw [he]; exact h.of_stops rfl rfl rfl fun _ => rfl

/-- With no channel held, every started retrier has been told to stop.
Source: none: infrastructure
Kind: L -/
theorem allStopped_of_none (h : ClientInv c) (hs : c.sessionRetrierStopper = none) :
    AllStopped c :=
  ⟨hs, fun i hi => h.others_stopped i hi (by simp [hs])⟩

/-- Signalling the held channel and dropping it leaves every started retrier told to stop.
Source: `client/client_test.go` connectSession, disconnectSession, lines 1297-1300, 1312-1315
Kind: L -/
theorem allStopped_signalStopper (h : ClientInv c) {i : Nat}
    (hi : c.sessionRetrierStopper = some i) : AllStopped (c.signalStopper i) := by
  refine ⟨rfl, fun j hj => ?_⟩
  by_cases hji : j = i
  · subst hji; simp [Client.signalStopper]
  · simpa [Client.signalStopper, hji] using h.others_stopped j hj (by rw [hi]; simpa using Ne.symm hji)

end ClientInv

namespace AllStopped

variable {c : Client}

/-- With no channel held and every retrier told to stop, the invariant holds.
Source: none: infrastructure
Kind: L -/
theorem clientInv (h : AllStopped c) : ClientInv c :=
  ⟨fun i hi => by simp [h.1] at hi, fun i hi _ => h.2 i hi, fun hi => by simp [h.1] at hi⟩

/-- Starting a fresh retrier and holding its channel, with connectivity, restores the
invariant.
Source: `client/client_test.go` connectSession, lines 1301-1306
Kind: L -/
theorem spawn (h : AllStopped c) (hconn : c.hasConnectivity = true) :
    ClientInv { c.setRetrier c.started ⟨.dialling, .empty⟩ with
      started := c.started + 1, sessionRetrierStopper := some c.started } := by
  refine ⟨fun j hj => ?_, fun j hj hne => ?_, fun _ => hconn⟩
  · simp only [Option.some.injEq] at hj; subst hj; simp
  · have hj' : j ≠ c.started := fun hj' => hne (by simp [hj'])
    simpa [hj'] using h.2 j (by simp at hj; omega)

end AllStopped

namespace ClientInv

variable {c : Client}

/-- `connectSession()` with connectivity keeps the invariant.
Source: `client/client_test.go` connectSession, lines 1295-1307
Kind: L -/
theorem connectSession (h : ClientInv c) (hconn : c.hasConnectivity = true) :
    ClientInv c.connectSession := by
  unfold Client.connectSession
  cases hs : c.sessionRetrierStopper with
  | none => exact (h.allStopped_of_none hs).spawn hconn
  | some i => exact (h.allStopped_signalStopper hs).spawn hconn

/-- `disconnectSession()` keeps the invariant.
Source: `client/client_test.go` disconnectSession, lines 1310-1318
Kind: L -/
theorem disconnectSession (h : ClientInv c) : ClientInv c.disconnectSession := by
  unfold Client.disconnectSession
  cases hs : c.sessionRetrierStopper with
  | none => exact h.closeSession
  | some i => exact (h.allStopped_signalStopper hs).clientInv

/-- Losing connectivity: the disconnect drops any held channel, so the new flag is harmless.
Source: `client/client_test.go` handleConnState, lines 1321-1332
Kind: L -/
theorem disconnectSession_lost (h : ClientInv c) :
    ClientInv ({ c with hasConnectivity := false } : Client).disconnectSession := by
  unfold Client.disconnectSession
  cases hs : c.sessionRetrierStopper with
  | none =>
    exact ClientInv.closeSession (AllStopped.clientInv ⟨rfl, (h.allStopped_of_none hs).2⟩)
  | some i => exact AllStopped.clientInv (h.allStopped_signalStopper hs)

/-- `handleConnState(state)` keeps the invariant.
Source: `client/client_test.go` handleConnState, lines 1321-1332
Kind: L -/
theorem handleConnState (h : ClientInv c) (state : Bool) :
    ClientInv (c.handleConnState state) := by
  unfold Client.handleConnState
  split
  · exact h
  · cases state with
    | true => exact connectSession ⟨h.stopper_fresh, h.others_stopped, fun _ => rfl⟩ rfl
    | false => exact h.disconnectSession_lost

/-- `handleErr(err)` keeps the invariant.
Source: `client/client_test.go` handleErr, lines 1335-1341
Kind: L -/
theorem handleErr (h : ClientInv c) : ClientInv c.handleErr := by
  unfold Client.handleErr
  split
  · exact h.connectSession ‹_›
  · exact h

/-- A retrier taking the `true` from its `Stop` channel was not the held one.
Source: `AutoRetrier.Retry` (not under `src/`; spec §4.1), its `select` on `Stop`
Kind: L -/
theorem takeStop (h : ClientInv c) {i : Nat} (hfull : (c.retriers i).stop = .full) :
    ClientInv (c.setRetrier i ⟨.returned, .taken⟩) := by
  have hne : c.sessionRetrierStopper ≠ some i := fun hs => by
    simp [(h.stopper_fresh i hs).2] at hfull
  refine ⟨fun j hj => ?_, fun j hj hne' => ?_, h.stopper_connected⟩
  · have hji : j ≠ i := fun e => hne (e ▸ hj)
    simpa [hji] using h.stopper_fresh j hj
  · by_cases hji : j = i
    · simp [hji]
    · simpa [hji] using h.others_stopped j hj hne'

/-- The invariant holds of the client `Configure` leaves.
Source: none: infrastructure
Kind: L -/
theorem init : ClientInv Client.init :=
  ⟨fun _ h => by simp [Client.init] at h, fun _ h => by simp [Client.init] at h,
    fun h => by simp [Client.init] at h⟩

/-- Every event of the system keeps the invariant.
Source: `client/client_test.go` doLoop, lines 1375-1390
Kind: L -/
theorem step (h : ClientInv c) {e : Event} {c' : Client} (he : c.step e = some c') :
    ClientInv c' := by
  cases e with
  | conn state => cases he; exact h.handleConnState state
  | sessionErr =>
    simp only [Client.step] at he; split at he <;> cases he
    have h' : ClientInv { c with errsPending := c.errsPending - 1 } :=
      h.of_stops rfl rfl rfl fun _ => rfl
    exact h'.handleErr
  | retryCount i => simp only [Client.step] at he; split at he <;> cases he; exact h.setPhase _ _
  | dialed i ok =>
    simp only [Client.step] at he; split at he
    · split at he <;> cases he
      · exact (h.closeSession.setPhase i _).of_stops rfl rfl rfl fun _ => rfl
      · exact h.closeSession.setPhase i _
    · cases he
  | timerFired i => simp only [Client.step] at he; split at he <;> cases he; exact h.setPhase _ _
  | stopTaken i =>
    simp only [Client.step] at he; split at he <;> cases he
    exact h.takeStop ‹_ ∧ _›.2
  | connLost =>
    simp only [Client.step] at he; split at he <;> cases he
    exact h.of_stops rfl rfl rfl fun _ => rfl

/-- Every run of the system keeps the invariant, by induction on the events.
Source: `client/client_test.go` doLoop
Kind: L -/
theorem run (h : ClientInv c) {es : List Event} {c' : Client} (he : c.run es = some c') :
    ClientInv c' := by
  induction es generalizing c with
  | nil => cases he; exact h
  | cons e es ih =>
    obtain ⟨c₁, h₁, h₂⟩ := Option.bind_eq_some.mp he
    exact ih (h.step h₁) h₂

end ClientInv

/-- Every reachable state satisfies the invariant.
Source: none: infrastructure
Kind: L -/
theorem clientInv_of_reachable {c : Client} (hc : Reachable c) : ClientInv c :=
  ClientInv.init.run hc.choose_spec

/-- **The loop never blocks on a `Stop` channel, and at most one retrier runs unstopped.** In
every reachable state the held `Stop` channel belongs to a retrier that was started and is still
empty (so the send of `connectSession` or `disconnectSession` on it never blocks `doLoop`), every
other retrier started so far has been told to stop, and a channel is held only while the client
has connectivity.
Source: `client/client_test.go` connectSession, disconnectSession, handleConnState, handleErr,
doLoop, lines 1295-1390
Kind: P
Fidelity: exact for the loop; retrier and session modelled from the spec
Hyps: a reachable state -/
theorem legacy_stop_sends_never_block {c : Client} (hc : Reachable c) :
    (∀ i, c.sessionRetrierStopper = some i → i < c.started ∧ (c.retriers i).stop = .empty) ∧
    (∀ i < c.started, c.sessionRetrierStopper ≠ some i → (c.retriers i).stop ≠ .empty) ∧
    (c.sessionRetrierStopper.isSome → c.hasConnectivity = true) :=
  have h := clientInv_of_reachable hc
  ⟨h.stopper_fresh, h.others_stopped, h.stopper_connected⟩

/-- `legacy_stop_sends_never_block` after connectivity comes and goes: retrier 0 has been told
to stop.
Kind: L -/
theorem stop_sent_when_connectivity_drops :
    ∃ c, Client.init.run [.conn true, .conn false] = some c ∧
      c.sessionRetrierStopper = none ∧ (c.retriers 0).stop ≠ .empty :=
  ⟨_, rfl, rfl, (legacy_stop_sends_never_block ⟨[.conn true, .conn false], rfl⟩).2.1 0
    (by decide) (by decide)⟩

/-- **A stale `Stop` channel keeps the session open without connectivity.** Connectivity comes
up; the retrier's first `Dial` succeeds, `Retry` returns and `doLoop` receives its count on
`sessionRetryCh`, but keeps the retrier's `Stop` channel. Connectivity then goes down:
`disconnectSession` takes the channel branch for a retrier that has already returned, and
`session.Close()` is never called. The session stays connected while `hasConnectivity` is
false, with no `Dial` in flight.
Source: `client/client_test.go` disconnectSession, doLoop, lines 1310-1318, 1386-1387
Kind: P
Fidelity: exact for the loop; retrier and session modelled from the spec
Hyps: none -/
theorem legacy_disconnect_keeps_session :
    ∃ c, Client.init.run [.conn true, .dialed 0 true, .retryCount 0] = some c ∧
      c.hasConnectivity = true ∧ c.sessionRetrierStopper = some 0 ∧
      (c.retriers 0).phase = .reported ∧
      ∃ c', c.step (.conn false) = some c' ∧ c'.hasConnectivity = false ∧
        c'.sessionLive = true ∧ ∀ i, (c'.retriers i).phase ≠ .dialling := by
  refine ⟨_, rfl, rfl, rfl, rfl, _, rfl, rfl, rfl, fun i => ?_⟩
  by_cases hi : i = 0
  · subst hi; decide
  · simp [Client.step, Client.run, Client.handleConnState, Client.connectSession,
      Client.disconnectSession, Client.signalStopper, Client.closeSession, Client.init,
      Client.setRetrier, Function.update_apply, hi]

end UbuntuPush.Client.Legacy
