import UbuntuPush.Client.Addressee

/-!
# The push client's event loop

`PushClient.doLoop` of `client/client.go` with the handlers `Loop` gives it. A connectivity
change goes to the session and to the poller; a broadcast that passes
`filterBroadcastNotification`, and every addressed unicast, is posted to the postal service; an
app reported on `unregisterCh` is unregistered unless the checker finds it installed; an
accounts change resets the session cookie. The loop keeps no state of its own: what it does is
the sequence of calls its handlers make on the client's collaborators, an `Effect` list.

The start-up (`UbuntuPush.Client.Start`) fills in the `InfoResult` the filter reads. No theorem
is stated about the loop alone: it keeps no state, and what it does is its handlers' calls, in
the order the `select` receives their values.
-/

namespace UbuntuPush.Client

/-! ## The data the loop receives -/

/-- A Go `interface{}` value in a decoded broadcast, by its dynamic type: those
`encoding/json` produces, and `int`, which Go code building a map may put there too.
Source: `client/client.go` filterBroadcastNotification (`entry.([]interface{})`,
`pair[0].(float64)`)
Kind: D
Fidelity: exact for the dynamic type, which is all the client inspects; a `float64` is its
IEEE-754 bits -/
inductive Value
  | null
  | bool (b : Bool)
  | int (n : Int)
  | float64 (bits : UInt64)
  | string (s : String)
  /-- A `[]interface{}`. -/
  | slice (xs : List Value)
  /-- A nested `map[string]interface{}`. -/
  | object (kvs : List (String × Value))

/-- A Go `map[string]interface{}`: the value under each key, `none` for an absent key.
Kind: D -/
abbrev GoMap := String → Option Value

/-- `session.BroadcastNotification`: its top level and its decoded payloads.
Source: `client/client.go` filterBroadcastNotification, handleBroadcastNotification
Kind: D
Fidelity: exact -/
structure BroadcastNotification where
  topLevel : Int64
  decoded : List GoMap

/-- `session.AddressedNotification`: a unicast and the app `CheckForAddressee` found for it.
Source: `client/client.go` handleUnicastNotification
Kind: D
Fidelity: exact -/
structure AddressedNotification where
  /-- `To`, the addressee. -/
  toApp : AppId
  notification : Notification

/-- `systemimage.InfoResult`: what the system image service says about the device.
Source: `client/client.go` takeTheBus, filterBroadcastNotification, initSessionAndPoller
Kind: D
Fidelity: exact; `BuildNumber` as an integer -/
structure InfoResult where
  buildNumber : Int
  device : String
  channel : String
  lastUpdate : String
  deriving DecidableEq, Repr

/-- What the loop's handlers read of the `PushClient`: the system image description and the
installed-app checker, with the JSON marshaller and the app-id parser they call. The calls on
the postal service, the push service, the session and the poller are `Effect`s.
Source: `client/client.go` PushClient (`systemImageInfo`, `installedChecker`)
Kind: D
Fidelity: exact for the two fields; `json.Marshal` and `click.ParseAppId` left open -/
structure LoopDeps where
  systemImageInfo : InfoResult
  /-- `installedChecker.Installed(app, false)`. -/
  installed : AppId → Bool
  /-- `json.Marshal` of a decoded entry. -/
  marshal : GoMap → Except GoError (List UInt8)
  /-- `click.ParseAppId`, its error dropped as the handler drops it. -/
  parseAppId : String → AppId

/-- A call a handler makes on one of the client's collaborators.
Source: `client/client.go` handeConnNotification, handleBroadcastNotification,
handleUnicastNotification, handleUnregister, Loop
Kind: D
Fidelity: exact -/
inductive Effect
  /-- `client.session.HasConnectivity(conn)`. -/
  | sessionHasConnectivity (conn : Bool)
  /-- `client.poller.HasConnectivity(conn)`. -/
  | pollerHasConnectivity (conn : Bool)
  /-- `client.postalService.Post(app, nid, payload)`. -/
  | post (app : AppId) (nid : String) (payload : List UInt8)
  /-- `client.pushService.Unregister(appId)`; its error is only logged. -/
  | unregister (appId : String)
  /-- `client.session.ResetCookie()`. -/
  | resetCookie
  deriving DecidableEq, Repr

/-! ## The handlers -/

namespace LoopDeps

/-- `filterBroadcastNotification(msg)`: is the broadcast about an image for this device?
Source: `client/client.go` filterBroadcastNotification, lines 384-406
Kind: D
Fidelity: exact -/
def filterBroadcastNotification (client : LoopDeps) (msg : BroadcastNotification) : Bool :=
  match h : msg.decoded.length with
  | 0 => false
  | n + 1 =>
    -- they are all for us, consider last
    let last := msg.decoded[n]
    let tag := client.systemImageInfo.channel ++ "/" ++ client.systemImageInfo.device
    match last tag with
    | none => false
    | some (.slice pair) =>
      if hp : pair.length < 1 then false
      else
        match pair[0] with
        | .float64 _ => true
        | _ => false
    | some _ => false

/-- `handleBroadcastNotification(msg)`: post the last decoded entry, as JSON, to the system
settings app if the broadcast passes the filter; the calls made and the error returned.
Source: `client/client.go` handleBroadcastNotification, lines 409-424
Kind: D
Fidelity: exact (log lines left out); the filter has checked that `Decoded` is non-empty, so
the default of `getLastD` is never taken -/
def handleBroadcastNotification (client : LoopDeps) (msg : BroadcastNotification) :
    List Effect × Option GoError :=
  if !client.filterBroadcastNotification msg then ([], none)
  else
    match client.marshal (msg.decoded.getLastD fun _ => none) with
    | .error err => ([], some err)
    | .ok payload => ([.post (client.parseAppId "_ubuntu-system-settings") "" payload], none)

/-- `handleUnregister(app)`: unregister the app's token unless it is installed again.
Source: `client/client.go` handleUnregister, lines 359-375
Kind: D
Fidelity: exact (log lines left out) -/
def handleUnregister (client : LoopDeps) (app : AppId) : List Effect :=
  if !client.installed app then [.unregister app.original] else []

end LoopDeps

/-- `handleUnicastNotification(anotif)`: post the unicast to its addressee.
Source: `client/client.go` handleUnicastNotification, lines 427-433
Kind: D
Fidelity: exact (log line left out) -/
def handleUnicastNotification (anotif : AddressedNotification) : List Effect × Option GoError :=
  let app := anotif.toApp
  let msg := anotif.notification
  ([.post app msg.msgId msg.payload], none)

/-- `handeConnNotification(conn)`: tell the session and the poller.
Source: `client/client.go` handeConnNotification, lines 435-438
Kind: D
Fidelity: exact -/
def handeConnNotification (conn : Bool) : List Effect :=
  [.sessionHasConnectivity conn, .pollerHasConnectivity conn]

/-! ## The loop -/

/-- A value `doLoop`'s `select` receives, by the channel it comes on.
Source: `client/client.go` doLoop, lines 441-459
Kind: D
Fidelity: exact -/
inductive LoopEvent
  /-- From `accountsCh`. -/
  | accounts
  /-- From `connCh`. -/
  | conn (state : Bool)
  /-- From `broadcastCh`. -/
  | bcast (msg : BroadcastNotification)
  /-- From `notificationsCh`. -/
  | ucast (aucast : AddressedNotification)
  /-- From `sessionConnectedCh`: only logged. -/
  | sessionConnected (count : UInt32)
  /-- From `unregisterCh`. -/
  | unregister (app : AppId)

/-- The handlers `doLoop` is given.
Source: `client/client.go` doLoop
Kind: D
Fidelity: exact -/
structure LoopHandlers where
  connhandler : Bool → List Effect
  bcasthandler : BroadcastNotification → List Effect × Option GoError
  ucasthandler : AddressedNotification → List Effect × Option GoError
  unregisterhandler : AppId → List Effect
  accountshandler : List Effect

/-- `doLoop`: hand each value received to its handler, whose returned error is dropped.
Source: `client/client.go` doLoop, lines 441-459
Kind: D
Fidelity: exact (the loop over the values received so far) -/
def doLoop (h : LoopHandlers) : List LoopEvent → List Effect
  | [] => []
  | e :: es =>
    let now := match e with
      | .accounts => h.accountshandler
      | .conn state => h.connhandler state
      | .bcast bcast => (h.bcasthandler bcast).1
      | .ucast aucast => (h.ucasthandler aucast).1
      | .sessionConnected _ => []
      | .unregister app => h.unregisterhandler app
    now ++ doLoop h es

/-- `Loop()`: `doLoop` with the client's own handlers.
Source: `client/client.go` Loop, lines 472-479
Kind: D
Fidelity: exact -/
def loop (client : LoopDeps) : List LoopEvent → List Effect :=
  doLoop ⟨handeConnNotification, client.handleBroadcastNotification, handleUnicastNotification,
    client.handleUnregister, [.resetCookie]⟩

end UbuntuPush.Client
