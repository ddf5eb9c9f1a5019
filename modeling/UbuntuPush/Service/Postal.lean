import UbuntuPush.Basic

/-!
# The postal service

`PostalService` of `unnamed/part_001` as code: the D-Bus object that stores each app's postal
messages in a mailbox until the app pops them. Its theorems are in `UbuntuPush.Service.Mailbox`.

* `PostalService.inject` — `Inject(app, nid, notif)`: run the helper, append its message to the
  app's mailbox, then call the message handler and emit the `Post` signal.
* `PostalService.dbusInject` — `inject`, the D-Bus `Post` method: check the arguments
  (`postArgs`), then `Inject` with a fresh notification id.
* `PostalService.notifications` — the D-Bus `PopAll` method: hand out and clear the caller's
  mailbox.
* `PostalService.injectBroadcast` — `InjectBroadcast`: `Inject` the system-update card into
  `_ubuntu-push-client`'s mailbox.

What the service calls out to and this file does not contain (the helper launcher, the
argument decoder of the embedded `DBusService`, the bus, `nih.Quote`, `json.Marshal`,
`click.ParseAppId`, the notification presenter) is a `PostalDeps`; every theorem holds for
every such record. Logging is left out: nothing the service returns depends on it.
-/

namespace UbuntuPush.Service

/-- A D-Bus method argument as the handlers see it through `interface{}`: a string, or a value
of any other dynamic type.
Source: `unnamed/part_001` notifications, inject (`args []interface{}`)
Kind: D
Fidelity: exact up to the dynamic type, which is only tested for `string` -/
inductive DBusArg
  | string (s : String)
  | other
  deriving DecidableEq, Repr

/-- `launch_helper.Card`, with the fields `InjectBroadcast` fills in.
Source: `unnamed/part_001` InjectBroadcast
Kind: D
Fidelity: exact for the fields set -/
structure Card where
  icon : String
  summary : String
  body : String
  actions : List String
  popup : Bool
  deriving DecidableEq, Repr

/-- `launch_helper.Notification`, of which only the card is set here.
Source: `unnamed/part_001` InjectBroadcast
Kind: D
Fidelity: exact for the field set -/
structure Notification where
  card : Option Card
  deriving DecidableEq, Repr

/-- `launch_helper.HelperOutput`: the postal message kept in the mailbox and the notification to
present.
Source: `unnamed/part_001` Inject, InjectBroadcast
Kind: D
Fidelity: exact -/
structure HelperOutput where
  message : String
  notification : Option Notification
  deriving DecidableEq, Repr

/-- `messageHandler`: `(app, nid, output)` to an error or `nil`.
Source: `unnamed/part_001` (type `messageHandler`)
Kind: D
Fidelity: exact -/
abbrev MessageHandler := AppId → String → HelperOutput → Option GoError

/-- Everything the postal service calls that is not in this file.
Source: `unnamed/part_001` (fields and imports of `PostalService`)
Kind: D
Fidelity: left open -/
structure PostalDeps where
  /-- `HelperLauncher.Run(app, []byte(notif))`. -/
  helperRun : AppId → String → HelperOutput
  /-- `grabDBusPackageAndAppId(path, args, numExtra)` of the embedded `DBusService`. -/
  grabDBusPackageAndAppId : String → List DBusArg → Nat → Except GoError AppId
  /-- `Bus.Signal(member, path, args)`. -/
  signal : String → String → List String → Option GoError
  /-- `nih.Quote`. -/
  quote : String → String
  /-- `json.Marshal` of a helper output. -/
  marshal : HelperOutput → Except GoError String
  /-- `click.ParseAppId`, with the error dropped as `InjectBroadcast` drops it. -/
  parseAppId : String → AppId
  /-- The notifications endpoint's `Present`; its error is what `messageHandler` returns. -/
  presentNotification : AppId → String → Option Notification → Option GoError

/-- The service's state that its methods read and write.
Source: `unnamed/part_001` PostalService
Kind: D
Fidelity: the mailbox and the handler; the endpoints are in `PostalDeps` -/
structure PostalService where
  /-- `mbox`: `nil` until the first `Inject`, then each app id's pending messages. -/
  mbox : Option (String → List String)
  /-- `msgHandler`, possibly `nil`. -/
  msgHandler : Option MessageHandler

namespace PostalService

variable (deps : PostalDeps)

/-- `messageHandler`: present the output on every endpoint and return the notifications
endpoint's error; the messaging menu, emblem counter, haptic and sound presenters' answers are
dropped by the source.
Source: `unnamed/part_001` messageHandler, lines 188-196
Kind: D
Fidelity: exact for what it returns -/
def messageHandler : MessageHandler :=
  fun app nid output => deps.presentNotification app nid output.notification

/-- `NewPostalService`: no mailbox yet, and the presenting message handler.
Source: `unnamed/part_001` NewPostalService, lines 66-78
Kind: D
Fidelity: exact for the fields modelled -/
def newPostalService : PostalService := ⟨none, some (messageHandler deps)⟩

/-- `SetMessageHandler(callback)`.
Source: `unnamed/part_001` SetMessageHandler, lines 81-85
Kind: D
Fidelity: exact -/
def setMessageHandler (svc : PostalService) (callback : Option MessageHandler) : PostalService :=
  { svc with msgHandler := callback }

/-- The messages waiting for an app id: `svc.mbox[appId]`, `nil` on a `nil` map.
Source: `unnamed/part_001` notifications, line 140
Kind: D
Fidelity: exact -/
def pending (svc : PostalService) (appId : String) : List String :=
  match svc.mbox with
  | none => []
  | some m => m appId

/-- `Inject(app, nid, notif)`: allocate the mailbox if needed, run the helper, append its message
to `app.Original()`'s mailbox; then call the message handler if there is one, returning its
error, and otherwise emit the `Post` signal on `/<quoted package>` and return its error.
Source: `unnamed/part_001` Inject, lines 165-186
Kind: D
Fidelity: exact -/
def inject (svc : PostalService) (app : AppId) (nid notif : String) :
    PostalService × Option GoError :=
  let mbox := svc.mbox.getD fun _ => []
  let output := deps.helperRun app notif
  let appId := app.original
  let svc := { svc with mbox := some (Function.update mbox appId (mbox appId ++ [output.message])) }
  let signal := deps.signal "Post" ("/" ++ deps.quote app.package) [appId]
  match svc.msgHandler with
  | none => (svc, signal)
  | some handler =>
    match handler app nid output with
    | some err => (svc, some err)
    | none => (svc, signal)

/-- The argument checks of `inject`: the app `grabDBusPackageAndAppId(path, args, 1)` decodes,
and `args[1]`, which must be a string (an index outside `args` panics).
Source: `unnamed/part_001` inject, lines 149-156
Kind: D
Fidelity: exact -/
def postArgs (path : String) (args : List DBusArg) : Except GoError (AppId × String) := do
  let app ← deps.grabDBusPackageAndAppId path args 1
  match args[1]? with
  | some (DBusArg.string notif) => pure (app, notif)
  | some DBusArg.other => throw .errBadArgType
  | none => throw (.panic "index out of range")

/-- `inject`, the D-Bus `Post` method: check the arguments, then `Inject` with the id `newNid()`
returned, `nid`.
Source: `unnamed/part_001` inject, lines 148-161
Kind: D
Fidelity: exact -/
def dbusInject (svc : PostalService) (path : String) (args : List DBusArg) (nid : String) :
    PostalService × Option GoError :=
  match postArgs deps path args with
  | .error err => (svc, some err)
  | .ok (app, notif) => svc.inject deps app nid notif

/-- `notifications`, the D-Bus `PopAll` method: decode the caller's app, then return its pending
messages and delete its mailbox entry (`nil` when there is no map yet).
Source: `unnamed/part_001` notifications, lines 128-144
Kind: D
Fidelity: exact (a deleted key and an empty entry read the same) -/
def notifications (svc : PostalService) (path : String) (args : List DBusArg) :
    PostalService × Except GoError (List String) :=
  match deps.grabDBusPackageAndAppId path args 0 with
  | .error err => (svc, .error err)
  | .ok app =>
    match svc.mbox with
    | none => (svc, .ok [])
    | some m => ({ svc with mbox := some (Function.update m app.original []) }, .ok (m app.original))

/-- `SystemUpdateUrl`, the notification id `InjectBroadcast` uses.
Source: `unnamed/part_001`, line 62
Kind: D
Fidelity: exact -/
def systemUpdateUrl : String := "settings:///system/system-update"

/-- The card `InjectBroadcast` builds for a new system image.
Source: `unnamed/part_001` InjectBroadcast, lines 199-203
Kind: D
Fidelity: exact -/
def broadcastCard : Card where
  icon := "update_manager_icon"
  summary := "There\x27s an updated system image."
  body := "Tap to open the system updater."
  actions := ["Switch to app"]
  popup := true

/-- The helper output `InjectBroadcast` marshals: an empty message and the card.
Source: `unnamed/part_001` InjectBroadcast, line 204
Kind: D
Fidelity: exact -/
def broadcastOutput : HelperOutput := ⟨"", some ⟨some broadcastCard⟩⟩

/-- `InjectBroadcast()`: marshal the system-update output and `Inject` it for
`_ubuntu-push-client`; a marshalling error returns before any `Inject`.
Source: `unnamed/part_001` InjectBroadcast, lines 198-213
Kind: D
Fidelity: exact -/
def injectBroadcast (svc : PostalService) : PostalService × UInt32 × Option GoError :=
  match deps.marshal broadcastOutput with
  | .error err => (svc, 0, some err)
  | .ok jsonNotif =>
    let r := svc.inject deps (deps.parseAppId "_ubuntu-push-client") systemUpdateUrl jsonNotif
    (r.1, 0, r.2)

end PostalService

end UbuntuPush.Service
