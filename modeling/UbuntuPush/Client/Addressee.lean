import UbuntuPush.Basic

/-!
# The push client's addressee cache

`PushClient.StartAddresseeBatch` and `PushClient.CheckForAddressee` of `client/client.go`. The
session calls `StartAddresseeBatch` once per batch of unicast notifications and then
`CheckForAddressee` on each; the client remembers, per app id, what the check answered, so that
`ParseAndVerifyAppId` runs once per app id and a missing app is reported on `unregisterCh` once.

* `checkForAddressee_of_mem` / `checkForAddressee_of_not_mem` — one check, from a client whose
  cache holds exactly the ids `seen` (`BatchInv`): a cached id is answered from the cache; a new
  one is verified, reported if missing, and cached, and the invariant moves to `id :: seen`.
* `checkAll_batchInv` — a whole batch, by induction on the notifications: the answers are the
  uncached ones, the verified ids and the reports follow `List.eraseDups.loop`.
* `checkForAddressee_batch` — from `StartAddresseeBatch`: each answer is `addresseeOf`, the
  uncached result; `ParseAndVerifyAppId` ran exactly on the batch's distinct app ids, in order of
  first occurrence; `unregisterCh` received one value per missing app id, in that order.

`ParseAndVerifyAppId` with the client's installed checker is a parameter `verify`, fixed for the
batch: the checker answers consistently within it. Logging is left out.
-/

namespace UbuntuPush.Client

/-- `protocol.Notification`: the app id it is addressed to, its message id and its payload.
Source: `client/client.go` CheckForAddressee (`notif.AppId`), handleUnicastNotification
(`msg.MsgId`, `msg.Payload`)
Kind: D
Fidelity: exact for the fields the client reads -/
structure Notification where
  appId : String
  msgId : String
  /-- The raw JSON bytes (`json.RawMessage`). -/
  payload : List UInt8
  deriving DecidableEq, Repr

/-- `click.ParseAndVerifyAppId(appId, client.installedChecker)`: the parsed app (`nil` when the
id does not parse) and the error, `click.ErrMissingApp` for an app that is not installed.
Source: `client/client.go` CheckForAddressee, line 344 (the function is not under `src/`)
Kind: D
Fidelity: left open -/
abbrev ParseAndVerifyAppId := String → Option AppId × Option GoError

/-- The fields of `PushClient` the addressee checks touch, and `verified`, the app ids handed to
`ParseAndVerifyAppId` so far, which the Go struct does not keep.
Source: `client/client.go` PushClient (`unregisterCh`, `trackAddressees`)
Kind: D
Fidelity: exact for the two fields; `unregisterCh` is the sequence of values sent on it -/
structure PushClient where
  /-- `trackAddressees`: `nil`, or a map from app id to the cached `*click.AppId` (`none` for an
  absent key, `some none` for a cached `nil`). -/
  trackAddressees : Option (String → Option (Option AppId))
  /-- The values sent on `unregisterCh`, in order. -/
  unregisterCh : List (Option AppId)
  /-- The app ids `ParseAndVerifyAppId` was called on, in order. -/
  verified : List String

namespace PushClient

variable (verify : ParseAndVerifyAppId)

/-- `StartAddresseeBatch()`: a fresh, empty `trackAddressees` map.
Source: `client/client.go` StartAddresseeBatch, lines 333-335
Kind: D
Fidelity: exact -/
def startAddresseeBatch (client : PushClient) : PushClient :=
  { client with trackAddressees := some fun _ => none }

/-- `client.trackAddressees[appId] = parsed`, which panics on a `nil` map.
Source: `client/client.go` CheckForAddressee, line 354
Kind: D
Fidelity: exact -/
def trackAddressee (client : PushClient) (appId : String) (parsed : Option AppId) :
    Except GoError PushClient :=
  match client.trackAddressees with
  | none => .error (.panic "assignment to entry in nil map")
  | some m => .ok { client with trackAddressees := some (Function.update m appId (some parsed)) }

/-- `CheckForAddressee(notif)`: answer from the cache if the app id is there; otherwise call
`ParseAndVerifyAppId`, and for `ErrMissingApp` send the parsed app on `unregisterCh` and answer
`nil`; cache the answer.
Source: `client/client.go` CheckForAddressee, lines 338-356
Kind: D
Fidelity: exact -/
def checkForAddressee (client : PushClient) (notif : Notification) :
    Except GoError (PushClient × Option AppId) :=
  let appId := notif.appId
  match client.trackAddressees.bind (· appId) with
  | some parsed => .ok (client, parsed)
  | none =>
    let r := verify appId
    let client := { client with verified := client.verified ++ [appId] }
    if r.2 = some .errMissingApp then
      let client := { client with unregisterCh := client.unregisterCh ++ [r.1] }
      (client.trackAddressee appId none).map (·, none)
    else
      (client.trackAddressee appId r.1).map (·, r.1)

/-- The checks of one batch, one notification after the other, stopping at a panic.
Source: `client/client.go` CheckForAddressee (as the session calls it per notification)
Kind: D
Fidelity: exact -/
def checkAll (client : PushClient) : List Notification →
    Except GoError (PushClient × List (Option AppId))
  | [] => .ok (client, [])
  | n :: ns =>
    match client.checkForAddressee verify n with
    | .error err => .error err
    | .ok (client, r) =>
      match checkAll client ns with
      | .error err => .error err
      | .ok (client, rs) => .ok (client, r :: rs)

end PushClient

/-- What `CheckForAddressee` answers without its cache: `ParseAndVerifyAppId`'s app, with
`ErrMissingApp` mapped to `nil`.
Source: `client/client.go` CheckForAddressee, lines 344-353
Kind: D
Fidelity: exact -/
def addresseeOf (verify : ParseAndVerifyAppId) (appId : String) : Option AppId :=
  if (verify appId).2 = some .errMissingApp then none else (verify appId).1

/-- The value a check of an app id sends on `unregisterCh`, if it sends one.
Kind: D -/
def missingApp (verify : ParseAndVerifyAppId) (appId : String) : Option (Option AppId) :=
  if (verify appId).2 = some .errMissingApp then some (verify appId).1 else none

/-- The cache a batch holds once it has seen the app ids `seen`: the uncached answer for each of
them, nothing for any other id.
Kind: D -/
def memo (verify : ParseAndVerifyAppId) (seen : List String) : String → Option (Option AppId) :=
  fun s => if s ∈ seen then some (addresseeOf verify s) else none

/-- Caching the uncached answer for a new id moves the cache from `seen` to `a :: seen`.
Source: `client/client.go` CheckForAddressee, line 354
Kind: L -/
theorem update_memo (verify : ParseAndVerifyAppId) (seen : List String) (a : String) :
    Function.update (memo verify seen) a (some (addresseeOf verify a)) = memo verify (a :: seen) := by
  funext s
  by_cases hs : s = a
  · subst hs; simp [memo]
  · simp [memo, Function.update_noteq hs, hs]

/-- A client in the middle of a batch that has seen the app ids `seen` (newest first): its cache
is `memo verify seen`, it has verified those ids in order of first occurrence after `v0`, and
reported the missing ones in that order after `u0`.
Kind: D -/
structure BatchInv (verify : ParseAndVerifyAppId) (v0 : List String) (u0 : List (Option AppId))
    (seen : List String) (client : PushClient) : Prop where
  track : client.trackAddressees = some (memo verify seen)
  verified : client.verified = v0 ++ seen.reverse
  unregistered : client.unregisterCh = u0 ++ seen.reverse.filterMap (missingApp verify)

namespace PushClient

variable {verify : ParseAndVerifyAppId} {v0 : List String} {u0 : List (Option AppId)}
  {seen : List String} {client : PushClient}

/-- A cached id is answered from the cache, with nothing verified or reported.
Source: `client/client.go` CheckForAddressee, lines 339-343
Kind: L -/
theorem checkForAddressee_of_mem (h : BatchInv verify v0 u0 seen client) (n : Notification)
    (hn : n.appId ∈ seen) :
    client.checkForAddressee verify n = .ok (client, addresseeOf verify n.appId) := by
  simp [checkForAddressee, h.track, memo, hn]

/-- A new id is verified, reported if missing, cached and answered uncached.
Source: `client/client.go` CheckForAddressee, lines 344-355
Kind: L -/
theorem checkForAddressee_of_not_mem (h : BatchInv verify v0 u0 seen client) (n : Notification)
    (hn : n.appId ∉ seen) :
    client.checkForAddressee verify n =
      .ok (⟨some (memo verify (n.appId :: seen)),
        client.unregisterCh ++ (missingApp verify n.appId).toList, client.verified ++ [n.appId]⟩,
        addresseeOf verify n.appId) := by
  rw [← update_memo]
  by_cases hmiss : (verify n.appId).2 = some .errMissingApp <;>
    simp [checkForAddressee, h.track, memo, hn, hmiss, trackAddressee, addresseeOf, missingApp,
      Except.map]

/-- After a check of a new id, the invariant holds with the id added.
Source: `client/client.go` CheckForAddressee
Kind: L -/
theorem batchInv_of_not_mem (h : BatchInv verify v0 u0 seen client) (n : Notification) :
    BatchInv verify v0 u0 (n.appId :: seen)
      ⟨some (memo verify (n.appId :: seen)),
        client.unregisterCh ++ (missingApp verify n.appId).toList, client.verified ++ [n.appId]⟩ := by
  refine ⟨rfl, by simp [h.verified], ?_⟩
  cases hf : missingApp verify n.appId <;> simp [h.unregistered, hf]

/-- The checks of a whole batch, by induction on its notifications.
Source: `client/client.go` CheckForAddressee
Kind: L -/
theorem checkAll_batchInv (h : BatchInv verify v0 u0 seen client) (ns : List Notification) :
    ∃ client', client.checkAll verify ns =
        .ok (client', ns.map (addresseeOf verify ∘ Notification.appId)) ∧
      client'.verified = v0 ++ List.eraseDups.loop (ns.map Notification.appId) seen ∧
      client'.unregisterCh =
        u0 ++ (List.eraseDups.loop (ns.map Notification.appId) seen).filterMap (missingApp verify) := by
  induction ns generalizing seen client with
  | nil =>
    exact ⟨client, rfl, by simp [List.eraseDups.loop, h.verified],
      by simp [List.eraseDups.loop, h.unregistered]⟩
  | cons n ns ih =>
    by_cases hn : n.appId ∈ seen
    · obtain ⟨client', hrun, hv, hu⟩ := ih h
      exact ⟨client', by simp [checkAll, checkForAddressee_of_mem h n hn, hrun],
        by simpa [List.eraseDups.loop, hn] using hv, by simpa [List.eraseDups.loop, hn] using hu⟩
    · obtain ⟨client', hrun, hv, hu⟩ := ih (batchInv_of_not_mem h n)
      exact ⟨client', by simp [checkAll, checkForAddressee_of_not_mem h n hn, hrun],
        by simpa [List.eraseDups.loop, hn] using hv, by simpa [List.eraseDups.loop, hn] using hu⟩

end PushClient

open PushClient in
/-- **The addressee cache agrees with the uncached check, and checks and reports once per app
id.** For every `ParseAndVerifyAppId` that answers consistently within the batch and every
sequence of notifications after `StartAddresseeBatch`: each `CheckForAddressee` returns what its
body computes without the cache (`addresseeOf`); `ParseAndVerifyAppId` runs exactly once per
distinct app id, in order of first occurrence; and `unregisterCh` receives one value per app id
found missing, in that order, and none for later occurrences.
Source: `client/client.go` StartAddresseeBatch, CheckForAddressee, lines 332-356
Kind: P
Fidelity: exact
Hyps: none -/
theorem checkForAddressee_batch (verify : ParseAndVerifyAppId) (client : PushClient)
    (ns : List Notification) :
    ∃ client', client.startAddresseeBatch.checkAll verify ns =
        .ok (client', ns.map (addresseeOf verify ∘ Notification.appId)) ∧
      client'.verified = client.verified ++ (ns.map Notification.appId).eraseDups ∧
      client'.unregisterCh =
        client.unregisterCh ++ (ns.map Notification.appId).eraseDups.filterMap (missingApp verify) :=
  checkAll_batchInv ⟨by simp [startAddresseeBatch, memo]; rfl, by simp [startAddresseeBatch],
    by simp [startAddresseeBatch]⟩ ns

end UbuntuPush.Client
