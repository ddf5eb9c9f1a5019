import UbuntuPush.Service.Postal

/-!
# Mailboxes hand out every message once, to its own app, in order

The postal service as a system: a `PostalCall` is one call into it (`Inject` from Go, the D-Bus
methods `Post` and `PopAll`, `InjectBroadcast`, `SetMessageHandler`), `PostalService.call` makes
one and `PostalService.run` a sequence, collecting the replies.

* Per operation: `inject_fst` and `pending_inject` (an `Inject` appends its helper message to
  its own app's mailbox, whatever the handler and the signal answer), `notifications_of_ok` and
  `pending_notifications_of_ok` (a `PopAll` returns the caller's mailbox and empties it), and the
  rejections `dbusInject_of_error`, `notifications_of_error` (state unchanged).
* `call_accounts` — one call, for every app id `A`: what it hands out from `A`'s mailbox followed
  by `A`'s mailbox after it equals `A`'s mailbox before it followed by what it stores for `A`.
* `run_accounts` — the same over any sequence of calls, by induction on the sequence.
* `postal_mailbox_ledger` — from `newPostalService`, the `PopAll` results for `A` followed by
  `A`'s mailbox are exactly the helper messages of the `Inject`s into `A`, in order; a
  successful `PopAll` returns and empties its app's mailbox; and a `Post` or `PopAll` rejected
  by its argument checks changes nothing.
-/

namespace UbuntuPush.Service

/-- One call into the postal service.
Source: `unnamed/part_001` (`Inject`, the dispatch map of `Start`, `InjectBroadcast`,
`SetMessageHandler`)
Kind: D
Fidelity: exact; `nid` of `post` is what `newNid()` returned -/
inductive PostalCall
  | inject (app : AppId) (nid notif : String)
  | post (path : String) (args : List DBusArg) (nid : String)
  | injectBroadcast
  | popAll (path : String) (args : List DBusArg)
  | setMessageHandler (callback : Option MessageHandler)

/-- What a call returns: an error (or `nil`), `InjectBroadcast`'s count and error, or `PopAll`'s
messages.
Source: `unnamed/part_001`
Kind: D
Fidelity: exact -/
inductive PostalReply
  | error (err : Option GoError)
  | count (n : UInt32) (err : Option GoError)
  | messages (r : Except GoError (List String))

namespace PostalService

variable (deps : PostalDeps)

/-- Make one call.
Source: `unnamed/part_001`
Kind: D
Fidelity: exact -/
def call (svc : PostalService) : PostalCall → PostalService × PostalReply
  | .inject app nid notif => let r := svc.inject deps app nid notif; (r.1, .error r.2)
  | .post path args nid => let r := svc.dbusInject deps path args nid; (r.1, .error r.2)
  | .injectBroadcast => let r := svc.injectBroadcast deps; (r.1, .count r.2.1 r.2.2)
  | .popAll path args => let r := svc.notifications deps path args; (r.1, .messages r.2)
  | .setMessageHandler h => (svc.setMessageHandler h, .error none)

/-- Make a sequence of calls, one after the other, collecting the replies.
Source: `unnamed/part_001` (the service's lock serialises the calls)
Kind: D
Fidelity: exact -/
def run (svc : PostalService) : List PostalCall → PostalService × List PostalReply
  | [] => (svc, [])
  | c :: cs =>
    let r := svc.call deps c
    let rs := run r.1 cs
    (rs.1, r.2 :: rs.2)

end PostalService

namespace PostalCall

variable (deps : PostalDeps)

/-- The `Inject` a call makes, if it gets that far: its app and notification.
Kind: D -/
@[simp] def injects : PostalCall → Option (AppId × String)
  | .inject app _ notif => some (app, notif)
  | .post path args _ => (PostalService.postArgs deps path args).toOption
  | .injectBroadcast => (deps.marshal PostalService.broadcastOutput).toOption.map
      fun json => (deps.parseAppId "_ubuntu-push-client", json)
  | _ => none

/-- The app a call pops the mailbox of: a `PopAll` whose arguments pass.
Kind: D -/
@[simp] def pops : PostalCall → Option AppId
  | .popAll path args => (deps.grabDBusPackageAndAppId path args 0).toOption
  | _ => none

/-- What a call stores for an app id: the helper's message, for an `Inject` into it.
Kind: D -/
def stored (appId : String) (c : PostalCall) : List String :=
  match c.injects deps with
  | some (app, notif) => if app.original = appId then [(deps.helperRun app notif).message] else []
  | none => []

/-- What a call, given its reply, hands out for an app id: the messages a `PopAll` of it
returned.
Kind: D -/
def handedOut (appId : String) (c : PostalCall) (r : PostalReply) : List String :=
  match c.pops deps, r with
  | some app, .messages (.ok msgs) => if app.original = appId then msgs else []
  | _, _ => []

end PostalCall

namespace PostalService

variable {deps : PostalDeps}

/-! ## One operation at a time -/

/-- Whatever the handler and the signal answer, `Inject` leaves the service with the message
appended.
Source: `unnamed/part_001` Inject, lines 165-176
Kind: L -/
theorem inject_fst (svc : PostalService) (app : AppId) (nid notif : String) :
    (svc.inject deps app nid notif).1 =
      { svc with mbox := some (Function.update (svc.mbox.getD fun _ => []) app.original
          ((svc.mbox.getD fun _ => []) app.original ++ [(deps.helperRun app notif).message])) } := by
  simp only [inject]
  split
  · rfl
  · split <;> rfl

/-- The mailbox of an app id, read with the empty default of a `nil` map.
Source: none: infrastructure
Kind: L -/
theorem pending_getD (svc : PostalService) (A : String) :
    svc.pending A = (svc.mbox.getD fun _ => []) A := by
  unfold pending; cases svc.mbox <;> rfl

/-- `Inject` appends its helper message to its own app's mailbox and to no other.
Source: `unnamed/part_001` Inject, lines 165-176
Kind: L -/
theorem pending_inject (svc : PostalService) (app : AppId) (nid notif A : String) :
    (svc.inject deps app nid notif).1.pending A =
      svc.pending A ++ if app.original = A then [(deps.helperRun app notif).message] else [] := by
  rw [inject_fst, pending_getD, pending_getD]
  by_cases h : app.original = A
  · subst h; simp
  · simp [h, Function.update_noteq (Ne.symm h)]

/-- A `Post` rejected by its argument checks returns their error and changes nothing.
Source: `unnamed/part_001` inject, lines 149-156
Kind: L -/
theorem dbusInject_of_error {svc : PostalService} {path : String} {args : List DBusArg}
    {err : GoError} (nid : String) (h : postArgs deps path args = .error err) :
    svc.dbusInject deps path args nid = (svc, some err) := by
  simp [dbusInject, h]

/-- A `PopAll` rejected by its argument check returns its error and changes nothing.
Source: `unnamed/part_001` notifications, lines 129-132
Kind: L -/
theorem notifications_of_error {svc : PostalService} {path : String} {args : List DBusArg}
    {err : GoError} (h : deps.grabDBusPackageAndAppId path args 0 = .error err) :
    svc.notifications deps path args = (svc, .error err) := by
  simp [notifications, h]

/-- A `PopAll` whose argument check passes returns the caller's mailbox.
Source: `unnamed/part_001` notifications, lines 134-143
Kind: L -/
theorem notifications_of_ok {svc : PostalService} {path : String} {args : List DBusArg}
    {app : AppId} (h : deps.grabDBusPackageAndAppId path args 0 = .ok app) :
    (svc.notifications deps path args).2 = .ok (svc.pending app.original) := by
  obtain ⟨_ | m, handler⟩ := svc <;> simp [notifications, pending, h]

/-- A `PopAll` whose argument check passes empties the caller's mailbox and no other.
Source: `unnamed/part_001` notifications, lines 134-143
Kind: L -/
theorem pending_notifications_of_ok {svc : PostalService} {path : String} {args : List DBusArg}
    {app : AppId} (h : deps.grabDBusPackageAndAppId path args 0 = .ok app) (A : String) :
    (svc.notifications deps path args).1.pending A =
      if app.original = A then [] else svc.pending A := by
  obtain ⟨_ | m, handler⟩ := svc
  · simp [notifications, pending, h]
  · by_cases hA : app.original = A
    · subst hA; simp [notifications, pending, h]
    · simp [notifications, pending, h, hA, Function.update_noteq (Ne.symm hA)]

/-! ## The ledger -/

/-- One call, for every app id `A`: what it hands out from `A`'s mailbox followed by `A`'s
mailbox after it is `A`'s mailbox before it followed by what it stores for `A`.
Source: `unnamed/part_001` Inject, inject, notifications, InjectBroadcast, SetMessageHandler
Kind: L -/
theorem call_accounts (svc : PostalService) (c : PostalCall) (A : String) :
    c.handedOut deps A (svc.call deps c).2 ++ (svc.call deps c).1.pending A =
      svc.pending A ++ c.stored deps A := by
  cases c with
  | inject app nid notif => simp [call, PostalCall.handedOut, PostalCall.stored, pending_inject]
  | post path args nid =>
    cases h : postArgs deps path args with
    | error err =>
      simp [call, PostalCall.handedOut, PostalCall.stored, dbusInject_of_error nid h, h,
        Except.toOption]
    | ok p =>
      simp [call, PostalCall.handedOut, PostalCall.stored, dbusInject, h, Except.toOption,
        pending_inject]
  | injectBroadcast =>
    cases h : deps.marshal broadcastOutput <;>
      simp [call, PostalCall.handedOut, PostalCall.stored, injectBroadcast, h, Except.toOption,
        pending_inject]
  | popAll path args =>
    cases h : deps.grabDBusPackageAndAppId path args 0 with
    | error err =>
      simp [call, PostalCall.handedOut, PostalCall.stored, notifications_of_error h, h,
        Except.toOption]
    | ok app =>
      simp only [call, PostalCall.handedOut, PostalCall.stored, PostalCall.pops,
        PostalCall.injects, h, Except.toOption, notifications_of_ok h,
        pending_notifications_of_ok h, List.append_nil]
      by_cases hA : app.original = A
      · subst hA; simp
      · simp [hA]
  | setMessageHandler callback =>
    simp [call, PostalCall.handedOut, PostalCall.stored, setMessageHandler, pending]

/-- The same over any sequence of calls, by induction on it.
Source: `unnamed/part_001`
Kind: L -/
theorem run_accounts (svc : PostalService) (calls : List PostalCall) (A : String) :
    (List.zipWith (PostalCall.handedOut deps A) calls (svc.run deps calls).2).flatten ++
        (svc.run deps calls).1.pending A =
      svc.pending A ++ calls.flatMap (PostalCall.stored deps A) := by
  induction calls generalizing svc with
  | nil => simp [run]
  | cons c cs ih =>
    simp only [run, List.zipWith_cons_cons, List.flatten_cons, List.flatMap_cons,
      List.append_assoc, ih]
    rw [← List.append_assoc, call_accounts, List.append_assoc]

end PostalService

open PostalService in
/-- **Every injected message is handed out exactly once, to its own app, in order.** For every
set of collaborators, every sequence of calls on a new postal service and every app id `A`: the
messages the successful `PopAll`s of `A` returned, in call order, followed by what is still in
`A`'s mailbox, are exactly the helper messages of the `Inject`s into `A` (direct, through `Post`,
or through `InjectBroadcast`), in order, whatever the message handler and the bus signal
answered. A successful `PopAll` returns its app's whole mailbox and leaves it empty, so no
message is handed out twice. A `Post` or `PopAll` rejected by its argument checks leaves the
service unchanged.
Source: `unnamed/part_001` Inject, inject, notifications, InjectBroadcast
Kind: P
Fidelity: exact
Hyps: none -/
theorem postal_mailbox_ledger (deps : PostalDeps) :
    (∀ (calls : List PostalCall) (A : String),
      (List.zipWith (PostalCall.handedOut deps A) calls
          ((newPostalService deps).run deps calls).2).flatten ++
        ((newPostalService deps).run deps calls).1.pending A =
      calls.flatMap (PostalCall.stored deps A)) ∧
    (∀ (svc : PostalService) path args app,
      deps.grabDBusPackageAndAppId path args 0 = .ok app →
      (svc.call deps (.popAll path args)).2 = .messages (.ok (svc.pending app.original)) ∧
        (svc.call deps (.popAll path args)).1.pending app.original = []) ∧
    (∀ (svc : PostalService) path args nid err, postArgs deps path args = .error err →
      (svc.call deps (.post path args nid)).1 = svc) ∧
    (∀ (svc : PostalService) path args err,
      deps.grabDBusPackageAndAppId path args 0 = .error err →
      (svc.call deps (.popAll path args)).1 = svc) := by
  refine ⟨fun calls A => ?_, fun svc path args app h => ⟨?_, ?_⟩,
    fun svc path args nid err h => ?_, fun svc path args err h => ?_⟩
  · simpa [newPostalService, pending] using run_accounts (newPostalService deps) calls A
  · simp [call, notifications_of_ok h]
  · simpa using @pending_notifications_of_ok deps svc path args app h app.original
  · simp [call, dbusInject_of_error nid h]
  · simp [call, notifications_of_error h]

end UbuntuPush.Service
