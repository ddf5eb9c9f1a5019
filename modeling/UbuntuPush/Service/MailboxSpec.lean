import UbuntuPush.Service.Mailbox

/-!
# The postal service refines one mailbox per app

What the postal service is for, said without D-Bus: each app id has a queue of undelivered
messages, a delivery appends to one queue, a pop-all hands out one queue whole and empties it,
and nothing else touches the queues. `Mailboxes` is that machine; `PostalCall.op` says which of
its steps a call of the service is, and the abstraction of a service is its `pending` function.

* `Mailboxes.run_fst_apply_of_no_take`, `Mailboxes.run_take_fst_apply` — at the abstract level,
  a take of `A` empties `A`'s queue and later steps other than a take of `A` only append the
  deliveries to `A`; so a take returns what was delivered since the previous take.
* `PostalService.call_refines` — one call is one abstract step: the mailboxes after the call and
  what the call hands out are the abstract step's, from the mailboxes before it.
* `PostalService.run_refines` — the same for any sequence of calls, by induction on it.
* `postal_refines_mailboxes` — the new postal service refines the empty mailboxes.
* `popAll_returns_since_previous` — assembled: on a new postal service, a successful `PopAll` of
  an app returns exactly the helper messages of the `Inject`s into it since its previous
  successful `PopAll` (or since the start), in order.
-/

namespace UbuntuPush.Service

/-- What one call does to the mailboxes: deliver a message to an app id, take an app id's whole
queue, or nothing.
Source: none: the abstract level of `PostalService`
Kind: D -/
inductive MailOp
  | deliver (appId msg : String)
  | take (appId : String)
  | skip
  deriving DecidableEq, Repr

/-- The message an operation delivers to app id `A`, if any.
Kind: D -/
def MailOp.deliveredTo (A : String) : MailOp → List String
  | .deliver B m => if B = A then [m] else []
  | _ => []

/-- The abstract state: each app id's undelivered messages, oldest first.
Kind: D -/
abbrev Mailboxes := String → List String

namespace Mailboxes

/-- No message anywhere.
Kind: D -/
def empty : Mailboxes := fun _ => []

/-- One abstract step, and what it hands out (`some` for a take).
Source: none: the purpose of `Inject` and `PopAll`
Kind: D -/
def step (q : Mailboxes) : MailOp → Mailboxes × Option (List String)
  | .deliver A m => (Function.update q A (q A ++ [m]), none)
  | .take A => (Function.update q A [], some (q A))
  | .skip => (q, none)

/-- A sequence of abstract steps, collecting what each hands out.
Kind: D -/
def run (q : Mailboxes) : List MailOp → Mailboxes × List (Option (List String))
  | [] => (q, [])
  | o :: os =>
    let r := step q o
    let rs := run r.1 os
    (rs.1, r.2 :: rs.2)

/-- Running two sequences is running the first, then the second from where it left off.
Source: none: infrastructure
Kind: L -/
theorem run_append (q : Mailboxes) (os os' : List MailOp) :
    run q (os ++ os') = ((run (run q os).1 os').1, (run q os).2 ++ (run (run q os).1 os').2) := by
  induction os generalizing q with
  | nil => rfl
  | cons o os ih => rw [List.cons_append]; simp only [run, ih, List.cons_append]

/-- A step other than a take of `A` appends to `A`'s queue what it delivers to `A`.
Source: none: the abstract level
Kind: L -/
theorem step_fst_apply_of_ne {o : MailOp} {A : String} (h : o ≠ .take A) (q : Mailboxes) :
    (step q o).1 A = q A ++ o.deliveredTo A := by
  cases o with
  | deliver B m =>
    by_cases hB : B = A
    · subst hB; simp [step, MailOp.deliveredTo]
    · simp [step, MailOp.deliveredTo, hB, Function.update_noteq (Ne.symm hB)]
  | take B =>
    have hB : A ≠ B := fun hAB => h (hAB ▸ rfl)
    simp [step, MailOp.deliveredTo, Function.update_noteq hB]
  | skip => simp [step, MailOp.deliveredTo]

/-- Without a take of `A`, `A`'s queue only grows, by the deliveries to `A`, in order.
Source: none: the abstract level
Kind: L -/
theorem run_fst_apply_of_no_take {A : String} {os : List MailOp} (h : ∀ o ∈ os, o ≠ .take A)
    (q : Mailboxes) : (run q os).1 A = q A ++ os.flatMap (MailOp.deliveredTo A) := by
  induction os generalizing q with
  | nil => simp [run]
  | cons o os ih =>
    simp only [List.forall_mem_cons] at h
    simp only [run, ih h.2, step_fst_apply_of_ne h.1, List.flatMap_cons, List.append_assoc]

/-- After a take of `A`, `A`'s queue holds exactly what later steps, none a take of `A`,
delivered to it.
Source: none: the abstract level
Kind: L -/
theorem run_take_fst_apply {A : String} {ys : List MailOp} (h : ∀ o ∈ ys, o ≠ .take A)
    (q : Mailboxes) (xs : List MailOp) :
    (run q (xs ++ .take A :: ys)).1 A = ys.flatMap (MailOp.deliveredTo A) := by
  rw [run_append, run, run_fst_apply_of_no_take h]
  simp [step]

end Mailboxes

namespace PostalReply

/-- What a reply hands out: the messages of a successful `PopAll`.
Kind: D -/
def taken : PostalReply → Option (List String)
  | .messages (.ok msgs) => some msgs
  | _ => none

/-- A reply hands out messages exactly when it is a successful `PopAll`'s.
Source: none: infrastructure
Kind: L -/
theorem taken_eq_some {r : PostalReply} {msgs : List String} :
    r.taken = some msgs ↔ r = .messages (.ok msgs) := by
  constructor
  · intro h
    rcases r with _ | _ | (_ | _) <;> simp_all [taken]
  · rintro rfl; rfl

end PostalReply

namespace PostalCall

variable (deps : PostalDeps)

/-- The abstract step a call performs: the delivery of the helper's message by the `Inject` it
makes, the take of the mailbox its `PopAll` pops, or nothing.
Kind: D -/
def op (c : PostalCall) : MailOp :=
  match c.injects deps, c.pops deps with
  | some (app, notif), _ => .deliver app.original (deps.helperRun app notif).message
  | none, some app => .take app.original
  | none, none => .skip

/-- Only a `PopAll` pops, and a `PopAll` injects nothing.
Source: `unnamed/part_001` (the dispatch of `Start`)
Kind: L -/
theorem injects_eq_none_of_pops {c : PostalCall} {app : AppId} (h : c.pops deps = some app) :
    c.injects deps = none := by
  cases c <;> simp_all

/-- What a call stores for `A` is what its abstract step delivers to `A`.
Source: none: infrastructure
Kind: L -/
theorem stored_eq_deliveredTo (A : String) (c : PostalCall) :
    c.stored deps A = (c.op deps).deliveredTo A := by
  unfold stored op
  rcases c.injects deps with _ | ⟨app, notif⟩
  · rcases c.pops deps with _ | app <;> rfl
  · by_cases h : app.original = A <;> simp [MailOp.deliveredTo, h]

/-- A call's abstract step is a take of `A` exactly when it is a successful `PopAll` of `A`.
Source: none: infrastructure
Kind: L -/
theorem op_eq_take_iff (c : PostalCall) (A : String) :
    c.op deps = .take A ↔ (c.pops deps).map AppId.original = some A := by
  unfold op
  rcases hp : c.pops deps with _ | app
  · rcases c.injects deps with _ | ⟨app, notif⟩ <;> simp
  · rw [injects_eq_none_of_pops deps hp]; simp

end PostalCall

namespace PostalService

variable {deps : PostalDeps}

/-- `pending_inject` for the whole mailbox map.
Source: `unnamed/part_001` Inject, lines 165-176
Kind: L -/
theorem pending_inject_eq (svc : PostalService) (app : AppId) (nid notif : String) :
    (svc.inject deps app nid notif).1.pending =
      Function.update svc.pending app.original
        (svc.pending app.original ++ [(deps.helperRun app notif).message]) := by
  funext A
  rw [pending_inject]
  by_cases h : app.original = A
  · subst h; simp
  · simp [h, Function.update_noteq (Ne.symm h)]

/-- `pending_notifications_of_ok` for the whole mailbox map.
Source: `unnamed/part_001` notifications, lines 134-143
Kind: L -/
theorem pending_notifications_eq {svc : PostalService} {path : String} {args : List DBusArg}
    {app : AppId} (h : deps.grabDBusPackageAndAppId path args 0 = .ok app) :
    (svc.notifications deps path args).1.pending = Function.update svc.pending app.original [] := by
  funext A
  rw [pending_notifications_of_ok h]
  by_cases hA : app.original = A
  · subst hA; simp
  · simp [hA, Function.update_noteq (Ne.symm hA)]

/-- **One call is one step of the abstract mailboxes.** The mailboxes after a call, and what the
call hands out, are those of the abstract step of its operation from the mailboxes before it.
Source: `unnamed/part_001` Inject, inject, notifications, InjectBroadcast, SetMessageHandler
Kind: P -/
theorem call_refines (svc : PostalService) (c : PostalCall) :
    ((svc.call deps c).1.pending, (svc.call deps c).2.taken) =
      Mailboxes.step svc.pending (c.op deps) := by
  cases c with
  | inject app nid notif =>
    simp [call, PostalCall.op, Mailboxes.step, PostalReply.taken, pending_inject_eq]
  | post path args nid =>
    cases h : postArgs deps path args <;>
      simp [call, PostalCall.op, Mailboxes.step, PostalReply.taken, dbusInject, h,
        Except.toOption, pending_inject_eq]
  | injectBroadcast =>
    cases h : deps.marshal broadcastOutput <;>
      simp [call, PostalCall.op, Mailboxes.step, PostalReply.taken, injectBroadcast, h,
        Except.toOption, pending_inject_eq]
  | popAll path args =>
    cases h : deps.grabDBusPackageAndAppId path args 0 with
    | error err =>
      simp [call, PostalCall.op, Mailboxes.step, PostalReply.taken, notifications_of_error h, h,
        Except.toOption]
    | ok app =>
      simp [call, PostalCall.op, Mailboxes.step, PostalReply.taken, notifications_of_ok h,
        pending_notifications_eq h, h, Except.toOption]
  | setMessageHandler callback => rfl

/-- The refinement over any sequence of calls, by induction on it.
Kind: P -/
theorem run_refines (svc : PostalService) (calls : List PostalCall) :
    ((svc.run deps calls).1.pending, (svc.run deps calls).2.map PostalReply.taken) =
      Mailboxes.run svc.pending (calls.map (PostalCall.op deps)) := by
  induction calls generalizing svc with
  | nil => rfl
  | cons c cs ih =>
    rw [List.map_cons, Mailboxes.run, ← call_refines, ← ih]
    rfl

/-- The mailboxes half of `run_refines`.
Source: none: infrastructure
Kind: L -/
theorem run_pending (svc : PostalService) (calls : List PostalCall) :
    (svc.run deps calls).1.pending = (Mailboxes.run svc.pending (calls.map (PostalCall.op deps))).1 :=
  congrArg Prod.fst (run_refines svc calls)

end PostalService

open PostalService in
/-- **The postal service refines one mailbox per app.** For every set of collaborators and every
sequence of calls on a new postal service: each app id's mailbox after the calls, and what each
call hands out (the messages of a successful `PopAll`, nothing for any other reply), are those
of the abstract mailboxes run from empty on the calls' operations, where an `Inject` (direct,
through `Post` or through `InjectBroadcast`) delivers the helper's message to its app id and a
`PopAll` whose arguments pass takes its app id's whole queue.
Source: `unnamed/part_001` Inject, inject, notifications, InjectBroadcast
Kind: P
Fidelity: exact
Hyps: none -/
theorem postal_refines_mailboxes (deps : PostalDeps) (calls : List PostalCall) :
    ((newPostalService deps).run deps calls).1.pending =
        (Mailboxes.run Mailboxes.empty (calls.map (PostalCall.op deps))).1 ∧
      ((newPostalService deps).run deps calls).2.map PostalReply.taken =
        (Mailboxes.run Mailboxes.empty (calls.map (PostalCall.op deps))).2 :=
  Prod.ext_iff.mp (run_refines (newPostalService deps) calls)

open PostalService in
/-- **A `PopAll` returns what was injected since the previous one.** For every set of
collaborators, on a new postal service: if `c₂` is a `PopAll` that passes its argument checks
for app id `A` and no call of `ys` is one, then `c₂`, made after `ys`, returns exactly the
helper messages of the `Inject`s into `A` among `ys`, in order; and so it does after
`xs ++ c₁ :: ys`, for any calls `xs` and any successful `PopAll` `c₁` of `A`.
Source: `unnamed/part_001` Inject, inject, notifications, InjectBroadcast
Kind: P
Fidelity: exact
Hyps: `c₂` (and `c₁`) pop `A`'s mailbox; no call of `ys` does -/
theorem popAll_returns_since_previous (deps : PostalDeps) (ys : List PostalCall)
    (c₂ : PostalCall) (A : String) (h₂ : (c₂.pops deps).map AppId.original = some A)
    (hys : ∀ c ∈ ys, (c.pops deps).map AppId.original ≠ some A) :
    (((newPostalService deps).run deps ys).1.call deps c₂).2 =
        .messages (.ok (ys.flatMap (PostalCall.stored deps A))) ∧
      ∀ xs c₁, (c₁.pops deps).map AppId.original = some A →
        (((newPostalService deps).run deps (xs ++ c₁ :: ys)).1.call deps c₂).2 =
          .messages (.ok (ys.flatMap (PostalCall.stored deps A))) := by
  have hys' : ∀ o ∈ ys.map (PostalCall.op deps), o ≠ .take A := by
    simpa [PostalCall.op_eq_take_iff] using hys
  have hstored : ys.flatMap (PostalCall.stored deps A) =
      (ys.map (PostalCall.op deps)).flatMap (MailOp.deliveredTo A) := by
    rw [funext (PostalCall.stored_eq_deliveredTo deps A), List.flatMap_map]
  have hpop : ∀ svc : PostalService, (svc.call deps c₂).2 = .messages (.ok (svc.pending A)) := by
    intro svc
    have h := congrArg Prod.snd (@call_refines deps svc c₂)
    rw [(PostalCall.op_eq_take_iff deps c₂ A).mpr h₂] at h
    exact PostalReply.taken_eq_some.mp h
  refine ⟨?_, fun xs c₁ h₁ => ?_⟩
  · rw [hpop, run_pending, Mailboxes.run_fst_apply_of_no_take hys', hstored]
    rfl
  · rw [hpop, run_pending, List.map_append, List.map_cons,
      (PostalCall.op_eq_take_iff deps c₁ A).mpr h₁, Mailboxes.run_take_fst_apply hys', hstored]

/-- Collaborators that answer every call: the helper's message is the notification itself and
every object path decodes to the app of that name.
Kind: D -/
def PostalDeps.echo : PostalDeps :=
  ⟨fun _ notif => ⟨notif, none⟩, fun path _ _ => .ok ⟨path, path⟩, fun _ _ _ => none, id,
    fun _ => .ok "", fun s => ⟨s, s⟩, fun _ _ _ => none⟩

/-- `popAll_returns_since_previous` on a trace: `m`, popped, then `n` for `a` and `o` for `b`;
the second `PopAll` of `a` returns `n` alone.
Kind: L -/
theorem popAll_returns_since_previous_echo :
    (((PostalService.newPostalService PostalDeps.echo).run PostalDeps.echo
        [.inject ⟨"a", "a"⟩ "1" "m", .popAll "a" [], .inject ⟨"a", "a"⟩ "2" "n",
          .inject ⟨"b", "b"⟩ "3" "o"]).1.call PostalDeps.echo (.popAll "a" [])).2 =
      .messages (.ok ["n"]) :=
  (popAll_returns_since_previous PostalDeps.echo [.inject ⟨"a", "a"⟩ "2" "n",
      .inject ⟨"b", "b"⟩ "3" "o"] (.popAll "a" []) "a" rfl (by simp)).2
    [.inject ⟨"a", "a"⟩ "1" "m"] (.popAll "a" []) rfl

end UbuntuPush.Service
