import AdsClient.Device.Control
import AdsClient.Notification.Handles

/-!
# Notification calls as steps of the handle world

`add_notification` sends an `AddNotif` record, built with the same three
conversions in the same order as `AddNotifRequest::new` builds it for a
sum-up request, and reads the handle from a four-byte reply field; once the
exchange returned `Ok`, it inserts `(addr, handle)` into `notif_handles`.
`delete_notification` sends the handle and, once the exchange returned `Ok`,
removes the pair.  Neither touches the set on an error.

`NotifCall` gathers the four operations of `Device` that change
`notif_handles`; `NotifCall.perform` runs one and reports the `HandleCall` it
made.  The main result is `perform_runs_alone`: run with no other call in
progress, every operation that returned `Ok` changes the set exactly as the
handle world's `serve` step followed by the call's `update` steps does.  One
that returned `Err` changed nothing; when the server had processed it, it is
the world's `lose` step.
-/

namespace AdsClient

/-! ## The single calls -/

/-- The `AddNotif` record of `add_notification`: `length`, `max_delay` and
`cycle_time` converted to `u32` in this order. -/
def addNotifRecord (indexGroup indexOffset : UInt32) (attributes : Attributes) :
    Except AdsError Bytes := do
  let length ← toU32 attributes.length
  let maxDelay ← toU32 attributes.maxDelayMs
  let cycleTime ← toU32 attributes.cycleTimeMs
  pure (leBytes 4 indexGroup.toNat ++ leBytes 4 indexOffset.toNat ++ leBytes 4 length.toNat ++
    leBytes 4 attributes.transMode.code ++ leBytes 4 maxDelay.toNat ++ leBytes 4 cycleTime.toNat ++
    zeros 16)

/-- `Device::add_notification`: the handle and `notif_handles` afterwards. -/
def Device.addNotification (communicate : Exchange) (addr : AmsAddr) (handles : HandleSet)
    (indexGroup indexOffset : UInt32) (attributes : Attributes) :
    Except Panic (Except AdsError (Nat × HandleSet)) :=
  match addNotifRecord indexGroup indexOffset attributes with
  | .error error => pure (.error error)
  | .ok data => do
    match ← communicate [data] [zeros 4] with
    | .error error => pure (.error error)
    | .ok (_, filled) =>
      let handle := leValue (filled.getD 0 (zeros 4))
      pure (.ok (handle, insert (addr, handle) handles))

/-- `Device::delete_notification`: `notif_handles` afterwards. -/
def Device.deleteNotification (communicate : Exchange) (addr : AmsAddr) (handles : HandleSet)
    (handle : UInt32) : Except Panic (Except AdsError HandleSet) := do
  match ← communicate [leBytes 4 handle.toNat] [] with
  | .error error => pure (.error error)
  | .ok _ => pure (.ok (handles.erase (addr, handle.toNat)))

/-- On a reply as the reader hands it on, the handle `add_notification`
returns is the four bytes after the result word, and it is the one pair the
set gains. -/
theorem addNotification_framed {target source : AmsAddr} {invokeId : UInt32} {reply : Bytes}
    (framed : Framed reply) {addr : AmsAddr} {handles after : HandleSet}
    {indexGroup indexOffset : UInt32} {attributes : Attributes} {handle : Nat}
    (returned : Device.addNotification (communicateAs .addNotification target source invokeId reply)
      addr handles indexGroup indexOffset attributes = .ok (.ok (handle, after))) :
    AMS_HEADER_SIZE + 8 ≤ reply.length ∧ handle = leValue (window reply (AMS_HEADER_SIZE + 4) 4) ∧
      after = insert (addr, handle) handles := by
  unfold Device.addNotification at returned
  split at returned
  · cases returned
  · rcases exchanged : communicateAs .addNotification target source invokeId reply _ [zeros 4] with
      panic | error | ⟨n, filled⟩ <;> rw [exchanged] at returned
    · cases returned
    · cases returned
    obtain ⟨covers, rfl⟩ := communicateAs_one_buffer framed exchanged
    simp only [except_ok_bind, except_pure, Except.ok.injEq, Prod.mk.injEq, List.getD_cons_zero] at returned
    obtain ⟨rfl, rfl⟩ := returned
    exact ⟨covers, rfl, rfl⟩

/-- On-change notifications of four bytes, every 100 ms at most. -/
def sampleAttributes : Attributes := ⟨4, .serverOnChange, 0, 100⟩

theorem addNotification_framed_seven :
    Framed (sampleReadReply .addNotification [7, 0, 0, 0]) ∧
      Device.addNotification (communicateAs .addNotification sampleDevice sampleClient 0
        (sampleReadReply .addNotification [7, 0, 0, 0])) sampleDevice ∅ 0x4020 0 sampleAttributes =
          .ok (.ok (7, insert (sampleDevice, 7) ∅)) ∧
      7 = leValue (window (sampleReadReply .addNotification [7, 0, 0, 0]) (AMS_HEADER_SIZE + 4) 4) :=
  have framed : Framed (sampleReadReply .addNotification [7, 0, 0, 0]) := ⟨by decide, rfl⟩
  ⟨framed, rfl, (@addNotification_framed sampleDevice sampleClient 0 _ framed sampleDevice ∅ _ 0x4020 0
    sampleAttributes 7 rfl).2.1⟩

/-! ## The four calls as steps of the world -/

/-- An operation of `Device` that changes `notif_handles`, with its arguments. -/
inductive NotifCall where
  | add (indexGroup indexOffset : UInt32) (attributes : Attributes)
  | addMulti (requests : List AddNotifRequest)
  | delete (handle : UInt32)
  | deleteMulti (requests : List DelNotifRequest)

/-- The operation on the device at `addr`, with `notif_handles` at `handles`:
the call it made as its reply came back, and the set afterwards. -/
def NotifCall.perform (communicate : Exchange) (addr : AmsAddr) (handles : HandleSet) :
    NotifCall → Except Panic (Except AdsError (HandleCall × HandleSet))
  | add indexGroup indexOffset attributes =>
    (Device.addNotification communicate addr handles indexGroup indexOffset attributes).map
      (·.map fun (handle, after) => (.add addr handle, after))
  | addMulti requests =>
    (Device.addNotificationMulti communicate addr handles requests).map
      (·.map fun (requests, after) => (.addMulti addr requests, after))
  | delete handle =>
    (Device.deleteNotification communicate addr handles handle).map
      (·.map fun after => (.delete addr handle.toNat, after))
  | deleteMulti requests =>
    (Device.deleteNotificationMulti communicate addr handles requests).map
      (·.map fun (requests, after) => (.deleteMulti addr requests, after))

theorem addNotification_updates {communicate : Exchange} {addr : AmsAddr} {handles after : HandleSet}
    {indexGroup indexOffset : UInt32} {attributes : Attributes} {handle : Nat}
    (returned : Device.addNotification communicate addr handles indexGroup indexOffset attributes =
      .ok (.ok (handle, after))) :
    after = applyAll (HandleCall.add addr handle).updates handles := by
  unfold Device.addNotification at returned
  split at returned
  · cases returned
  · obtain ⟨result, -, returned⟩ := except_bind_eq_ok.mp returned
    split at returned
    · cases returned
    · simp only [except_pure, Except.ok.injEq, Prod.mk.injEq] at returned
      obtain ⟨rfl, rfl⟩ := returned
      rfl

theorem deleteNotification_updates {communicate : Exchange} {addr : AmsAddr} {handles after : HandleSet}
    {handle : UInt32}
    (returned : Device.deleteNotification communicate addr handles handle = .ok (.ok after)) :
    after = applyAll (HandleCall.delete addr handle.toNat).updates handles := by
  obtain ⟨result, -, returned⟩ := except_bind_eq_ok.mp returned
  split at returned
  · cases returned
  · cases returned
    rfl

theorem except_map_map_eq_ok {α β : Type} {x : Except Panic (Except AdsError α)} {g : α → β} {b : β}
    (mapped : x.map (·.map g) = .ok (.ok b)) : ∃ a, x = .ok (.ok a) ∧ g a = b := by
  rcases x with panic | error | a <;> simp only [Except.map, Except.ok.injEq, reduceCtorEq] at mapped
  exact ⟨a, rfl, mapped⟩

/-- Every operation that returned `Ok` made exactly the updates of the call it reports. -/
theorem perform_updates {communicate : Exchange} {addr : AmsAddr} {handles after : HandleSet}
    {operation : NotifCall} {request : HandleCall}
    (returned : operation.perform communicate addr handles = .ok (.ok (request, after))) :
    after = applyAll request.updates handles := by
  cases operation with
  | add indexGroup indexOffset attributes =>
    obtain ⟨⟨handle, after'⟩, performed, made⟩ := except_map_map_eq_ok returned
    cases made
    exact addNotification_updates performed
  | addMulti requests =>
    obtain ⟨⟨requests', after'⟩, performed, made⟩ := except_map_map_eq_ok returned
    cases made
    obtain ⟨-, -, -, -, -, rfl⟩ := addNotificationMulti_eq_ok performed
    exact recordHandles_eq_applyAll addr _ handles
  | delete handle =>
    obtain ⟨after', performed, made⟩ := except_map_map_eq_ok returned
    cases made
    exact deleteNotification_updates performed
  | deleteMulti requests =>
    obtain ⟨⟨requests', after'⟩, performed, made⟩ := except_map_map_eq_ok returned
    cases made
    obtain ⟨-, -, -, -, -, rfl⟩ := deleteNotificationMulti_eq_ok performed
    exact dropHandles_eq_applyAll addr _ handles

/-- A world whose pending updates are all of one call makes them, one `update`
step each, in the order the server confirmed them. -/
theorem World.run_updates {call : Nat} :
    ∀ (updates : List Update) (w : World), w.pending = updates.map (call, ·) →
      w.run (updates.map fun _ => .update call) =
        some { w with notifHandles := applyAll updates w.notifHandles, pending := [] } := by
  intro updates
  induction updates with
  | nil =>
    intro w pending
    simp only [List.map_nil] at pending
    cases w
    cases pending
    rfl
  | cons update rest inductionHypothesis =>
    intro w pending
    have popped : popFirst call w.pending = some (update, rest.map (call, ·)) := by
      rw [pending, List.map_cons, popFirst, if_pos rfl]
    simp only [List.map_cons, World.run, World.step, popped, Option.some_bind]
    exact inductionHypothesis _ rfl

/-- With no call in progress, a call the server can confirm, served and then
followed by its updates, leaves no call in progress and each set changed by
the call's updates. -/
theorem World.run_alone {w : World} (quiet : w.Quiet) (call : Nat) (request : HandleCall)
    (confirmable : Confirmable w.server request.updates) :
    w.run (.serve call request :: request.updates.map fun _ => .update call) =
      some { w with
        server := applyAll request.updates w.server
        notifHandles := applyAll request.updates w.notifHandles
        expected := applyAll request.updates w.expected
        pending := [] } := by
  have allowed : w.pending.all (·.1 ≠ call) = true ∧ Confirmable w.server request.updates := by
    rw [quiet]
    exact ⟨rfl, confirmable⟩
  simp only [World.run, World.step, if_pos allowed, Option.some_bind]
  rw [World.run_updates request.updates _ (by rw [quiet]; rfl)]

/-- Run with no other call in progress, every operation of `Device` on
notifications that returned `Ok` changes `notif_handles` as the handle
world's `serve` step for the call it made, followed by that call's `update`
steps, does: the faithful operations are runs of the world. -/
theorem perform_runs_alone {communicate : Exchange} {addr : AmsAddr} {w : World} (quiet : w.Quiet)
    {operation : NotifCall} {request : HandleCall} {after : HandleSet}
    (returned : operation.perform communicate addr w.notifHandles = .ok (.ok (request, after)))
    (call : Nat) (confirmable : Confirmable w.server request.updates) :
    ∃ next, w.run (.serve call request :: request.updates.map fun _ => .update call) = some next ∧
      next.notifHandles = after ∧ next.Quiet :=
  ⟨_, World.run_alone quiet call request confirmable, (perform_updates returned).symm, rfl⟩

/-- An exchange whose reply fills every buffer with the four-byte handle `handle`. -/
def handleReply (handle : Nat) : Exchange := fun _ dataOut => pure (.ok (4, dataOut.map fun _ => leBytes 4 handle))

theorem perform_runs_alone_add :
    World.init.Quiet ∧
      (NotifCall.add 0x4020 0 sampleAttributes).perform (handleReply 7) sampleDevice World.init.notifHandles =
        .ok (.ok (.add sampleDevice 7, insert (sampleDevice, 7) ∅)) ∧
      Confirmable World.init.server (HandleCall.add sampleDevice 7).updates ∧
      ∃ next, World.init.run (.serve 0 (.add sampleDevice 7) ::
          (HandleCall.add sampleDevice 7).updates.map fun _ => .update 0) = some next ∧
        next.notifHandles = insert (sampleDevice, 7) ∅ ∧ next.Quiet :=
  have returned : (NotifCall.add 0x4020 0 sampleAttributes).perform (handleReply 7) sampleDevice
      World.init.notifHandles = .ok (.ok (.add sampleDevice 7, insert (sampleDevice, 7) ∅)) := rfl
  have confirmable : Confirmable World.init.server (HandleCall.add sampleDevice 7).updates := by decide
  ⟨rfl, returned, confirmable,
    @perform_runs_alone (handleReply 7) sampleDevice World.init rfl _ _ _ returned 0 confirmable⟩

end AdsClient
