import AdsClient.Reader.RunInner

/-!
# The request engine and the reader, together

`ClientInner::communicate` runs in any number of caller threads at once and
`Reader::run_inner` in one reader thread.  They share the reply map
(`reply_map`, from invoke ids to one-shot `DataCell` slots) and the socket.
`Mux` is what they share, together with each call's progress through
`communicate`, and `step` is one atomic step of one thread: a caller's
`fetch_add` and request (`start`), its insert into the reply map (`register`),
its write (`write`, `writeFail`), the end of its wait (`receive`, `timeout`),
bytes from the server arriving (`send`), or one pass of the reader loop
(`read`).

The reader's `remove` from the map and its `tx.set` are one step here: a call
whose wait ends between the two returns the timeout error either way.
Notifications and the buffer pool are left out; when the reader loop returns,
the connection is dropped with its unread bytes, and when it panics, the
reader thread is gone.
-/

namespace AdsClient

/-- Where one `communicate` call is: invoke id taken and request built, slot
in the reply map, request written and waiting on the slot, or returned (a
panic ends the caller's thread). -/
inductive Phase where
  | allocated
  | registered
  | waiting
  | returned (result : Except Panic (Except AdsError (Nat × List Bytes)))

/-- One `communicate` call: its arguments, its invoke id and request, where it
is, and the buffer the reader put into the `DataCell` it shares with the reply
map, if any. -/
structure Call where
  cmd : Command
  target : AmsAddr
  invokeId : UInt32
  dataIn : List Bytes
  request : Bytes
  dataOut : List Bytes
  phase : Phase
  slot : Option Bytes

/-- The client's shared state: its own address, the number of calls started
(`invoke_id` before wrapping), `reply_map` from invoke ids to the calls whose
slots are registered under them, the calls by a name of the caller's choosing,
the bytes the server sent that the reader has not read, the requests written,
and whether the reader thread is alive. -/
structure Mux where
  source : AmsAddr
  nextId : Nat
  registry : Nat → Option Nat
  calls : Nat → Option Call
  socket : Bytes
  written : List Bytes
  readerAlive : Bool

/-- A freshly connected client. -/
def Mux.init (source : AmsAddr) : Mux :=
  ⟨source, 0, fun _ => none, fun _ => none, [], [], true⟩

/-- One atomic step of one thread: `fetch_add` and the request (`start`),
`reply_map.lock().insert` (`register`), `self.client.write(&request)`
succeeding or failing (`write`, `writeFail`), the wait returning the reply or
failing, whereupon `map_ch_err!` removes the entry (`receive`, `timeout`),
bytes arriving from the server (`send`), and a pass of the reader loop
(`read`). -/
inductive Action where
  | start (call : Nat) (cmd : Command) (target : AmsAddr) (dataIn dataOut : List Bytes)
  | register (call : Nat)
  | write (call : Nat)
  | writeFail (call : Nat)
  | receive (call : Nat)
  | timeout (call : Nat)
  | send (bytes : Bytes)
  | read

def Mux.setCall (s : Mux) (c : Nat) (call : Call) : Mux :=
  { s with calls := Function.update s.calls c (some call) }

def Mux.setEntry (s : Mux) (invokeId : Nat) (entry : Option Nat) : Mux :=
  { s with registry := Function.update s.registry invokeId entry }

@[simp] theorem Mux.setCall_calls (s : Mux) (c : Nat) (call : Call) :
    (s.setCall c call).calls = Function.update s.calls c (some call) := rfl
@[simp] theorem Mux.setCall_registry (s : Mux) (c : Nat) (call : Call) :
    (s.setCall c call).registry = s.registry := rfl
@[simp] theorem Mux.setCall_source (s : Mux) (c : Nat) (call : Call) :
    (s.setCall c call).source = s.source := rfl
@[simp] theorem Mux.setCall_nextId (s : Mux) (c : Nat) (call : Call) :
    (s.setCall c call).nextId = s.nextId := rfl
@[simp] theorem Mux.setCall_written (s : Mux) (c : Nat) (call : Call) :
    (s.setCall c call).written = s.written := rfl
@[simp] theorem Mux.setEntry_calls (s : Mux) (invokeId : Nat) (entry : Option Nat) :
    (s.setEntry invokeId entry).calls = s.calls := rfl
@[simp] theorem Mux.setEntry_registry (s : Mux) (invokeId : Nat) (entry : Option Nat) :
    (s.setEntry invokeId entry).registry = Function.update s.registry invokeId entry := rfl
@[simp] theorem Mux.setEntry_source (s : Mux) (invokeId : Nat) (entry : Option Nat) :
    (s.setEntry invokeId entry).source = s.source := rfl
@[simp] theorem Mux.setEntry_nextId (s : Mux) (invokeId : Nat) (entry : Option Nat) :
    (s.setEntry invokeId entry).nextId = s.nextId := rfl
@[simp] theorem Mux.setEntry_written (s : Mux) (invokeId : Nat) (entry : Option Nat) :
    (s.setEntry invokeId entry).written = s.written := rfl

/-- Lines 325–353 of `client.rs`: the call `communicate` starts, with the next
invoke id; a request that does not fit returns `InvalidData` at once. -/
def startCall (s : Mux) (cmd : Command) (target : AmsAddr) (dataIn dataOut : List Bytes) : Call :=
  let invokeId := UInt32.ofNat s.nextId
  match buildRequest cmd target s.source invokeId dataIn with
  | .ok request => ⟨cmd, target, invokeId, dataIn, request, dataOut, .allocated, none⟩
  | .error error => ⟨cmd, target, invokeId, dataIn, [], dataOut, .returned (.ok (.error error)), none⟩

/-- `if let Some(tx) = self.reply_map.lock().remove(&invoke_id) { tx.set(..) }`. -/
def Mux.deliver (s : Mux) (invokeId : Nat) (buf : Bytes) : Mux :=
  match s.registry invokeId with
  | none => s
  | some c =>
    match s.calls c with
    | some call => (s.setEntry invokeId none).setCall c { call with slot := some buf }
    | none => s.setEntry invokeId none

/-- One pass of the reader loop on the socket's bytes; it waits (`none`) until
a whole packet is there. -/
def Mux.readStep (s : Mux) : Option Mux :=
  if s.readerAlive then
    match readPacket s.socket with
    | .ok (some (buf, packetLength, rest)) =>
      let s := { s with socket := rest }
      match dispatch s.source.bytes buf packetLength with
      | .ok (.reply invokeId buf) => some (s.deliver invokeId buf)
      | .ok .exit => some { s with socket := [] }
      | .ok _ => some s
      | .error _ => some { s with readerAlive := false }
    | _ => none
  else none

/-- One step; `none` when the action is not enabled. -/
def step (s : Mux) : Action → Option Mux
  | .start c cmd target dataIn dataOut =>
    match s.calls c with
    | none => some ({ s with nextId := s.nextId + 1 }.setCall c (startCall s cmd target dataIn dataOut))
    | some _ => none
  | .register c =>
    match s.calls c with
    | some call@{ phase := .allocated, .. } =>
      some ((s.setCall c { call with phase := .registered }).setEntry call.invokeId.toNat (some c))
    | _ => none
  | .write c =>
    match s.calls c with
    | some call@{ phase := .registered, .. } =>
      some { s.setCall c { call with phase := .waiting } with written := s.written ++ [call.request] }
    | _ => none
  | .writeFail c =>
    match s.calls c with
    | some call@{ phase := .registered, .. } =>
      some (s.setCall c { call with phase := .returned (.ok (.error .transport)) })
    | _ => none
  | .receive c =>
    match s.calls c with
    | some call@{ phase := .waiting, slot := some reply, .. } =>
      some (s.setCall c { call with
        phase := .returned (communicateReply call.cmd call.invokeId call.request reply call.dataOut) })
    | _ => none
  | .timeout c =>
    match s.calls c with
    | some call@{ phase := .waiting, slot := none, .. } =>
      some ((s.setCall c { call with phase := .returned (.ok (.error .timeout)) }).setEntry
        call.invokeId.toNat none)
    | _ => none
  | .send bytes => some { s with socket := s.socket ++ bytes }
  | .read => s.readStep

/-- The state a sequence of actions reaches, if each is enabled in turn. -/
def run (s : Mux) : List Action → Option Mux
  | [] => some s
  | action :: rest => (step s action).bind (run · rest)

/-- A state some interleaving of steps reaches from a freshly connected client. -/
def Reachable (s : Mux) : Prop :=
  ∃ source actions, run (Mux.init source) actions = some s

/-! ## What each step does -/

@[simp] theorem Mux.deliver_registry (s : Mux) (invokeId : Nat) (buf : Bytes) :
    (s.deliver invokeId buf).registry = Function.update s.registry invokeId none := by
  unfold Mux.deliver
  split
  · rename_i absent
    funext k
    by_cases same : k = invokeId
    · subst same
      simp [absent]
    · simp [Function.update_noteq same]
  · split <;> rfl

/-- The reader fills the slot registered under the invoke id, and no other. -/
theorem Mux.deliver_calls (s : Mux) (invokeId : Nat) (buf : Bytes) (c : Nat) :
    (s.deliver invokeId buf).calls c =
      if s.registry invokeId = some c then (s.calls c).map ({ · with slot := some buf })
      else s.calls c := by
  unfold Mux.deliver
  split
  · rename_i absent
    simp [absent]
  · rename_i owner registered
    split
    · rename_i call found
      by_cases same : c = owner
      · subst same
        simp [registered, found]
      · simp [registered, Ne.symm same, Function.update_noteq same]
    · rename_i missing
      by_cases same : c = owner
      · subst same
        simp [registered, missing]
      · simp [registered, Ne.symm same]

@[simp] theorem Mux.deliver_source (s : Mux) (invokeId : Nat) (buf : Bytes) :
    (s.deliver invokeId buf).source = s.source := by
  unfold Mux.deliver
  split
  · rfl
  · split <;> rfl

@[simp] theorem Mux.deliver_socket (s : Mux) (invokeId : Nat) (buf : Bytes) :
    (s.deliver invokeId buf).socket = s.socket := by
  unfold Mux.deliver
  split
  · rfl
  · split <;> rfl

@[simp] theorem Mux.deliver_nextId (s : Mux) (invokeId : Nat) (buf : Bytes) :
    (s.deliver invokeId buf).nextId = s.nextId := by
  unfold Mux.deliver
  split
  · rfl
  · split <;> rfl

section Inversion

variable {s s' : Mux} {c : Nat}

theorem step_start {cmd : Command} {target : AmsAddr} {dataIn dataOut : List Bytes}
    (stepped : step s (.start c cmd target dataIn dataOut) = some s') :
    s.calls c = none ∧
      s' = { s with nextId := s.nextId + 1 }.setCall c (startCall s cmd target dataIn dataOut) := by
  simp only [step] at stepped
  split at stepped
  · exact ⟨‹_›, (Option.some.inj stepped).symm⟩
  · cases stepped

theorem step_register (stepped : step s (.register c) = some s') :
    ∃ call, s.calls c = some call ∧ call.phase = .allocated ∧
      s' = (s.setCall c { call with phase := .registered }).setEntry call.invokeId.toNat (some c) := by
  simp only [step] at stepped
  split at stepped
  · exact ⟨_, ‹_›, rfl, (Option.some.inj stepped).symm⟩
  · cases stepped

theorem step_write (stepped : step s (.write c) = some s') :
    ∃ call, s.calls c = some call ∧ call.phase = .registered ∧
      s' = { s.setCall c { call with phase := .waiting } with written := s.written ++ [call.request] } := by
  simp only [step] at stepped
  split at stepped
  · exact ⟨_, ‹_›, rfl, (Option.some.inj stepped).symm⟩
  · cases stepped

theorem step_writeFail (stepped : step s (.writeFail c) = some s') :
    ∃ call, s.calls c = some call ∧ call.phase = .registered ∧
      s' = s.setCall c { call with phase := .returned (.ok (.error .transport)) } := by
  simp only [step] at stepped
  split at stepped
  · exact ⟨_, ‹_›, rfl, (Option.some.inj stepped).symm⟩
  · cases stepped

theorem step_receive (stepped : step s (.receive c) = some s') :
    ∃ call reply, s.calls c = some call ∧ call.phase = .waiting ∧ call.slot = some reply ∧
      s' = s.setCall c { call with
        phase := .returned (communicateReply call.cmd call.invokeId call.request reply call.dataOut) } := by
  simp only [step] at stepped
  split at stepped
  · exact ⟨_, _, ‹_›, rfl, rfl, (Option.some.inj stepped).symm⟩
  · cases stepped

theorem step_timeout (stepped : step s (.timeout c) = some s') :
    ∃ call, s.calls c = some call ∧ call.phase = .waiting ∧ call.slot = none ∧
      s' = (s.setCall c { call with phase := .returned (.ok (.error .timeout)) }).setEntry
        call.invokeId.toNat none := by
  simp only [step] at stepped
  split at stepped
  · exact ⟨_, ‹_›, rfl, rfl, (Option.some.inj stepped).symm⟩
  · cases stepped

/-- A pass of the reader either hands a buffer on through `deliver`, or leaves
the reply map and the calls as they were. -/
theorem readStep_cases (stepped : s.readStep = some s') :
    ∃ buf packetLength rest, readPacket s.socket = .ok (some (buf, packetLength, rest)) ∧
      ((∃ invokeId handed, dispatch s.source.bytes buf packetLength = .ok (.reply invokeId handed) ∧
        s' = { s with socket := rest }.deliver invokeId handed) ∨
      (s'.registry = s.registry ∧ s'.calls = s.calls ∧ s'.source = s.source ∧
        s'.nextId = s.nextId)) := by
  unfold Mux.readStep at stepped
  split at stepped
  · split at stepped
    · rename_i buf packetLength rest read
      refine ⟨buf, packetLength, rest, read, ?_⟩
      dsimp only at stepped
      split at stepped
      · exact .inl ⟨_, _, ‹_›, (Option.some.inj stepped).symm⟩
      all_goals
        cases stepped
        exact .inr ⟨rfl, rfl, rfl, rfl⟩
    · cases stepped
  · cases stepped

/-- A live reader that finds a whole reply on the socket hands it on. -/
theorem readStep_of_reply {buf rest handed : Bytes} {packetLength invokeId : Nat}
    (alive : s.readerAlive = true) (read : readPacket s.socket = .ok (some (buf, packetLength, rest)))
    (routed : dispatch s.source.bytes buf packetLength = .ok (.reply invokeId handed)) :
    s.readStep = some ({ s with socket := rest }.deliver invokeId handed) := by
  simp only [Mux.readStep, alive, if_true, read]
  rw [routed]

end Inversion

end AdsClient
