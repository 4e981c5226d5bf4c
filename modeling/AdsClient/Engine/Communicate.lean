import AdsClient.Engine.Invariants

/-!
# Replies reach their callers

What the invariants of `AdsClient.Engine.Invariants` say about `communicate`
as its callers see it: which slot a reply goes to, that a reply which comes in
time is not lost, what an `Ok` was checked against, and what is left in the
reply map once a call has returned.  The request a call writes, and what
happens to one that does not fit, close the module.
-/

namespace AdsClient

/-- The buffer in call `c`'s slot, if the call exists and has one. -/
def slotOf (s : Mux) (c : Nat) : Option Bytes := (s.calls c).bind Call.slot

section Slots

variable {s s' : Mux} {c : Nat}

theorem slotOf_setCall {c' : Nat} {call call' : Call} (found : s.calls c' = some call)
    (sameSlot : call'.slot = call.slot) : slotOf (s.setCall c' call') c = slotOf s c := by
  by_cases same : c = c'
  · subst same
    simp [slotOf, found, sameSlot]
  · simp [slotOf, Function.update_noteq same]

/-- Only the reader fills slots. -/
theorem step_slotOf {action : Action} (stepped : step s action = some s') (notRead : action ≠ .read) :
    slotOf s' c = slotOf s c := by
  cases action with
  | start c' cmd target dataIn dataOut =>
    obtain ⟨absent, rfl⟩ := step_start stepped
    by_cases same : c = c'
    · subst same
      unfold startCall
      simp only [slotOf, Mux.setCall_calls, Function.update_same, absent]
      split <;> rfl
    · simp [slotOf, Function.update_noteq same]
  | register c' =>
    obtain ⟨call, found, -, rfl⟩ := step_register stepped
    exact slotOf_setCall found rfl
  | write c' =>
    obtain ⟨call, found, -, rfl⟩ := step_write stepped
    exact slotOf_setCall found rfl
  | writeFail c' =>
    obtain ⟨call, found, -, rfl⟩ := step_writeFail stepped
    exact slotOf_setCall found rfl
  | receive c' =>
    obtain ⟨call, reply, found, -, -, rfl⟩ := step_receive stepped
    exact slotOf_setCall found rfl
  | timeout c' =>
    obtain ⟨call, found, -, -, rfl⟩ := step_timeout stepped
    exact slotOf_setCall found rfl
  | send bytes =>
    cases stepped
    rfl
  | read => exact absurd rfl notRead

theorem slotOf_deliver (invokeId : Nat) (buf : Bytes) (c : Nat) :
    slotOf (s.deliver invokeId buf) c =
      if s.registry invokeId = some c ∧ (s.calls c).isSome then some buf else slotOf s c := by
  rw [slotOf, Mux.deliver_calls]
  by_cases owner : s.registry invokeId = some c
  · cases found : s.calls c <;> simp [owner, found, slotOf]
  · simp [owner, slotOf]

end Slots

/-! ## Routing replies -/

section Routing

variable {s s' : Mux} {c : Nat}

/-- Every step that changes a slot is a pass of the reader that took a whole
reply off the socket, carrying the invoke id under which this call, still
without a reply, is registered; it fills that slot with the reply and no
other. -/
theorem step_fills_slot (reach : Reachable s) {action : Action} (stepped : step s action = some s')
    (changed : slotOf s' c ≠ slotOf s c) :
    action = .read ∧ ∃ buf packetLength rest invokeId call,
      readPacket s.socket = .ok (some (buf, packetLength, rest)) ∧
      dispatch s.source.bytes buf packetLength = .ok (.reply invokeId buf) ∧
      s.registry invokeId = some c ∧ s.calls c = some call ∧ call.invokeId.toNat = invokeId ∧
      call.slot = none ∧ s'.socket = rest ∧ slotOf s' c = some buf ∧
      ∀ c', c' ≠ c → slotOf s' c' = slotOf s c' := by
  by_cases isRead : action = .read
  · subst isRead
    obtain ⟨buf, packetLength, rest, read, handed | ⟨-, calls, -, -⟩⟩ := readStep_cases stepped
    · obtain ⟨invokeId, handedBuf, routed, rfl⟩ := handed
      obtain ⟨packet, read', framing⟩ := readPacket_spec s.socket
      rw [read, Except.ok.injEq] at read'
      subst read'
      obtain ⟨same, -⟩ := dispatch_reply_framed (framing buf packetLength rest rfl).1 routed
      subst handedBuf
      rw [slotOf_deliver] at changed ⊢
      split_ifs at changed with owned
      · obtain ⟨call, found, key, empty, -⟩ := reach.consistent.owner invokeId c owned.1
        refine ⟨rfl, buf, packetLength, rest, invokeId, call, read, routed, owned.1, found, key, empty,
          by simp, if_pos owned, fun c' other => ?_⟩
        rw [slotOf_deliver, if_neg fun owns => other (Option.some.inj (owns.1.symm.trans owned.1))]
        rfl
      · exact absurd rfl changed
    · exact absurd (by rw [slotOf, slotOf, calls]) changed
  · exact absurd (step_slotOf stepped isRead) changed

/-- A reply that the reader takes off the socket while its call is registered
and has no reply yet goes into that call's slot, in every run in which no two
calls in progress share an invoke id. -/
theorem reply_reaches_call {source : AmsAddr} {actions : List Action}
    (ran : run (Mux.init source) actions = some s) (distinct : LiveDistinctRun (Mux.init source) actions)
    (alive : s.readerAlive = true) {call : Call} (found : s.calls c = some call)
    (outstanding : call.phase.Outstanding) (empty : call.slot = none) {buf rest : Bytes}
    {packetLength : Nat} (read : readPacket s.socket = .ok (some (buf, packetLength, rest)))
    (routed : dispatch s.source.bytes buf packetLength = .ok (.reply call.invokeId.toNat buf)) :
    ∃ s', step s .read = some s' ∧ slotOf s' c = some buf := by
  have registered := (Mux.Waiting.init source).run distinct ran c call found outstanding empty
  refine ⟨_, readStep_of_reply alive read routed, ?_⟩
  rw [slotOf_deliver, if_pos ⟨registered, by simp [found]⟩]

/-- The request engine and the reader together: only the reader fills slots,
one per reply and only the one registered under the reply's invoke id; in a
run in which no two calls in progress ever share an invoke id, however far
the counter has wrapped, a reply that reaches the reader before its call has
timed out is delivered to it; and a call returns `Ok` only with a reply that
passed its checks and came from its target. -/
theorem communicate_reply_routing :
    (∀ (s s' : Mux) (action : Action) (c : Nat), Reachable s → step s action = some s' →
      slotOf s' c ≠ slotOf s c →
      action = .read ∧ ∃ buf packetLength rest invokeId call,
        readPacket s.socket = .ok (some (buf, packetLength, rest)) ∧
        dispatch s.source.bytes buf packetLength = .ok (.reply invokeId buf) ∧
        s.registry invokeId = some c ∧ s.calls c = some call ∧ call.invokeId.toNat = invokeId ∧
        call.slot = none ∧ s'.socket = rest ∧ slotOf s' c = some buf ∧
        ∀ c', c' ≠ c → slotOf s' c' = slotOf s c') ∧
    (∀ (source : AmsAddr) (actions : List Action) (s : Mux) (c : Nat) (call : Call) (buf rest : Bytes)
      (packetLength : Nat), run (Mux.init source) actions = some s →
      LiveDistinctRun (Mux.init source) actions → s.readerAlive = true → s.calls c = some call →
      call.phase.Outstanding → call.slot = none →
      readPacket s.socket = .ok (some (buf, packetLength, rest)) →
      dispatch s.source.bytes buf packetLength = .ok (.reply call.invokeId.toNat buf) →
      ∃ s', step s .read = some s' ∧ slotOf s' c = some buf) ∧
    (∀ (s : Mux) (c : Nat) (call : Call) (n : Nat) (filled : List Bytes),
      Reachable s → s.calls c = some call → call.phase = .returned (.ok (.ok (n, filled))) →
      ∃ reply, call.slot = some reply ∧ Accepted call.cmd call.invokeId call.request reply ∧
        slice reply 14 22 = .ok call.target.bytes) :=
  ⟨fun _ _ _ _ reach stepped changed => step_fills_slot reach stepped changed,
    fun _ _ _ _ _ _ _ _ ran distinct alive found outstanding empty read routed =>
      reply_reaches_call ran distinct alive found outstanding empty read routed,
    fun _ c call n filled reach found returned =>
      (reach.consistent.calls c call found).accepted n filled returned⟩

/-- A client at `5.1.2.3.1.1:851`. -/
def sampleClient : AmsAddr := ⟨⟨[5, 1, 2, 3, 1, 1], rfl⟩, 851⟩

/-- A device at `5.1.2.3.1.1:800`. -/
def sampleDevice : AmsAddr := ⟨⟨[5, 1, 2, 3, 1, 1], rfl⟩, 800⟩

/-- The device's reply to a `ReadState` request with invoke id 0: result word 0
and no data. -/
def sampleStateReply : Bytes :=
  [0, 0, 36, 0, 0, 0] ++ sampleClient.bytes ++ sampleDevice.bytes ++
    [4, 0, 5, 0, 4, 0, 0, 0, 0, 0, 0, 0, 0, 0, 0, 0] ++ [0, 0, 0, 0]

/-- A `ReadState` call registers and writes its request, and the reply arrives. -/
def sampleCall : List Action :=
  [.start 0 .readState sampleDevice [] [], .register 0, .write 0, .send sampleStateReply]

/-- The call waiting, with its reply on the socket. -/
def sampleWaiting : Mux := (run (Mux.init sampleClient) sampleCall).getD (Mux.init sampleClient)

/-- The reader's pass over the reply, and the end of the call's wait. -/
def sampleAnswer : List Action := sampleCall ++ [.read, .receive 0]

/-- The call after its reply. -/
def sampleAnswered : Mux := (run (Mux.init sampleClient) sampleAnswer).getD (Mux.init sampleClient)

theorem communicate_reply_routing_sample :
    (∃ s', step sampleWaiting .read = some s' ∧ slotOf s' 0 = some sampleStateReply) ∧
      ∃ call, sampleAnswered.calls 0 = some call ∧ call.phase = .returned (.ok (.ok (0, []))) ∧
        ∃ reply, call.slot = some reply ∧ Accepted call.cmd call.invokeId call.request reply ∧
          slice reply 14 22 = .ok call.target.bytes :=
  ⟨communicate_reply_routing.2.1 sampleClient sampleCall sampleWaiting 0 _ sampleStateReply [] 36 rfl
      ((Mux.Distinct.init sampleClient).liveDistinctRun rfl (by decide)) rfl rfl trivial rfl rfl rfl,
    _, rfl, rfl, communicate_reply_routing.2.2 sampleAnswered 0 _ 0 []
      ⟨sampleClient, sampleAnswer, rfl⟩ rfl rfl⟩

/-- Every state that an interleaving of the callers' and the reader's steps
reaches keeps both invariants of the registry while `fetch_add` has not
wrapped: each call is valid and each reply-map entry is the empty slot of its
call; invoke ids are below the counter and distinct, and every call still
waiting without a reply is registered. -/
theorem reachable_registry_invariants {s : Mux} (reach : Reachable s) (bound : s.nextId ≤ 2 ^ 32) :
    s.Consistent ∧ s.Distinct :=
  ⟨reach.consistent, reach.distinct bound⟩

theorem reachable_registry_invariants_sample :
    Reachable sampleWaiting ∧ sampleWaiting.nextId ≤ 2 ^ 32 ∧ sampleWaiting.Consistent ∧ sampleWaiting.Distinct :=
  have reach : Reachable sampleWaiting := ⟨sampleClient, sampleCall, rfl⟩
  ⟨reach, by decide, reachable_registry_invariants reach (by decide)⟩

end Routing

/-! ## What a returned call leaves in the reply map -/

section Cleanup

variable {s s' : Mux} {c : Nat}

/-- While invoke ids are distinct, a call that has returned other than through
a failed write has no entry left in the reply map. -/
theorem returned_entry_cleared (reach : Reachable s) (bound : s.nextId ≤ 2 ^ 32) {call : Call}
    (found : s.calls c = some call)
    {result : Except Panic (Except AdsError (Nat × List Bytes))}
    (returned : call.phase = .returned result) (notWriteFailure : result ≠ .ok (.error .transport)) :
    s.registry call.invokeId.toNat = none := by
  cases entry : s.registry call.invokeId.toNat with
  | none => rfl
  | some owner =>
    obtain ⟨call', found', key, -, owns⟩ := reach.consistent.owner _ owner entry
    have same := (reach.distinct bound).injective owner c call' call found' found (UInt32.toNat.inj key)
    subst same
    rw [found] at found'
    cases found'
    rw [returned] at owns
    exact absurd owns notWriteFailure

theorem returned_entry_cleared_sample :
    Reachable sampleAnswered ∧ sampleAnswered.nextId ≤ 2 ^ 32 ∧
      ∃ call, sampleAnswered.calls 0 = some call ∧ call.phase = .returned (.ok (.ok (0, []))) ∧
        sampleAnswered.registry call.invokeId.toNat = none :=
  have reach : Reachable sampleAnswered := ⟨sampleClient, sampleAnswer, rfl⟩
  ⟨reach, by decide, _, rfl, rfl,
    @returned_entry_cleared sampleAnswered 0 reach (by decide) _ rfl _ rfl fun transport => (by cases transport)⟩

/-- `self.client.write(&request)?` returns before `map_ch_err!` exists, so a
call whose write fails before its reply has come leaves its entry behind. -/
theorem writeFail_keeps_entry (reach : Reachable s) (bound : s.nextId ≤ 2 ^ 32) {call : Call}
    (found : s.calls c = some call) (empty : call.slot = none)
    (stepped : step s (.writeFail c) = some s') :
    s'.registry call.invokeId.toNat = some c := by
  obtain ⟨call', found', registered, rfl⟩ := step_writeFail stepped
  rw [found] at found'
  cases found'
  exact (reach.distinct bound).waiting c call found (by rw [registered]; trivial) empty

/-- A `ReadState` call registered, its request not yet written. -/
def sampleRegistered : Mux :=
  (run (Mux.init sampleClient) [.start 0 .readState sampleDevice [] [], .register 0]).getD (Mux.init sampleClient)

theorem writeFail_keeps_entry_sample :
    Reachable sampleRegistered ∧ sampleRegistered.nextId ≤ 2 ^ 32 ∧
      ∃ call s', sampleRegistered.calls 0 = some call ∧ call.slot = none ∧
        step sampleRegistered (.writeFail 0) = some s' ∧ s'.registry call.invokeId.toNat = some 0 :=
  have reach : Reachable sampleRegistered :=
    ⟨sampleClient, [.start 0 .readState sampleDevice [] [], .register 0], rfl⟩
  ⟨reach, by decide, _, _, rfl, rfl, rfl,
    @writeFail_keeps_entry sampleRegistered _ 0 reach (by decide) _ rfl rfl rfl⟩

/-- The failing run: a `ReadState` call registers, its write fails, and it
returns the transport error with its entry still in the reply map. -/
theorem write_failure_leaves_entry :
    ∃ s, run (Mux.init sampleClient)
        [.start 0 .readState sampleDevice [] [], .register 0, .writeFail 0] = some s ∧
      (s.calls 0).map Call.phase = some (.returned (.ok (.error .transport))) ∧
      s.registry 0 = some 0 :=
  ⟨_, rfl, rfl, rfl⟩

end Cleanup

/-! ## The request on the wire -/

theorem startCall_of_overflow {s : Mux} {cmd : Command} {target : AmsAddr} {dataIn dataOut : List Bytes}
    (overflow : ¬ 32 + (dataIn.map List.length).sum < 2 ^ 32) :
    startCall s cmd target dataIn dataOut =
      ⟨cmd, target, UInt32.ofNat s.nextId, dataIn, [], dataOut, .returned (.ok (.error .invalidData)),
        none⟩ := by
  simp only [startCall, buildRequest_of_overflow overflow]

/-- The request of a call whose data fits is the header `communicate` builds,
then the data; the fixed offsets at which the reader and `communicate` read a
frame give back every header field, and the length fields satisfy the reader's
consistency check.  A call whose data does not fit returns `InvalidData` before
it touches the reply map or the socket. -/
theorem communicate_request_frame (cmd : Command) (target source : AmsAddr) (invokeId : UInt32)
    (dataIn : List Bytes) :
    (32 + (dataIn.map List.length).sum < 2 ^ 32 →
      ∃ request, buildRequest cmd target source invokeId dataIn = .ok request ∧
        request.length = AMS_HEADER_SIZE + (dataIn.map List.length).sum ∧
        request = (requestHeader cmd target source invokeId (dataIn.map List.length).sum).asBytes ++
          dataIn.flatten ∧
        readField request 0 2 = .ok 0 ∧
        readField request 2 6 = .ok (32 + (dataIn.map List.length).sum) ∧
        slice request 6 14 = .ok target.bytes ∧ slice request 14 22 = .ok source.bytes ∧
        readField request 22 24 = .ok cmd.code ∧ readField request 24 26 = .ok 4 ∧
        readField request 26 30 = .ok (dataIn.map List.length).sum ∧
        readField request 30 34 = .ok 0 ∧ readField request 34 38 = .ok invokeId.toNat ∧
        sliceFrom request AMS_HEADER_SIZE = .ok dataIn.flatten ∧
        checkedSub (32 + (dataIn.map List.length).sum + TCP_HEADER_SIZE) AMS_HEADER_SIZE =
          .ok (dataIn.map List.length).sum) ∧
    (¬ 32 + (dataIn.map List.length).sum < 2 ^ 32 →
      buildRequest cmd target source invokeId dataIn = .error .invalidData ∧
      ∀ (s : Mux) (c : Nat) (dataOut : List Bytes), s.calls c = none →
        ∃ s', step s (.start c cmd target dataIn dataOut) = some s' ∧
          s'.registry = s.registry ∧ s'.written = s.written ∧ s'.socket = s.socket ∧
          (s'.calls c).map Call.phase = some (.returned (.ok (.error .invalidData))) ∧
          step s' (.register c) = none ∧ step s' (.write c) = none) := by
  constructor
  · intro fits
    obtain ⟨ams, length, destination, source, command, stateFlags, dataLength, errorCode, invoke,
      payload⟩ := AdsHeader.decodes (requestHeader cmd target source invokeId
        (dataIn.map List.length).sum) dataIn.flatten
    refine ⟨_, buildRequest_of_fits fits, by simp [AMS_HEADER_SIZE, length_join_eq_sum], rfl, ams,
      ?_, destination, source, ?_, stateFlags, ?_, errorCode, invoke, payload, ?_⟩
    · rw [length, requestHeader, toNat_ofNat_u32 fits]
    · rw [command, requestHeader, UInt16.toNat_ofNat_of_lt cmd.code_lt]
    · rw [dataLength, requestHeader, toNat_ofNat_u32 (by omega)]
    · rw [checkedSub_of_le (by unfold TCP_HEADER_SIZE AMS_HEADER_SIZE; omega), Except.ok.injEq]
      unfold TCP_HEADER_SIZE AMS_HEADER_SIZE
      omega
  · intro overflow
    refine ⟨buildRequest_of_overflow overflow, fun s c dataOut absent => ?_⟩
    have started : step s (.start c cmd target dataIn dataOut) =
        some ({ s with nextId := s.nextId + 1 }.setCall c ⟨cmd, target, UInt32.ofNat s.nextId, dataIn,
          [], dataOut, .returned (.ok (.error .invalidData)), none⟩) := by
      simp only [step, absent, startCall_of_overflow overflow]
    exact ⟨_, started, rfl, rfl, rfl, by simp, by simp [step], by simp [step]⟩

end AdsClient
