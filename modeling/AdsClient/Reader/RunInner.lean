import AdsClient.Engine.Reply
import AdsClient.Notification.Frame

/-!
# One pass of the reader loop

`Reader::run_inner` reads an AMS/TCP header and the packet it announces from
the socket, and then either returns (the connection is dropped and the reader
asks for a reconnect), skips the packet, hands it to the reply slot of the
invoke id it carries, or turns it into a notification.  `runInnerStep` is one
pass of that loop on the bytes the socket still holds; the registry lookup
that follows a `reply` is the multiplexer's.

Two things are proved about it.  The pass panics exactly on the ADS packets
that the code reads before it has checked their length (`dispatch_panics_iff`);
and every buffer it hands to a caller has a full header and a `data_length`
field that counts the rest (`dispatch_reply_framed`), which keeps the fixed
offsets at which `communicate` reads the reply in range.
-/

namespace AdsClient

/-- What one pass of the loop does with the packet it read: `return`,
`continue` without handing the buffer on, hand it to the reply slot registered
under the invoke id, or hand the notification `Notification::new` accepted to
the notification channel. -/
inductive ReaderEvent where
  | exit
  | skip
  | reply (invokeId : Nat) (buf : Bytes)
  | notify (notification : Notification)

/-- `read_exact` of the 6-byte AMS/TCP header and of the `packet_length` bytes
it announces; `none` when the socket ends first. -/
def readPacket (socket : Bytes) : Except Panic (Option (Bytes × Nat × Bytes)) :=
  if socket.length < TCP_HEADER_SIZE then .ok none
  else do
    let header := socket.take TCP_HEADER_SIZE
    let packetLength ← readField header 2 6
    let body := socket.drop TCP_HEADER_SIZE
    if body.length < packetLength then return none
    else return some (header ++ body.take packetLength, packetLength, body.drop packetLength)

/-- A reply: its invoke id is read through a cursor at byte 34. -/
def replyEvent (buf : Bytes) : Except Panic ReaderEvent := do
  let ptr ← sliceFrom buf 34
  match readLe 4 ptr with
  | some (invokeId, _) => return .reply invokeId buf
  | none => return .exit

/-- A notification: its state flags, error code and length word are read
first, then checked, the length word against `rest_length - 4`. -/
def notificationEvent (buf : Bytes) (restLength : Nat) : Except Panic ReaderEvent := do
  let stateFlags ← readField buf 24 26
  let errorCode ← readField buf 30 34
  let length ← readField buf 38 42
  if stateFlags ≠ 4 ∨ errorCode ≠ 0 then return .skip
  else
    let expectedLength ← checkedSub restLength 4
    if length ≠ expectedLength ∨ length < 4 then return .skip
    else return match Notification.new buf with
      | .ok notification => .notify notification
      | .error _ => .skip

/-- An ADS command packet (`ams_cmd` 0) of `6 + packetLength` bytes: the length
consistency check, the destination check, and the split into replies and
notifications. -/
def dispatchCommand (source buf : Bytes) (packetLength : Nat) : Except Panic ReaderEvent := do
  let restLength ← readField buf 26 30
  let expected ← checkedSub (packetLength + TCP_HEADER_SIZE) AMS_HEADER_SIZE
  if restLength ≠ expected then return .exit
  else
    let destination ← slice buf 6 14
    if destination ≠ source then return .skip
    else
      let command ← readField buf 22 24
      if command ≠ Command.notification.code then replyEvent buf
      else notificationEvent buf restLength

/-- What the loop does with a packet `buf` of `6 + packetLength` bytes, for a
client whose source address has the bytes `source`. -/
def dispatch (source buf : Bytes) (packetLength : Nat) : Except Panic ReaderEvent := do
  let amsCmd ← readField buf 0 2
  if amsCmd ≠ 0 then
    return if amsCmd ∈ [1, 4096, 4097, 4098] then .skip else .exit
  else dispatchCommand source buf packetLength

/-- One pass of the loop of `Reader::run_inner` on the bytes the socket holds:
what it does, and the bytes left for the next pass. -/
def runInnerStep (source socket : Bytes) : Except Panic (ReaderEvent × Bytes) := do
  match ← readPacket socket with
  | none => return (.exit, [])
  | some (buf, packetLength, rest) => return (← dispatch source buf packetLength, rest)

/-! ## Reading a packet -/

/-- Reading a packet never panics, and a packet read is the header and the
`packet_length` bytes it announces. -/
theorem readPacket_spec (socket : Bytes) :
    ∃ packet, readPacket socket = .ok packet ∧
      ∀ buf packetLength rest, packet = some (buf, packetLength, rest) →
        buf.length = TCP_HEADER_SIZE + packetLength ∧ socket = buf ++ rest := by
  unfold readPacket TCP_HEADER_SIZE
  by_cases short : socket.length < 6
  · exact ⟨none, by simp [short], by simp⟩
  · simp only [if_neg short]
    rw [@readField_of_inside (socket.take 6) 2 6 (by omega) (by simp; omega), except_ok_bind]
    simp only [Nat.reduceSub]
    by_cases truncated : (socket.drop 6).length < leValue (((socket.take 6).drop 2).take 4)
    · exact ⟨none, by simp only [truncated, if_true, except_pure], by simp⟩
    · refine ⟨_, by rw [if_neg truncated]; rfl, ?_⟩
      simp only [Option.some.injEq, Prod.mk.injEq, and_imp]
      rintro buf packetLength rest rfl rfl rfl
      refine ⟨?_, by simp only [List.append_assoc, List.take_append_drop]⟩
      rw [List.length_append, List.length_take_of_le (by omega),
        List.length_take_of_le (Nat.not_lt.mp truncated)]

/-! ## Panics -/

theorem notificationEvent_panics_iff {buf : Bytes} {restLength : Nat}
    (counted : buf.length = AMS_HEADER_SIZE + restLength) :
    (∃ panic, notificationEvent buf restLength = .error panic) ↔
      buf.length < AMS_HEADER_SIZE + 4 := by
  unfold AMS_HEADER_SIZE at counted ⊢
  constructor
  · rintro ⟨panic, failed⟩
    by_contra long
    simp only [notificationEvent, @readField_of_inside buf 24 26 (by omega) (by omega),
      @readField_of_inside buf 30 34 (by omega) (by omega),
      @readField_of_inside buf 38 42 (by omega) (by omega),
      checkedSub_of_le (by omega : 4 ≤ restLength), except_ok_bind] at failed
    split_ifs at failed <;> cases failed
  · intro short
    unfold notificationEvent
    cases readField buf 24 26 with
    | error panic => exact ⟨panic, rfl⟩
    | ok stateFlags =>
      cases readField buf 30 34 with
      | error panic => exact ⟨panic, rfl⟩
      | ok errorCode =>
        exact ⟨.indexOutOfRange, by simp only [except_ok_bind, readField_of_lt short, except_error_bind]⟩

theorem replyEvent_of_long {buf : Bytes} (long : AMS_HEADER_SIZE ≤ buf.length) :
    replyEvent buf = .ok (.reply (leValue ((buf.drop 34).take 4)) buf) := by
  unfold AMS_HEADER_SIZE at long
  simp only [replyEvent, sliceFrom_of_le (by omega : 34 ≤ buf.length), except_ok_bind,
    readLe_of_le (by simp only [List.length_drop]; omega : 4 ≤ (buf.drop 34).length), except_pure]

/-- An ADS command packet of 38 bytes or more panics only in the notification
branch, and then only when it is shorter than 42 bytes. -/
theorem dispatchCommand_panics_iff_of_long {source buf : Bytes} {packetLength : Nat}
    (read : buf.length = TCP_HEADER_SIZE + packetLength) (long : 32 ≤ packetLength) :
    (∃ panic, dispatchCommand source buf packetLength = .error panic) ↔
      readField buf 26 30 = .ok (packetLength - 32) ∧ slice buf 6 14 = .ok source ∧
        readField buf 22 24 = .ok Command.notification.code ∧ packetLength < 36 := by
  unfold TCP_HEADER_SIZE at read
  obtain ⟨restLength, restField⟩ : ∃ value, readField buf 26 30 = .ok value :=
    ⟨_, readField_of_inside (by omega) (by omega)⟩
  obtain ⟨destination, destinationSlice⟩ : ∃ bytes, slice buf 6 14 = .ok bytes :=
    ⟨_, slice_of_le (by omega) (by omega)⟩
  obtain ⟨command, commandField⟩ : ∃ value, readField buf 22 24 = .ok value :=
    ⟨_, readField_of_inside (by omega) (by omega)⟩
  simp only [dispatchCommand, restField, destinationSlice, commandField, except_ok_bind,
    checkedSub_of_le (by unfold AMS_HEADER_SIZE TCP_HEADER_SIZE; omega :
      AMS_HEADER_SIZE ≤ packetLength + TCP_HEADER_SIZE), Except.ok.injEq]
  unfold AMS_HEADER_SIZE TCP_HEADER_SIZE
  split_ifs with inconsistent foreign reply
  · simp only [except_pure, reduceCtorEq, exists_false, false_iff]
    omega
  · simp [foreign]
  · simp [@replyEvent_of_long buf (by unfold AMS_HEADER_SIZE; omega), reply]
  · rw [notificationEvent_panics_iff (by unfold AMS_HEADER_SIZE; omega)]
    simp only [not_not] at inconsistent foreign reply
    simp only [AMS_HEADER_SIZE, read, inconsistent, foreign, reply, true_and]
    omega

/-- A pass panics exactly on an ADS command packet (`ams_cmd` 0) that is too
short for the header fields it reads: one shorter than 38 bytes, whose
`buf[26..30]` read or `packet_length + 6 - 38` subtraction fails, or a
notification for this client with consistent lengths that is shorter than 42
bytes, whose `buf[38..42]` read fails.  This is the build with overflow
checks; in a release build the subtraction wraps, and a packet with
`packet_length` from 24 to 31 returns instead. -/
theorem dispatch_panics_iff {source buf : Bytes} {packetLength : Nat}
    (read : buf.length = TCP_HEADER_SIZE + packetLength) :
    (∃ panic, dispatch source buf packetLength = .error panic) ↔
      readField buf 0 2 = .ok 0 ∧
        (packetLength < 32 ∨
          readField buf 26 30 = .ok (packetLength - 32) ∧ slice buf 6 14 = .ok source ∧
            readField buf 22 24 = .ok Command.notification.code ∧ packetLength < 36) := by
  unfold TCP_HEADER_SIZE at read
  obtain ⟨amsCmd, amsField⟩ : ∃ value, readField buf 0 2 = .ok value :=
    ⟨_, readField_of_inside (by omega) (by omega)⟩
  simp only [dispatch, amsField, except_ok_bind]
  by_cases known : amsCmd = 0
  · simp only [known, ne_eq, not_true_eq_false, if_false, true_and]
    rcases Nat.lt_or_ge packetLength 32 with short | long
    · simp only [short, true_or, iff_true]
      unfold dispatchCommand
      cases readField buf 26 30 with
      | error panic => exact ⟨panic, rfl⟩
      | ok restLength =>
        exact ⟨_, by rw [except_ok_bind, checkedSub_of_lt (by unfold AMS_HEADER_SIZE TCP_HEADER_SIZE; omega),
          except_error_bind]⟩
    · rw [dispatchCommand_panics_iff_of_long (by unfold TCP_HEADER_SIZE; omega) long]
      simp only [Nat.not_lt.mpr long, false_or]
  · simp [known]

/-- A notification to `5.1.2.3.1.1:851` whose `data_length` is 2, two bytes
short of its `length` word. -/
def shortNotification : Bytes :=
  [0, 0, 34, 0, 0, 0] ++ [5, 1, 2, 3, 1, 1, 0x53, 3] ++ [5, 1, 2, 3, 1, 1, 0x20, 3] ++ [8, 0, 4, 0] ++
    [2, 0, 0, 0] ++ [0, 0, 0, 0] ++ [0, 0, 0, 0] ++ [1, 2]

theorem dispatch_panics_short_notification :
    shortNotification.length = TCP_HEADER_SIZE + 34 ∧
      ∃ panic, dispatch [5, 1, 2, 3, 1, 1, 0x53, 3] shortNotification 34 = .error panic :=
  have read : shortNotification.length = TCP_HEADER_SIZE + 34 := rfl
  ⟨read, (dispatch_panics_iff read).mpr ⟨rfl, .inr ⟨rfl, rfl, rfl, by decide⟩⟩⟩

/-- The failing input: a socket that delivers the six-byte AMS/TCP header
`00 00 00 00 00 00` (`ams_cmd` 0, `packet_length` 0).  The loop reads
`buf[26..30]` of the six-byte buffer and panics, whatever the client's
address. -/
theorem runInnerStep_empty_ads_packet (source : Bytes) :
    runInnerStep source [0, 0, 0, 0, 0, 0] = .error .indexOutOfRange := rfl

/-! ## Replies handed on -/

/-- A buffer the reader hands to a reply slot is the packet itself, has a full
header and a `data_length` field that counts the rest, is addressed to this
client, is not a notification, and carries the invoke id it was routed by. -/
theorem dispatch_reply_framed {source buf handed : Bytes} {packetLength invokeId : Nat}
    (read : buf.length = TCP_HEADER_SIZE + packetLength)
    (handedOn : dispatch source buf packetLength = .ok (.reply invokeId handed)) :
    handed = buf ∧ Framed buf ∧ slice buf 6 14 = .ok source ∧
      readField buf 34 38 = .ok invokeId ∧
      readField buf 22 24 ≠ .ok Command.notification.code := by
  unfold TCP_HEADER_SIZE at read
  simp only [dispatch, except_bind_eq_ok] at handedOn
  obtain ⟨amsCmd, -, handedOn⟩ := handedOn
  split_ifs at handedOn with nonzero known
  · cases handedOn
  · cases handedOn
  simp only [dispatchCommand, except_bind_eq_ok] at handedOn
  obtain ⟨restLength, restField, expected, subtracted, handedOn⟩ := handedOn
  unfold checkedSub at subtracted
  split_ifs at subtracted with long
  cases subtracted
  split_ifs at handedOn with inconsistent
  · cases handedOn
  simp only [except_bind_eq_ok] at handedOn
  obtain ⟨destination, destinationSlice, handedOn⟩ := handedOn
  split_ifs at handedOn with foreign
  · cases handedOn
  simp only [except_bind_eq_ok] at handedOn
  obtain ⟨command, commandField, handedOn⟩ := handedOn
  unfold AMS_HEADER_SIZE TCP_HEADER_SIZE at long inconsistent
  split_ifs at handedOn with reply
  · rw [replyEvent_of_long (by unfold AMS_HEADER_SIZE; omega)] at handedOn
    cases handedOn
    simp only [not_not] at inconsistent foreign
    refine ⟨rfl, ⟨by unfold AMS_HEADER_SIZE; omega, ?_⟩, foreign ▸ destinationSlice,
      readField_of_inside (by omega) (by omega), by rw [commandField]; simpa using reply⟩
    rw [restField, inconsistent, read, AMS_HEADER_SIZE, Nat.add_comm]
  · simp only [notificationEvent, except_bind_eq_ok] at handedOn
    obtain ⟨_, -, _, -, _, -, handedOn⟩ := handedOn
    split_ifs at handedOn
    · cases handedOn
    simp only [except_bind_eq_ok] at handedOn
    obtain ⟨_, -, handedOn⟩ := handedOn
    split_ifs at handedOn
    · cases handedOn
    split at handedOn <;> cases handedOn

/-- A pass that hands a buffer on has read it from the front of the socket as a
whole packet, and `dispatch` routed it. -/
theorem runInnerStep_reply {source socket reply rest : Bytes} {invokeId : Nat}
    (handedOn : runInnerStep source socket = .ok (.reply invokeId reply, rest)) :
    ∃ packetLength, socket = reply ++ rest ∧ reply.length = TCP_HEADER_SIZE + packetLength ∧
      dispatch source reply packetLength = .ok (.reply invokeId reply) := by
  obtain ⟨packet, read, framing⟩ := readPacket_spec socket
  simp only [runInnerStep, read, except_ok_bind] at handedOn
  rcases packet with _ | ⟨buf, packetLength, left⟩
  · cases handedOn
  simp only [except_bind_eq_ok] at handedOn
  obtain ⟨event, dispatched, handedOn⟩ := handedOn
  cases handedOn
  obtain ⟨length, split⟩ := framing buf packetLength rest rfl
  obtain ⟨rfl, -⟩ := (dispatch_reply_framed length dispatched)
  exact ⟨packetLength, split, length, dispatched⟩

/-! ## Replies through `communicate` -/

/-- Every reply buffer the reader hands on is framed, and `communicate`, with
any request it built and any output buffers, processes it without a panic.  An
`Ok(n)` means that the reply came from the request's target and passed every
check, and that the output buffers hold the payload after the result word. -/
theorem handed_reply_communicate {source socket reply rest : Bytes} {invokeId : Nat}
    (handedOn : runInnerStep source socket = .ok (.reply invokeId reply, rest)) :
    Framed reply ∧
      ∀ (cmd : Command) (target src : AmsAddr) (id : UInt32) (dataIn dataOut : List Bytes)
        (request : Bytes), buildRequest cmd target src id dataIn = .ok request →
        (∃ result, communicateReply cmd id request reply dataOut = .ok result) ∧
        ∀ n filled, communicateReply cmd id request reply dataOut = .ok (.ok (n, filled)) →
          slice reply 14 22 = .ok target.bytes ∧ Accepted cmd id request reply ∧
            Delivered reply dataOut n filled := by
  obtain ⟨packetLength, -, read, dispatched⟩ := runInnerStep_reply handedOn
  obtain ⟨-, framed, -⟩ := dispatch_reply_framed read dispatched
  refine ⟨framed, fun cmd target src id dataIn dataOut request built => ?_⟩
  obtain ⟨destination, long⟩ := buildRequest_destination built
  obtain ⟨processed, returned⟩ := @communicateReply_framed cmd id request reply dataOut framed
    (by unfold AMS_HEADER_SIZE at long; omega)
  refine ⟨processed, fun n filled ok => ?_⟩
  obtain ⟨accepted, delivered⟩ := returned n filled ok
  exact ⟨accepted.source.trans destination, accepted, delivered⟩

/-- A client at `5.1.2.3.1.1:851`, whose address has the bytes
`05 01 02 03 01 01 53 03`. -/
def sampleSource : Bytes := [5, 1, 2, 3, 1, 1, 0x53, 3]

/-- A 38-byte reply to it with invoke id 7 and no data. -/
def sampleReply : Bytes :=
  [0, 0, 32, 0, 0, 0] ++ sampleSource ++ [5, 1, 2, 3, 1, 1, 0x20, 3] ++
    [2, 0, 5, 0, 0, 0, 0, 0, 0, 0, 0, 0, 7, 0, 0, 0]

theorem handed_reply_communicate_sample :
    runInnerStep sampleSource sampleReply = .ok (.reply 7 sampleReply, []) ∧
      Framed sampleReply ∧
      ∀ (cmd : Command) (target src : AmsAddr) (id : UInt32) (dataIn dataOut : List Bytes)
        (request : Bytes), buildRequest cmd target src id dataIn = .ok request →
        (∃ result, communicateReply cmd id request sampleReply dataOut = .ok result) ∧
        ∀ n filled, communicateReply cmd id request sampleReply dataOut = .ok (.ok (n, filled)) →
          slice sampleReply 14 22 = .ok target.bytes ∧ Accepted cmd id request sampleReply ∧
            Delivered sampleReply dataOut n filled :=
  ⟨rfl, handed_reply_communicate (rfl : runInnerStep sampleSource sampleReply = _)⟩

end AdsClient
