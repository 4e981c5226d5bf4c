import AdsClient.Engine.Request

/-!
# What `communicate` does with a reply

Once the reader has handed a reply buffer to the waiting caller,
`ClientInner::communicate` compares its source address with the request's
destination, reads the reply's fields through a cursor, checks them in a fixed
order, and copies the payload after the result word into the caller's output
buffers, each filled up to its length or to what is left of the payload.

`communicateReply` is that part of `communicate`, cut at its checks into
`acceptReply` and `copyOut`; `scatter` is its copy loop.
The main results are `scatter_spec` (what the output buffers hold afterwards)
and `communicateReply_framed` (what an `Ok` says about a reply the reader
framed).
-/

namespace AdsClient

/-- The fields `communicate` reads from a reply. -/
structure ReplyFields where
  command : Nat
  stateFlags : Nat
  dataLength : Nat
  errorCode : Nat
  invokeId : Nat
  result : Nat
  deriving DecidableEq, Repr

/-- Lines 391–401 of `client.rs`: the cursor reads from `&reply[22..]`; the
result word is read only when the reply has one, and is 0 otherwise. -/
def readReplyFields (reply : Bytes) : Option ReplyFields := do
  let (command, ptr) ← readLe 2 (reply.drop 22)
  let (stateFlags, ptr) ← readLe 2 ptr
  let (dataLength, ptr) ← readLe 4 ptr
  let (errorCode, ptr) ← readLe 4 ptr
  let (invokeId, ptr) ← readLe 4 ptr
  let result ← if AMS_HEADER_SIZE + 4 ≤ reply.length then (readLe 4 ptr).map Prod.fst
    else some 0
  pure { command, stateFlags, dataLength, errorCode, invokeId, result }

/-- The checks of lines 403–423, in their order. -/
def checkReply (cmd : Command) (invokeId : UInt32) (fields : ReplyFields) :
    Except AdsError Unit :=
  if fields.command ≠ cmd.code then .error (.io "unexpected command")
  else if fields.stateFlags ≠ 5 then .error (.io "unexpected state flags")
  else if fields.invokeId ≠ invokeId.toNat then .error (.io "unexpected invoke ID")
  else if fields.errorCode ≠ 0 then adsError cmd.action fields.errorCode
  else if fields.result ≠ 0 then adsError cmd.action fields.result
  else .ok ()

/-- The copy loop of lines 442–452: `buf[..n].copy_from_slice(&reply[offset..][..n])`
with `n = min(buf.len(), rest_len)`, leaving the loop once `rest_len` is zero. -/
def scatter (reply : Bytes) (offset restLen : Nat) : List Bytes → Except Panic (List Bytes)
  | [] => .ok []
  | buf :: bufs => do
    let n := min buf.length restLen
    let tail ← sliceFrom reply offset
    let chunk ← slice tail 0 n
    let filled := chunk ++ buf.drop n
    if restLen - n = 0 then pure (filled :: bufs)
    else do
      let rest ← scatter reply (offset + n) (restLen - n) bufs
      pure (filled :: rest)

/-- Lines 425–458: the return value, and the copy of the payload after the
result word into the output buffers. -/
def copyOut (reply : Bytes) (dataLength : Nat) :
    List Bytes → Except Panic (Except AdsError (Nat × List Bytes))
  | [] => pure (.ok (0, []))
  | dataOut@(first :: _) =>
    if dataLength < first.length + 4 then pure (.error (.io "got less data than expected"))
    else do
      let filled ← scatter reply (AMS_HEADER_SIZE + 4) (dataLength - 4) dataOut
      pure (.ok (dataLength - 4, filled))

/-- Lines 391–458: reading and checking the fields of a reply of at least 38 bytes. -/
def acceptReply (cmd : Command) (invokeId : UInt32) (reply : Bytes) (dataOut : List Bytes) :
    Except Panic (Except AdsError (Nat × List Bytes)) :=
  match readReplyFields reply with
  | none => pure (.error .unexpectedEof)
  | some fields =>
    match checkReply cmd invokeId fields with
    | .error error => pure (.error error)
    | .ok () => copyOut reply fields.dataLength dataOut

/-- Lines 380–458 of `client.rs`: `communicate` from the reply it received to its
result, with the output buffers as the caller sees them afterwards. -/
def communicateReply (cmd : Command) (invokeId : UInt32) (request reply : Bytes)
    (dataOut : List Bytes) : Except Panic (Except AdsError (Nat × List Bytes)) := do
  let replySource ← slice reply 14 22
  let requestDestination ← slice request 6 14
  if replySource ≠ requestDestination then return .error (.io "unexpected source address")
  if reply.length < AMS_HEADER_SIZE then return .error (.io "reply too short")
  acceptReply cmd invokeId reply dataOut

/-! ## The copy loop -/

def capacity (bufs : List Bytes) : Nat := (bufs.map List.length).sum

@[simp] theorem capacity_nil : capacity [] = 0 := rfl

@[simp] theorem capacity_cons (buf : Bytes) (bufs : List Bytes) :
    capacity (buf :: bufs) = buf.length + capacity bufs := rfl

@[simp] theorem capacity_append (bufs more : List Bytes) :
    capacity (bufs ++ more) = capacity bufs + capacity more := by
  simp only [capacity, List.map_append, List.sum_append]

/-- When the payload lies inside the reply, the loop does not panic, keeps every
buffer's length, and leaves the buffers, read in order, holding the first
`min restLen capacity` payload bytes followed by their own remaining bytes. -/
theorem scatter_spec (reply : Bytes) (bufs : List Bytes) :
    ∀ offset restLen, offset + restLen ≤ reply.length →
      ∃ filled, scatter reply offset restLen bufs = .ok filled ∧
        filled.map List.length = bufs.map List.length ∧
        filled.flatten = (reply.drop offset).take (min restLen (capacity bufs)) ++
          bufs.flatten.drop (min restLen (capacity bufs)) := by
  induction bufs with
  | nil => intro offset restLen _; exact ⟨[], rfl, rfl, by simp⟩
  | cons buf bufs inductionHypothesis =>
      intro offset restLen inside
      have chunk : ∀ n, n ≤ restLen →
          slice (reply.drop offset) 0 n = .ok ((reply.drop offset).take n) := by
        intro n small
        rw [slice_of_le (Nat.zero_le _) (by simp; omega)]
        simp
      have tail : sliceFrom reply offset = .ok (reply.drop offset) :=
        sliceFrom_of_le (by omega)
      by_cases last : restLen ≤ buf.length
      · refine ⟨((reply.drop offset).take restLen ++ buf.drop restLen) :: bufs, ?_, ?_, ?_⟩
        · simp [scatter, tail, chunk restLen le_rfl, Nat.min_eq_right last]
        · simp; omega
        · simp [Nat.min_eq_left (show restLen ≤ buf.length + capacity bufs by omega),
            List.drop_append_of_le_length last]
      · obtain ⟨rest, scattered, lengths, contents⟩ :=
          inductionHypothesis (offset + buf.length) (restLen - buf.length) (by omega)
        refine ⟨(reply.drop offset).take buf.length :: rest, ?_, by simp [lengths]; omega, ?_⟩
        · simp [scatter, tail, chunk buf.length (by omega),
            Nat.min_eq_left (show buf.length ≤ restLen by omega),
            show restLen - buf.length ≠ 0 by omega, scattered]
        · have split : min restLen (buf.length + capacity bufs) =
              buf.length + min (restLen - buf.length) (capacity bufs) := by omega
          rw [List.flatten_cons, List.flatten_cons, contents, capacity_cons, split, List.take_add,
            List.drop_append,
            List.drop_drop, List.append_assoc]

/-! ## Reading and checking the reply -/

/-- The fields at their offsets in a reply of at least 38 bytes. -/
def replyFields (reply : Bytes) : ReplyFields :=
  { command := leValue ((reply.drop 22).take 2)
    stateFlags := leValue ((reply.drop 24).take 2)
    dataLength := leValue ((reply.drop 26).take 4)
    errorCode := leValue ((reply.drop 30).take 4)
    invokeId := leValue ((reply.drop 34).take 4)
    result := if AMS_HEADER_SIZE + 4 ≤ reply.length then leValue ((reply.drop 38).take 4) else 0 }

/-- On a reply of at least 38 bytes the cursor reads never fail. -/
theorem readReplyFields_of_long {reply : Bytes} (long : AMS_HEADER_SIZE ≤ reply.length) :
    readReplyFields reply = some (replyFields reply) := by
  unfold AMS_HEADER_SIZE at long
  simp only [readReplyFields, readLe_drop reply (rfl : 22 + 2 = 24) (by omega),
    readLe_drop reply (rfl : 24 + 2 = 26) (by omega), readLe_drop reply (rfl : 26 + 4 = 30) (by omega),
    readLe_drop reply (rfl : 30 + 4 = 34) (by omega), readLe_drop reply (rfl : 34 + 4 = 38) long,
    Option.bind_eq_bind, Option.some_bind, replyFields, AMS_HEADER_SIZE]
  split_ifs with withResult
  · rw [readLe_drop reply (rfl : 38 + 4 = 42) withResult]
    rfl
  · rfl

theorem readField_of_inside {buf : Bytes} {start stop : Nat} (ordered : start ≤ stop)
    (inside : stop ≤ buf.length) :
    readField buf start stop = .ok (leValue ((buf.drop start).take (stop - start))) :=
  readField_of_slice (slice_of_le ordered inside)

theorem checkReply_eq_ok {cmd : Command} {invokeId : UInt32} {fields : ReplyFields} :
    checkReply cmd invokeId fields = .ok () ↔
      fields.command = cmd.code ∧ fields.stateFlags = 5 ∧ fields.invokeId = invokeId.toNat ∧
        fields.errorCode = 0 ∧ fields.result = 0 := by
  unfold checkReply adsError
  split_ifs <;> simp_all

/-- The checks a reply has passed when `communicate` returns `Ok`: the source
address, the length, and then command, state flags, invoke id, error code
and result word, the last only when the reply has one. -/
structure Accepted (cmd : Command) (invokeId : UInt32) (request reply : Bytes) : Prop where
  source : slice reply 14 22 = slice request 6 14
  long : AMS_HEADER_SIZE ≤ reply.length
  command : readField reply 22 24 = .ok cmd.code
  stateFlags : readField reply 24 26 = .ok 5
  invokeIdField : readField reply 34 38 = .ok invokeId.toNat
  errorCode : readField reply 30 34 = .ok 0
  result : AMS_HEADER_SIZE + 4 ≤ reply.length → readField reply 38 42 = .ok 0

theorem communicateReply_eq_ok {cmd : Command} {invokeId : UInt32} {request reply : Bytes}
    {dataOut : List Bytes} {result : Except AdsError (Nat × List Bytes)}
    (returned : communicateReply cmd invokeId request reply dataOut = .ok result) :
    (slice reply 14 22 = slice request 6 14 ∧ AMS_HEADER_SIZE ≤ reply.length ∧
      acceptReply cmd invokeId reply dataOut = .ok result) ∨
    result = .error (.io "unexpected source address") ∨
    result = .error (.io "reply too short") := by
  unfold communicateReply at returned
  cases source : slice reply 14 22 with
  | error panic => simp [source] at returned
  | ok replySource =>
    cases destination : slice request 6 14 with
    | error panic => simp [source, destination] at returned
    | ok requestDestination =>
      simp only [source, destination, except_ok_bind] at returned
      split_ifs at returned with differ short
      · exact .inr (.inl (by simpa using returned.symm))
      · exact .inr (.inr (by simpa using returned.symm))
      · exact .inl ⟨by rw [not_not.mp differ], by omega, returned⟩

theorem copyOut_ok_of_ok {reply : Bytes} {dataLength : Nat} {dataOut : List Bytes}
    {result : Nat × List Bytes}
    (returned : copyOut reply dataLength dataOut = .ok (.ok result)) :
    (dataOut = [] ∧ result = (0, [])) ∨
    (∃ first rest, dataOut = first :: rest ∧ first.length + 4 ≤ dataLength ∧
      result.1 = dataLength - 4 ∧
      scatter reply (AMS_HEADER_SIZE + 4) (dataLength - 4) dataOut = .ok result.2) := by
  cases dataOut with
  | nil => simp [copyOut] at returned; exact .inl ⟨rfl, returned.symm⟩
  | cons first rest =>
    simp only [copyOut] at returned
    split_ifs at returned with short
    · simp at returned
    · cases scattered : scatter reply (AMS_HEADER_SIZE + 4) (dataLength - 4) (first :: rest) with
      | error panic => simp [scattered] at returned
      | ok filled =>
        simp only [scattered, except_ok_bind, except_pure, Except.ok.injEq] at returned
        exact .inr ⟨first, rest, rfl, by omega, by rw [← returned], by rw [← returned]⟩

theorem acceptReply_ok {cmd : Command} {invokeId : UInt32} {reply : Bytes}
    {dataOut : List Bytes} {result : Nat × List Bytes}
    (returned : acceptReply cmd invokeId reply dataOut = .ok (.ok result)) :
    ∃ fields, readReplyFields reply = some fields ∧ checkReply cmd invokeId fields = .ok () ∧
      copyOut reply fields.dataLength dataOut = .ok (.ok result) := by
  unfold acceptReply at returned
  split at returned
  · simp at returned
  · rename_i fields read
    split at returned
    · simp at returned
    · rename_i passed
      exact ⟨fields, read, passed, returned⟩

/-- `communicate` returns `Ok` only after every check of its reply passed. -/
theorem communicateReply_accepted {cmd : Command} {invokeId : UInt32} {request reply : Bytes}
    {dataOut : List Bytes} {result : Nat × List Bytes}
    (returned : communicateReply cmd invokeId request reply dataOut = .ok (.ok result)) :
    Accepted cmd invokeId request reply := by
  rcases communicateReply_eq_ok returned with ⟨source, long, accepted⟩ | failed | failed
  · obtain ⟨fields, read, passed, -⟩ := acceptReply_ok accepted
    rw [readReplyFields_of_long long, Option.some.injEq] at read
    subst read
    obtain ⟨command, stateFlags, invokeIdField, errorCode, resultWord⟩ :=
      checkReply_eq_ok.mp passed
    simp only [replyFields, AMS_HEADER_SIZE] at long command stateFlags invokeIdField errorCode resultWord
    refine ⟨source, long, ?_, ?_, ?_, ?_, ?_⟩
    · rw [readField_of_inside (by omega) (by omega)]; simpa using command
    · rw [readField_of_inside (by omega) (by omega)]; simpa using stateFlags
    · rw [readField_of_inside (by omega) (by omega)]; simpa using invokeIdField
    · rw [readField_of_inside (by omega) (by omega)]; simpa using errorCode
    · intro withResult
      simp only [AMS_HEADER_SIZE] at withResult
      rw [readField_of_inside (by omega) (by omega)]
      simpa [withResult] using resultWord
  all_goals cases failed

/-! ## Replies as the reader hands them on -/

/-- A reply as `Reader::run_inner` hands it to a waiting caller: a full header,
and a `data_length` field that counts exactly the bytes after it. -/
structure Framed (reply : Bytes) : Prop where
  long : AMS_HEADER_SIZE ≤ reply.length
  dataLengthField : readField reply 26 30 = .ok (reply.length - AMS_HEADER_SIZE)

/-- What the output buffers hold when `communicate` returns `Ok(n)`. -/
def Delivered (reply : Bytes) (dataOut : List Bytes) (n : Nat) (filled : List Bytes) : Prop :=
  match dataOut with
  | [] => n = 0 ∧ filled = []
  | _ :: _ =>
    n = reply.length - (AMS_HEADER_SIZE + 4) ∧
      filled.map List.length = dataOut.map List.length ∧
      filled.flatten = (reply.drop (AMS_HEADER_SIZE + 4)).take (min n (capacity dataOut)) ++
        dataOut.flatten.drop (min n (capacity dataOut))

theorem copyOut_framed {reply : Bytes} {dataLength : Nat} (dataOut : List Bytes)
    (counted : AMS_HEADER_SIZE + dataLength = reply.length) :
    (∃ result, copyOut reply dataLength dataOut = .ok result) ∧
    ∀ n filled, copyOut reply dataLength dataOut = .ok (.ok (n, filled)) →
      Delivered reply dataOut n filled := by
  cases dataOut with
  | nil =>
    refine ⟨⟨_, rfl⟩, fun n filled returned => ?_⟩
    simp only [copyOut, except_pure, Except.ok.injEq, Prod.mk.injEq] at returned
    obtain ⟨rfl, rfl⟩ := returned
    exact ⟨rfl, rfl⟩
  | cons first rest =>
    by_cases short : dataLength < first.length + 4
    · refine ⟨⟨.error (.io "got less data than expected"), by simp [copyOut, short]⟩,
        fun n filled returned => ?_⟩
      simp [copyOut, short] at returned
    · obtain ⟨filled, scattered, lengths, contents⟩ := scatter_spec reply (first :: rest)
        (AMS_HEADER_SIZE + 4) (dataLength - 4) (by simp only [AMS_HEADER_SIZE] at counted ⊢; omega)
      refine ⟨⟨.ok (dataLength - 4, filled), by simp [copyOut, short, scattered]⟩,
        fun n filled' returned => ?_⟩
      simp only [copyOut, short, if_false, scattered, except_ok_bind, except_pure,
        Except.ok.injEq, Prod.mk.injEq] at returned
      obtain ⟨rfl, rfl⟩ := returned
      simp only [Delivered, AMS_HEADER_SIZE] at counted contents ⊢
      exact ⟨by omega, lengths, contents⟩

/-- The `data_length` that `communicate` reads from a framed reply counts the
bytes after the header. -/
theorem Framed.counted {reply : Bytes} (framed : Framed reply) :
    AMS_HEADER_SIZE + (replyFields reply).dataLength = reply.length := by
  have long := framed.long
  have field := framed.dataLengthField
  simp only [AMS_HEADER_SIZE] at long
  rw [readField_of_inside (by omega) (by omega), Except.ok.injEq] at field
  simp only [AMS_HEADER_SIZE, Nat.reduceSub, replyFields] at field ⊢
  omega

/-- On a reply framed as the reader hands it on, `communicate` does not panic;
an `Ok` means every check passed, and the output buffers hold what the reply
carried after its result word. -/
theorem communicateReply_framed (cmd : Command) (invokeId : UInt32) {request reply : Bytes}
    (dataOut : List Bytes) (framed : Framed reply) (requestLong : 14 ≤ request.length) :
    (∃ result, communicateReply cmd invokeId request reply dataOut = .ok result) ∧
    ∀ n filled, communicateReply cmd invokeId request reply dataOut = .ok (.ok (n, filled)) →
      Accepted cmd invokeId request reply ∧ Delivered reply dataOut n filled := by
  have long := framed.long
  simp only [AMS_HEADER_SIZE] at long
  have counted := framed.counted
  have accept : acceptReply cmd invokeId reply dataOut =
      match checkReply cmd invokeId (replyFields reply) with
      | .error error => pure (.error error)
      | .ok () => copyOut reply (replyFields reply).dataLength dataOut := by
    rw [acceptReply, readReplyFields_of_long framed.long]
  constructor
  · simp only [communicateReply, slice_of_le (show 14 ≤ 22 by omega) (show 22 ≤ reply.length by omega),
      slice_of_le (show 6 ≤ 14 by omega) requestLong, except_ok_bind]
    split_ifs
    · exact ⟨_, rfl⟩
    · exact ⟨_, rfl⟩
    · rw [accept]
      split
      · exact ⟨_, rfl⟩
      · exact (copyOut_framed dataOut counted).1
  · intro n filled returned
    refine ⟨communicateReply_accepted returned, ?_⟩
    rcases communicateReply_eq_ok returned with ⟨-, -, accepted⟩ | failed | failed
    · rw [accept] at accepted
      split at accepted
      · simp at accepted
      · exact (copyOut_framed dataOut counted).2 n filled accepted
    all_goals cases failed

/-- An `Ok` with output buffers means the reply's `data_length` covered the
first of them and the result word. -/
theorem communicateReply_covers_first {cmd : Command} {invokeId : UInt32} {request reply : Bytes}
    (framed : Framed reply) {first : Bytes} {rest filled : List Bytes} {n : Nat}
    (returned : communicateReply cmd invokeId request reply (first :: rest) = .ok (.ok (n, filled))) :
    AMS_HEADER_SIZE + first.length + 4 ≤ reply.length := by
  rcases communicateReply_eq_ok returned with ⟨-, -, accepted⟩ | failed | failed
  · obtain ⟨fields, read, -, copied⟩ := acceptReply_ok accepted
    rw [readReplyFields_of_long framed.long, Option.some.injEq] at read
    subst read
    rcases copyOut_ok_of_ok copied with ⟨empty, -⟩ | ⟨first', rest', same, fits, -, -⟩
    · cases empty
    · cases same
      have := framed.counted
      omega
  all_goals cases failed

end AdsClient
