import AdsClient.Device.SumUp

/-!
# Single reads

`Device::read` asks for as many bytes as its buffer holds and hands
`communicate` two read buffers: a `read_len` word and the caller's buffer.  It
returns that word as the reply carried it.  Nothing compares the word with the
buffer's length or with the bytes the reply carried after it, and
`communicate` only asks the reply to reach past the word.  `write_read` does
the same after sending its write data, and `read_exact` and `write_read_exact`
accept the call when the word equals the buffer's length.

The main result is `readInto_framed`: after an `Ok`, the returned length is the
reply's word and the buffer starts with the bytes the reply carried after it,
as many as there were, keeping its own bytes after them.
`read_length_unchecked` shows the consequences on two replies.
-/

namespace AdsClient

/-- `communicate` for a request of command `cmd` to `target` from `source`
under `invokeId`, answered by `reply`. -/
def communicateAs (cmd : Command) (target source : AmsAddr) (invokeId : UInt32) (reply : Bytes) :
    Exchange :=
  fun dataIn dataOut =>
    match buildRequest cmd target source invokeId dataIn with
    | .error error => pure (.error error)
    | .ok request => communicateReply cmd invokeId request reply dataOut

/-- What `read` and `write_read` share after their header: the exchange with
`read_len` and the caller's buffer as read buffers, and `read_len.get()`.  The
buffer is returned as the call leaves it, also on an error. -/
def readInto (communicate : Exchange) (dataIn : List Bytes) (data : Bytes) :
    Except Panic (Except AdsError Nat × Bytes) := do
  match ← communicate dataIn [zeros 4, data] with
  | .error error => pure (.error error, data)
  | .ok (_, filled) => pure (.ok (leValue (filled.getD 0 (zeros 4))), filled.getD 1 data)

def Device.read (communicate : Exchange) (indexGroup indexOffset : UInt32) (data : Bytes) :
    Except Panic (Except AdsError Nat × Bytes) :=
  match toU32 data.length with
  | .error error => pure (.error error, data)
  | .ok length => readInto communicate [indexLength indexGroup.toNat indexOffset.toNat length.toNat] data

/-- `Device::write_read`: the read length is converted before the write length. -/
def Device.writeRead (communicate : Exchange) (indexGroup indexOffset : UInt32)
    (writeData readData : Bytes) : Except Panic (Except AdsError Nat × Bytes) :=
  match toU32 readData.length, toU32 writeData.length with
  | .error error, _ => pure (.error error, readData)
  | .ok _, .error error => pure (.error error, readData)
  | .ok readLength, .ok writeLength =>
    readInto communicate
      [indexLengthRW indexGroup.toNat indexOffset.toNat readLength.toNat writeLength.toNat, writeData]
      readData

/-- What `read_exact` and `write_read_exact` add: an error unless the returned
length is the buffer's. -/
def exactly (expected : Nat) : Except AdsError Nat × Bytes → Except AdsError Unit × Bytes
  | (.error error, data) => (.error error, data)
  | (.ok len, data) => (if len ≠ expected then .error (.io "got less data than expected") else .ok (), data)

def Device.readExact (communicate : Exchange) (indexGroup indexOffset : UInt32) (data : Bytes) :
    Except Panic (Except AdsError Unit × Bytes) :=
  (Device.read communicate indexGroup indexOffset data).map (exactly data.length)

def Device.writeReadExact (communicate : Exchange) (indexGroup indexOffset : UInt32)
    (writeData readData : Bytes) : Except Panic (Except AdsError Unit × Bytes) :=
  (Device.writeRead communicate indexGroup indexOffset writeData readData).map
    (exactly readData.length)

/-- `Device::read_value`: `read_exact` into the bytes of `T::default()`,
returned as the call left them. -/
def Device.readValue (communicate : Exchange) (indexGroup indexOffset : UInt32) (value : Bytes) :
    Except Panic (Except AdsError Bytes) :=
  (Device.readExact communicate indexGroup indexOffset value).map fun (result, buf) => result.map fun () => buf

/-- A reply from `sampleDevice` to `sampleClient` under invoke id 0, of command
`cmd`, with result word 0 and `payload` after it. -/
def sampleReadReply (cmd : Command) (payload : Bytes) : Bytes :=
  [0, 0] ++ leBytes 4 (36 + payload.length) ++ sampleClient.bytes ++ sampleDevice.bytes ++
    leBytes 2 cmd.code ++ [5, 0] ++ leBytes 4 (4 + payload.length) ++ leBytes 4 0 ++ leBytes 4 0 ++
    leBytes 4 0 ++ payload

/-! ## After an `Ok` -/

/-- An exchange that returned `Ok` on a reply the reader framed left the read
buffers as `Delivered` says, and the reply covered the first of them. -/
theorem communicateAs_delivered {cmd : Command} {target source : AmsAddr} {invokeId : UInt32}
    {reply : Bytes} (framed : Framed reply) {dataIn : List Bytes} {first : Bytes}
    {rest filled : List Bytes} {n : Nat}
    (returned : communicateAs cmd target source invokeId reply dataIn (first :: rest) =
      .ok (.ok (n, filled))) :
    Delivered reply (first :: rest) n filled ∧ AMS_HEADER_SIZE + first.length + 4 ≤ reply.length := by
  unfold communicateAs at returned
  split at returned
  · cases returned
  · rename_i request built
    have long := (buildRequest_destination built).2
    simp only [AMS_HEADER_SIZE] at long
    exact ⟨((communicateReply_framed cmd invokeId _ framed (by omega)).2 n filled returned).2,
      communicateReply_covers_first framed returned⟩

/-- After an `Ok` on a reply the reader framed, the reply reaches past the
`read_len` word, the returned length is that word, and the buffer holds the
bytes after it, as many as the reply carried up to the buffer's length, then
its own bytes. -/
theorem readInto_framed {cmd : Command} {target source : AmsAddr} {invokeId : UInt32}
    {reply : Bytes} (framed : Framed reply) {dataIn : List Bytes} {data data' : Bytes} {n : Nat}
    (returned : readInto (communicateAs cmd target source invokeId reply) dataIn data =
      .ok (.ok n, data')) :
    AMS_HEADER_SIZE + 8 ≤ reply.length ∧
      n = leValue ((reply.drop (AMS_HEADER_SIZE + 4)).take 4) ∧
      data' = (reply.drop (AMS_HEADER_SIZE + 8)).take data.length ++
        data.drop (reply.length - (AMS_HEADER_SIZE + 8)) := by
  unfold readInto at returned
  rcases exchanged : communicateAs cmd target source invokeId reply dataIn [zeros 4, data] with
    panic | error | ⟨m, filled⟩
  · rw [exchanged] at returned
    cases returned
  · simp [exchanged] at returned
  obtain ⟨⟨counted, lengths, contents⟩, covers⟩ := communicateAs_delivered framed exchanged
  simp only [exchanged, except_ok_bind, except_pure, Except.ok.injEq, Prod.mk.injEq] at returned
  obtain ⟨⟨rfl⟩, rfl⟩ := returned
  rcases filled with _ | ⟨word, _ | ⟨buf, _ | ⟨extra, more⟩⟩⟩ <;>
    simp only [List.map_cons, List.map_nil, List.cons.injEq, List.length_nil, and_false,
      reduceCtorEq] at lengths
  obtain ⟨wordLength, bufLength, -⟩ := lengths
  simp only [zeros, List.length_replicate] at wordLength covers
  simp only [List.flatten_cons, List.flatten_nil, List.append_nil] at contents
  have payloadDrop : reply.drop (AMS_HEADER_SIZE + 8) = (reply.drop (AMS_HEADER_SIZE + 4)).drop 4 := by
    rw [List.drop_drop]
  rw [payloadDrop]
  set payload := reply.drop (AMS_HEADER_SIZE + 4) with payloadDef
  have payloadLength : payload.length = reply.length - 42 := by simp [payloadDef, AMS_HEADER_SIZE]
  simp only [AMS_HEADER_SIZE] at counted covers ⊢
  -- The payload fills the word, then `rest` bytes of the buffer.
  set rest := min (reply.length - 46) data.length with restDef
  have split : min m (capacity [zeros 4, data]) = 4 + rest := by
    simp only [capacity, zeros, List.map_cons, List.length_replicate, List.map_nil, List.sum_cons,
      List.sum_nil]
    omega
  have tail : (zeros 4 ++ data).drop (4 + rest) = data.drop rest := by
    simpa [zeros] using @List.drop_append _ (zeros 4) data rest
  rw [split, tail, List.take_add, List.append_assoc] at contents
  have parts := List.append_inj contents (by simp only [List.length_take]; omega)
  refine ⟨by omega, by rw [List.getD_cons_zero, parts.1], ?_⟩
  rw [List.getD_cons_succ, List.getD_cons_zero, parts.2]
  by_cases shortReply : reply.length - 46 ≤ data.length
  · rw [List.take_of_length_le (by simp; omega), List.take_of_length_le (by simp; omega)]
    congr 2
    omega
  · rw [List.drop_of_length_le (show data.length ≤ rest by omega),
      List.drop_of_length_le (show data.length ≤ reply.length - (38 + 8) by omega)]
    congr 2
    omega

theorem read_framed {target source : AmsAddr} {invokeId : UInt32} {reply : Bytes}
    (framed : Framed reply) {indexGroup indexOffset : UInt32} {data data' : Bytes} {n : Nat}
    (returned : Device.read (communicateAs .read target source invokeId reply) indexGroup indexOffset
      data = .ok (.ok n, data')) :
    AMS_HEADER_SIZE + 8 ≤ reply.length ∧
      n = leValue ((reply.drop (AMS_HEADER_SIZE + 4)).take 4) ∧
      data' = (reply.drop (AMS_HEADER_SIZE + 8)).take data.length ++
        data.drop (reply.length - (AMS_HEADER_SIZE + 8)) := by
  unfold Device.read at returned
  split at returned
  · simp at returned
  · exact readInto_framed framed returned

theorem writeRead_framed {target source : AmsAddr} {invokeId : UInt32} {reply : Bytes}
    (framed : Framed reply) {indexGroup indexOffset : UInt32} {writeData data data' : Bytes} {n : Nat}
    (returned : Device.writeRead (communicateAs .readWrite target source invokeId reply) indexGroup
      indexOffset writeData data = .ok (.ok n, data')) :
    AMS_HEADER_SIZE + 8 ≤ reply.length ∧
      n = leValue ((reply.drop (AMS_HEADER_SIZE + 4)).take 4) ∧
      data' = (reply.drop (AMS_HEADER_SIZE + 8)).take data.length ++
        data.drop (reply.length - (AMS_HEADER_SIZE + 8)) := by
  unfold Device.writeRead at returned
  split at returned
  · simp at returned
  · simp at returned
  · exact readInto_framed framed returned

theorem writeRead_framed_short :
    Framed (sampleReadReply .readWrite [2, 0, 0, 0, 1]) ∧
      Device.writeRead (communicateAs .readWrite sampleDevice sampleClient 0
        (sampleReadReply .readWrite [2, 0, 0, 0, 1])) 0x4020 0 [9] [7, 7] = .ok (.ok 2, [1, 7]) ∧
      [1, 7] = ((sampleReadReply .readWrite [2, 0, 0, 0, 1]).drop (AMS_HEADER_SIZE + 8)).take 2 ++
        [7, 7].drop ((sampleReadReply .readWrite [2, 0, 0, 0, 1]).length - (AMS_HEADER_SIZE + 8)) :=
  have framed : Framed (sampleReadReply .readWrite [2, 0, 0, 0, 1]) := ⟨by decide, rfl⟩
  ⟨framed, rfl, (@writeRead_framed sampleDevice sampleClient 0 _ framed 0x4020 0 [9] [7, 7] [1, 7] 2 rfl).2.2⟩

/-- The `_exact` variants accept exactly a returned length equal to the buffer's. -/
theorem exactly_eq_ok {expected : Nat} {result : Except AdsError Nat × Bytes} {data' : Bytes} :
    exactly expected result = (.ok (), data') ↔ result = (.ok expected, data') := by
  rcases result with ⟨error | len, data⟩
  · simp [exactly]
  · by_cases same : len = expected <;> simp [exactly, same]

/-- After `read_exact` returned `Ok`, the reply's `read_len` word is the
buffer's length, and the buffer holds the reply's bytes only as far as the
reply carried them. -/
theorem readExact_framed {target source : AmsAddr} {invokeId : UInt32} {reply : Bytes}
    (framed : Framed reply) {indexGroup indexOffset : UInt32} {data data' : Bytes}
    (returned : Device.readExact (communicateAs .read target source invokeId reply) indexGroup
      indexOffset data = .ok (.ok (), data')) :
    leValue ((reply.drop (AMS_HEADER_SIZE + 4)).take 4) = data.length ∧
      data' = (reply.drop (AMS_HEADER_SIZE + 8)).take data.length ++
        data.drop (reply.length - (AMS_HEADER_SIZE + 8)) := by
  rcases read : Device.read (communicateAs .read target source invokeId reply) indexGroup indexOffset
    data with panic | result
  · simp [Device.readExact, read, Except.map] at returned
  · simp only [Device.readExact, read, Except.map, Except.ok.injEq, exactly_eq_ok] at returned
    subst returned
    obtain ⟨-, word, buffer⟩ := read_framed framed read
    exact ⟨word.symm, buffer⟩

/-- A value `read_value` returns is the reply's bytes after the `read_len`
word, as far as the reply carried them, then the default value's own bytes:
a reply with the right word and fewer bytes gives back part of the default. -/
theorem readValue_framed {target source : AmsAddr} {invokeId : UInt32} {reply : Bytes}
    (framed : Framed reply) {indexGroup indexOffset : UInt32} {default value : Bytes}
    (returned : Device.readValue (communicateAs .read target source invokeId reply) indexGroup
      indexOffset default = .ok (.ok value)) :
    leValue ((reply.drop (AMS_HEADER_SIZE + 4)).take 4) = default.length ∧
      value = (reply.drop (AMS_HEADER_SIZE + 8)).take default.length ++
        default.drop (reply.length - (AMS_HEADER_SIZE + 8)) := by
  rcases exact : Device.readExact (communicateAs .read target source invokeId reply) indexGroup indexOffset
    default with panic | ⟨error | ⟨⟩, buf⟩ <;>
    simp only [Device.readValue, exact, Except.map, Except.ok.injEq, reduceCtorEq] at returned
  subst returned
  exact readExact_framed framed exact

theorem readValue_default_kept :
    Framed (sampleReadReply .read [4, 0, 0, 0]) ∧
      Device.readValue (communicateAs .read sampleDevice sampleClient 0 (sampleReadReply .read [4, 0, 0, 0]))
        0x4020 0 [7, 7, 7, 7] = .ok (.ok [7, 7, 7, 7]) ∧
      [7, 7, 7, 7] = ((sampleReadReply .read [4, 0, 0, 0]).drop (AMS_HEADER_SIZE + 8)).take 4 ++
        [7, 7, 7, 7].drop ((sampleReadReply .read [4, 0, 0, 0]).length - (AMS_HEADER_SIZE + 8)) :=
  have framed : Framed (sampleReadReply .read [4, 0, 0, 0]) := ⟨by decide, rfl⟩
  ⟨framed, rfl, (@readValue_framed sampleDevice sampleClient 0 _ framed 0x4020 0 [7, 7, 7, 7] [7, 7, 7, 7] rfl).2⟩

/-! ## Two replies -/

theorem read_length_unchecked :
    Framed (sampleReadReply .read [100, 0, 0, 0, 1, 2, 3, 4]) ∧
      Device.read (communicateAs .read sampleDevice sampleClient 0
        (sampleReadReply .read [100, 0, 0, 0, 1, 2, 3, 4])) 0x4020 0 [7, 7] = .ok (.ok 100, [1, 2]) ∧
    Framed (sampleReadReply .read [4, 0, 0, 0]) ∧
      Device.readExact (communicateAs .read sampleDevice sampleClient 0
        (sampleReadReply .read [4, 0, 0, 0])) 0x4020 0 [7, 7, 7, 7] = .ok (.ok (), [7, 7, 7, 7]) ∧
    Framed (sampleReadReply .readWrite [2, 0, 0, 0]) ∧
      Device.writeReadExact (communicateAs .readWrite sampleDevice sampleClient 0
        (sampleReadReply .readWrite [2, 0, 0, 0])) 0x4020 0 [9] [7, 7] = .ok (.ok (), [7, 7]) :=
  ⟨⟨by decide, rfl⟩, rfl, ⟨by decide, rfl⟩, rfl, ⟨by decide, rfl⟩, rfl⟩

end AdsClient
