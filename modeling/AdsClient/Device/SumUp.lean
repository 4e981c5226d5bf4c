import AdsClient.Engine.Communicate
import AdsClient.Device.Fixup

/-!
# Sum-up requests

The sum-up operations of `Device` (`read_multi`, `write_multi`,
`write_read_multi`, `add_notification_multi`, `delete_notification_multi`)
send many requests in one `ReadWrite` call.  The read buffers they hand to
`communicate` are the outer `read_len`, then each request's result field,
then (for the reading operations) each request's buffer; `communicate` copies
the reply's payload over them in order, as far as the payload goes, and
leaves the rest as they were.  Each request then answers for itself through
an accessor that looks at its result word.

A result field the payload does not reach keeps what it held before, which
for a new request is zero, the word of success.  The main results are
`delivered_buffer` (what `communicate` leaves in each read buffer) and, from
it, what each accessor reports after the operation returned `Ok`.
-/

namespace AdsClient

/-- The index groups of the sum-up requests.

Modelled from the spec: `index.rs` is not under `src/`; the spec's §6 names
these groups, and their values are those of Beckhoff's ADS index groups. -/
def SUMUP_WRITE : Nat := 0xF081

@[inherit_doc SUMUP_WRITE]
def SUMUP_READWRITE : Nat := 0xF082

@[inherit_doc SUMUP_WRITE]
def SUMUP_READ_EX : Nat := 0xF083

@[inherit_doc SUMUP_WRITE]
def SUMUP_ADDDEVNOTE : Nat := 0xF085

@[inherit_doc SUMUP_WRITE]
def SUMUP_DELDEVNOTE : Nat := 0xF086

/-- `communicate(Command::ReadWrite, self.addr, &w_buffers, &mut r_buffers)` as a
sum-up operation sees it: the returned length and the read buffers afterwards,
or the error. -/
abbrev Exchange := List Bytes → List Bytes → Except Panic (Except AdsError (Nat × List Bytes))

/-- `communicate` for a request to `target` from `source` under `invokeId`,
answered by `reply`: the request is built from the write buffers, and the
reply checked against it and copied into the read buffers. -/
def communicateWith (target source : AmsAddr) (invokeId : UInt32) (reply : Bytes) : Exchange :=
  fun dataIn dataOut =>
    match buildRequest .readWrite target source invokeId dataIn with
    | .error error => pure (.error error)
    | .ok request => communicateReply .readWrite invokeId request reply dataOut

/-- `T::new_zeroed()` and `U32::default()`: `n` zero bytes. -/
def zeros (n : Nat) : Bytes := List.replicate n 0

/-- The bytes of an `IndexLength`. -/
def indexLength (indexGroup indexOffset length : Nat) : Bytes :=
  leBytes 4 indexGroup ++ leBytes 4 indexOffset ++ leBytes 4 length

/-- The bytes of an `IndexLengthRW`. -/
def indexLengthRW (indexGroup indexOffset readLength writeLength : Nat) : Bytes :=
  leBytes 4 indexGroup ++ leBytes 4 indexOffset ++ leBytes 4 readLength ++ leBytes 4 writeLength

@[simp] theorem length_zeros (n : Nat) : (zeros n).length = n := List.length_replicate n 0

@[simp] theorem length_indexLength (indexGroup indexOffset length : Nat) :
    (indexLength indexGroup indexOffset length).length = 12 := by
  simp [indexLength]

@[simp] theorem length_indexLengthRW (indexGroup indexOffset readLength writeLength : Nat) :
    (indexLengthRW indexGroup indexOffset readLength writeLength).length = 16 := by
  simp [indexLengthRW]

/-- What a fixed-size field holds after `communicate` copied `new` over it:
`new` as far as the field goes, and the field's own bytes past `new`. -/
def refill (field new : Bytes) : Bytes := new.take field.length ++ field.drop new.length

@[simp] theorem length_refill (field new : Bytes) : (refill field new).length = field.length := by
  simp only [refill, List.length_append, List.length_take, List.length_drop]
  omega

theorem refill_of_length {field new : Bytes} (same : new.length = field.length) :
    refill field new = new := by
  rw [refill, List.take_of_length_le (le_of_eq same), List.drop_of_length_le (le_of_eq same.symm),
    List.append_nil]

/-- The `IndexLengthRW` header of a sum-up request, with the `u32::try_from`
of its request count and of its two lengths. -/
def sumUpHeader (indexGroup count readLen writeLen : Nat) : Except AdsError Bytes := do
  let count ← toU32 count
  let readLen ← toU32 readLen
  let writeLen ← toU32 writeLen
  pure (indexLengthRW indexGroup count.toNat readLen.toNat writeLen.toNat)

/-! ## The requests and their accessors -/

/-- The result word of a result field: `res.result.get()` or `res.get()`. -/
def resultWord (res : Bytes) : Nat := leValue (res.take 4)

/-- The length word of a `ResultLength`: `res.length.get()`. -/
def lengthWord (res : Bytes) : Nat := leValue ((res.drop 4).take 4)

/-- What every accessor does: `value` when the result word is 0, and
`ads_error(action, result)` otherwise. -/
def resultAccessor {α : Type} (action : String) (res : Bytes) (value : Except Panic α) :
    Except Panic (Except AdsError α) :=
  if resultWord res = 0 then value.map .ok else pure (adsError action (resultWord res))

/-- `ReadRequest`: its `IndexLength`, its `ResultLength` and its buffer, the
first two of the widths of their Rust types. -/
structure ReadRequest where
  req : Bytes
  res : Bytes
  rbuf : Bytes
  req_length : req.length = 12
  res_length : res.length = 8

def ReadRequest.new (indexGroup indexOffset : UInt32) (buffer : Bytes) :
    Except AdsError ReadRequest := do
  let length ← toU32 buffer.length
  pure ⟨indexLength indexGroup.toNat indexOffset.toNat length.toNat, zeros 8, buffer,
    length_indexLength .., length_zeros 8⟩

/-- The request as `communicate` left it. -/
def ReadRequest.fill (r : ReadRequest) (res rbuf : Bytes) : ReadRequest :=
  { r with res := refill r.res res, rbuf, res_length := (length_refill r.res res).trans r.res_length }

/-- `ReadRequest::data`: `&self.rbuf[..length]`, which panics past the buffer. -/
def ReadRequest.data (r : ReadRequest) : Except Panic (Except AdsError Bytes) :=
  resultAccessor "multi-read data" r.res (slice r.rbuf 0 (lengthWord r.res))

/-- `WriteRequest`: its `IndexLength`, its result word and its buffer. -/
structure WriteRequest where
  req : Bytes
  res : Bytes
  wbuf : Bytes
  req_length : req.length = 12
  res_length : res.length = 4

def WriteRequest.new (indexGroup indexOffset : UInt32) (buffer : Bytes) :
    Except AdsError WriteRequest := do
  let length ← toU32 buffer.length
  pure ⟨indexLength indexGroup.toNat indexOffset.toNat length.toNat, zeros 4, buffer,
    length_indexLength .., length_zeros 4⟩

@[inherit_doc ReadRequest.fill]
def WriteRequest.fill (r : WriteRequest) (res : Bytes) : WriteRequest :=
  { r with res := refill r.res res, res_length := (length_refill r.res res).trans r.res_length }

def WriteRequest.ensure (r : WriteRequest) : Except Panic (Except AdsError Unit) :=
  resultAccessor "multi-write data" r.res (pure ())

/-- `WriteReadRequest`: its `IndexLengthRW`, its `ResultLength` and its two buffers. -/
structure WriteReadRequest where
  req : Bytes
  res : Bytes
  wbuf : Bytes
  rbuf : Bytes
  req_length : req.length = 16
  res_length : res.length = 8

def WriteReadRequest.new (indexGroup indexOffset : UInt32) (writeBuffer readBuffer : Bytes) :
    Except AdsError WriteReadRequest := do
  let readLength ← toU32 readBuffer.length
  let writeLength ← toU32 writeBuffer.length
  pure ⟨indexLengthRW indexGroup.toNat indexOffset.toNat readLength.toNat writeLength.toNat,
    zeros 8, writeBuffer, readBuffer, length_indexLengthRW .., length_zeros 8⟩

@[inherit_doc ReadRequest.fill]
def WriteReadRequest.fill (r : WriteReadRequest) (res rbuf : Bytes) : WriteReadRequest :=
  { r with res := refill r.res res, rbuf, res_length := (length_refill r.res res).trans r.res_length }

def WriteReadRequest.data (r : WriteReadRequest) : Except Panic (Except AdsError Bytes) :=
  resultAccessor "multi-read/write data" r.res (slice r.rbuf 0 (lengthWord r.res))

inductive TransmissionMode where
  | noTrans
  | serverCycle
  | serverOnChange
  deriving DecidableEq, Repr

/-- `trans_mode as u32`. -/
def TransmissionMode.code : TransmissionMode → Nat
  | noTrans => 0
  | serverCycle => 3
  | serverOnChange => 4

/-- `notif::Attributes`, its two durations in milliseconds (`as_millis()`). -/
structure Attributes where
  length : Nat
  transMode : TransmissionMode
  maxDelayMs : Nat
  cycleTimeMs : Nat

/-- `AddNotifRequest`: its `AddNotif` and its `ResultLength`, whose length word
is the handle. -/
structure AddNotifRequest where
  req : Bytes
  res : Bytes
  req_length : req.length = 40
  res_length : res.length = 8

def AddNotifRequest.new (indexGroup indexOffset : UInt32) (attributes : Attributes) :
    Except AdsError AddNotifRequest := do
  let length ← toU32 attributes.length
  let maxDelay ← toU32 attributes.maxDelayMs
  let cycleTime ← toU32 attributes.cycleTimeMs
  pure ⟨leBytes 4 indexGroup.toNat ++ leBytes 4 indexOffset.toNat ++ leBytes 4 length.toNat ++
    leBytes 4 attributes.transMode.code ++ leBytes 4 maxDelay.toNat ++ leBytes 4 cycleTime.toNat ++
    zeros 16, zeros 8, by simp, length_zeros 8⟩

@[inherit_doc ReadRequest.fill]
def AddNotifRequest.fill (r : AddNotifRequest) (res : Bytes) : AddNotifRequest :=
  { r with res := refill r.res res, res_length := (length_refill r.res res).trans r.res_length }

def AddNotifRequest.handle (r : AddNotifRequest) : Except Panic (Except AdsError Nat) :=
  resultAccessor "multi-read/write data" r.res (pure (lengthWord r.res))

/-- `DelNotifRequest`: the handle it sends and its result word. -/
structure DelNotifRequest where
  req : Bytes
  res : Bytes
  req_length : req.length = 4
  res_length : res.length = 4

def DelNotifRequest.new (handle : UInt32) : DelNotifRequest :=
  ⟨leBytes 4 handle.toNat, zeros 4, length_leBytes 4 _, length_zeros 4⟩

@[inherit_doc ReadRequest.fill]
def DelNotifRequest.fill (r : DelNotifRequest) (res : Bytes) : DelNotifRequest :=
  { r with res := refill r.res res, res_length := (length_refill r.res res).trans r.res_length }

def DelNotifRequest.ensure (r : DelNotifRequest) : Except Panic (Except AdsError Unit) :=
  resultAccessor "multi-read/write data" r.res (pure ())

/-! ## The operations -/

/-- The set `notif_handles` of the client: the handles to delete on shutdown. -/
abbrev HandleSet := Finset (AmsAddr × Nat)

/-- `read_multi`: the requests afterwards, their result fields and buffers as
`communicate` left them. -/
def Device.readMulti (communicate : Exchange) (requests : List ReadRequest) :
    Except Panic (Except AdsError (List ReadRequest)) :=
  let nreq := requests.length
  match sumUpHeader SUMUP_READ_EX nreq (requests.map fun r => 8 + r.rbuf.length).sum (12 * nreq) with
  | .error error => pure (.error error)
  | .ok header => do
    let result ← communicate (header :: requests.map (·.req))
      (zeros 4 :: (requests.map (·.res) ++ requests.map (·.rbuf)))
    pure <| result.map fun (_, filled) =>
      List.zipWith (fun r (res, rbuf) => ReadRequest.fill r res rbuf) requests
        ((filled.drop 1).zip (filled.drop (1 + nreq)))

def Device.writeMulti (communicate : Exchange) (requests : List WriteRequest) :
    Except Panic (Except AdsError (List WriteRequest)) :=
  let nreq := requests.length
  match sumUpHeader SUMUP_WRITE nreq (4 * nreq) (requests.map fun r => 12 + r.wbuf.length).sum with
  | .error error => pure (.error error)
  | .ok header => do
    let result ← communicate (header :: (requests.map (·.req) ++ requests.map (·.wbuf)))
      (zeros 4 :: requests.map (·.res))
    pure <| result.map fun (_, filled) =>
      List.zipWith WriteRequest.fill requests (filled.drop 1)

/-- `write_read_multi`: after `communicate`, `fixup_write_read_return_buffers`
moves each request's data to the front of its buffer. -/
def Device.writeReadMulti (communicate : Exchange) (requests : List WriteReadRequest) :
    Except Panic (Except AdsError (List WriteReadRequest)) :=
  let nreq := requests.length
  match sumUpHeader SUMUP_READWRITE nreq (requests.map fun r => 8 + r.rbuf.length).sum
      (requests.map fun r => 16 + r.wbuf.length).sum with
  | .error error => pure (.error error)
  | .ok header => do
    let result ← communicate (header :: (requests.map (·.req) ++ requests.map (·.wbuf)))
      (zeros 4 :: (requests.map (·.res) ++ requests.map (·.rbuf)))
    match result with
    | .error error => pure (.error error)
    | .ok (_, filled) => do
      let requests := List.zipWith (fun r (res, rbuf) => WriteReadRequest.fill r res rbuf) requests
        ((filled.drop 1).zip (filled.drop (1 + nreq)))
      let rbufs ← fixupWriteReadReturnBuffers (requests.map fun r => (r.rbuf, lengthWord r.res))
      pure (.ok (List.zipWith (fun r rbuf => { r with rbuf }) requests rbufs))

/-- The loop after `add_notification_multi`'s exchange: the handle of each
request whose `handle()` is `Ok` goes into `notif_handles`. -/
def recordHandles (addr : AmsAddr) (handles : HandleSet) : List AddNotifRequest → HandleSet
  | [] => handles
  | r :: rest =>
    match r.handle with
    | .ok (.ok handle) => recordHandles addr (insert (addr, handle) handles) rest
    | _ => recordHandles addr handles rest

/-- `add_notification_multi`: the requests afterwards and `notif_handles`. -/
def Device.addNotificationMulti (communicate : Exchange) (addr : AmsAddr) (handles : HandleSet)
    (requests : List AddNotifRequest) :
    Except Panic (Except AdsError (List AddNotifRequest × HandleSet)) :=
  let nreq := requests.length
  match sumUpHeader SUMUP_ADDDEVNOTE nreq (8 * nreq) (40 * nreq) with
  | .error error => pure (.error error)
  | .ok header => do
    let result ← communicate (header :: requests.map (·.req)) (zeros 4 :: requests.map (·.res))
    pure <| result.map fun (_, filled) =>
      let requests := List.zipWith AddNotifRequest.fill requests (filled.drop 1)
      (requests, recordHandles addr handles requests)

/-- The loop after `delete_notification_multi`'s exchange: the handle of each
request whose `ensure()` is `Ok` leaves `notif_handles`. -/
def dropHandles (addr : AmsAddr) (handles : HandleSet) : List DelNotifRequest → HandleSet
  | [] => handles
  | r :: rest =>
    match r.ensure with
    | .ok (.ok ()) => dropHandles addr (handles.erase (addr, leValue r.req)) rest
    | _ => dropHandles addr handles rest

/-- `delete_notification_multi`: the requests afterwards and `notif_handles`. -/
def Device.deleteNotificationMulti (communicate : Exchange) (addr : AmsAddr) (handles : HandleSet)
    (requests : List DelNotifRequest) :
    Except Panic (Except AdsError (List DelNotifRequest × HandleSet)) :=
  let nreq := requests.length
  match sumUpHeader SUMUP_DELDEVNOTE nreq (4 * nreq) (4 * nreq) with
  | .error error => pure (.error error)
  | .ok header => do
    let result ← communicate (header :: requests.map (·.req)) (zeros 4 :: requests.map (·.res))
    pure <| result.map fun (_, filled) =>
      let requests := List.zipWith DelNotifRequest.fill requests (filled.drop 1)
      (requests, dropHandles addr handles requests)

/-! ## What `communicate` leaves in the read buffers -/

/-- The buffers before the `k`-th end no later than all of them. -/
theorem capacity_take_add {bufs : List Bytes} {k : Nat} {buf : Bytes} (found : bufs[k]? = some buf) :
    capacity (bufs.take k) + buf.length ≤ capacity bufs := by
  have split : bufs = bufs.take k ++ buf :: bufs.drop (k + 1) := by
    obtain ⟨below, rfl⟩ := List.getElem?_eq_some_iff.mp found
    rw [← List.drop_eq_getElem_cons below, List.take_append_drop]
  conv_rhs => rw [split]
  simp only [capacity, List.map_append, List.map_cons, List.sum_append, List.sum_cons]
  omega

theorem capacity_take_of_lengths {filled bufs : List Bytes}
    (lengths : filled.map List.length = bufs.map List.length) (k : Nat) :
    capacity (filled.take k) = capacity (bufs.take k) := by
  simp only [capacity, List.map_take, lengths]

/-- After an `Ok` of `communicate`, the `k`-th read buffer keeps its length; it
holds the reply's payload bytes at its place when the payload reaches past
it, and what it held before when the payload ends before it. -/
theorem delivered_buffer {reply : Bytes} {dataOut filled : List Bytes} {n : Nat}
    (delivered : Delivered reply dataOut n filled) {k : Nat} {buf : Bytes}
    (found : dataOut[k]? = some buf) :
    ∃ buf', filled[k]? = some buf' ∧ buf'.length = buf.length ∧
      (capacity (dataOut.take k) + buf.length ≤ n →
        buf' = window (reply.drop (AMS_HEADER_SIZE + 4)) (capacity (dataOut.take k)) buf.length) ∧
      (n ≤ capacity (dataOut.take k) → buf' = buf) := by
  cases dataOut with
  | nil => cases found
  | cons first rest =>
    obtain ⟨counted, lengths, contents⟩ := delivered
    have payloadLength : (reply.drop (AMS_HEADER_SIZE + 4)).length = n := by
      rw [List.length_drop, counted]
    have lengthAt : (filled.map List.length)[k]? = some buf.length := by
      rw [lengths, List.getElem?_map, found]
      rfl
    rw [List.getElem?_map, Option.map_eq_some'] at lengthAt
    obtain ⟨buf', at', sameLength⟩ := lengthAt
    have inside := capacity_take_add found
    have asWindow : buf' = window filled.flatten (capacity ((first :: rest).take k)) buf.length := by
      have := window_flatten filled at' (le_of_eq (Nat.zero_add buf'.length))
      rwa [window_self, Nat.add_zero, sameLength, ← capacity, capacity_take_of_lengths lengths] at this
    have original : buf = window (first :: rest).flatten (capacity ((first :: rest).take k))
        buf.length := by
      have := window_flatten (first :: rest) found (le_of_eq (Nat.zero_add buf.length))
      rwa [window_self, Nat.add_zero] at this
    refine ⟨buf', at', sameLength, fun covered => ?_, fun past => ?_⟩
    · rw [asWindow, contents, window_append_left (by simp only [List.length_take]; omega),
        window_take (by omega)]
    · have front : (List.take (min n (capacity (first :: rest)))
          (reply.drop (AMS_HEADER_SIZE + 4))).length = min n (capacity (first :: rest)) := by
        rw [List.length_take, payloadLength]
        omega
      rw [asWindow, contents, window_append_right (by omega), front, window_drop,
        Nat.add_sub_cancel' (by omega)]
      exact original.symm

/-! ## The layout of the sum-up read buffers -/

theorem capacity_of_widths {bufs : List Bytes} {width : Nat}
    (widths : ∀ buf ∈ bufs, buf.length = width) : capacity bufs = width * bufs.length := by
  induction bufs with
  | nil => rfl
  | cons buf rest inductionHypothesis =>
    rw [capacity_cons, widths buf (List.mem_cons_self _ _),
      inductionHypothesis fun other member => widths other (List.mem_cons_of_mem _ member),
      List.length_cons, Nat.mul_succ, Nat.add_comm]

theorem widths_of_map {β : Type} {items : List β} {part : β → Bytes} {width : Nat}
    (widths : ∀ item, (part item).length = width) : ∀ buf ∈ items.map part, buf.length = width := by
  intro buf member
  obtain ⟨item, -, rfl⟩ := List.mem_map.mp member
  exact widths item

/-- The result field of request `i` lies `4 + width * i` bytes into the payload. -/
theorem delivered_result {reply : Bytes} {ress bufs filled : List Bytes} {n width : Nat}
    (delivered : Delivered reply (zeros 4 :: (ress ++ bufs)) n filled)
    (widths : ∀ res ∈ ress, res.length = width) {i : Nat} {res : Bytes}
    (found : ress[i]? = some res) :
    ∃ res', filled[1 + i]? = some res' ∧ res'.length = width ∧
      (4 + width * (i + 1) ≤ n →
        res' = window (reply.drop (AMS_HEADER_SIZE + 4)) (4 + width * i) width) ∧
      (n ≤ 4 + width * i → res' = res) := by
  have below : i < ress.length := (List.getElem?_eq_some_iff.mp found).1
  have at' : (zeros 4 :: (ress ++ bufs))[1 + i]? = some res := by
    rw [Nat.add_comm, List.getElem?_cons_succ, List.getElem?_append_left below, found]
  have start : capacity ((zeros 4 :: (ress ++ bufs)).take (1 + i)) = 4 + width * i := by
    rw [Nat.add_comm, List.take_succ_cons, capacity_cons, List.take_append_of_le_length below.le,
      capacity_of_widths fun other member => widths other (List.mem_of_mem_take member),
      List.length_take_of_le below.le]
    rfl
  have resLength : res.length = width := widths res (List.getElem?_mem found)
  obtain ⟨res', filledAt, sameLength, covered, past⟩ := delivered_buffer delivered at'
  rw [start, resLength] at covered
  rw [start] at past
  exact ⟨res', filledAt, sameLength.trans resLength,
    fun reaches => covered (by rw [Nat.mul_succ] at reaches; omega), past⟩

/-- The buffer of request `i` lies after the outer `read_len`, every result
field, and the buffers before it. -/
theorem delivered_data {reply : Bytes} {ress bufs filled : List Bytes} {n : Nat}
    (delivered : Delivered reply (zeros 4 :: (ress ++ bufs)) n filled) {i : Nat} {buf : Bytes}
    (found : bufs[i]? = some buf) :
    ∃ buf', filled[1 + ress.length + i]? = some buf' ∧ buf'.length = buf.length ∧
      (4 + capacity ress + capacity (bufs.take i) + buf.length ≤ n →
        buf' = window (reply.drop (AMS_HEADER_SIZE + 4))
          (4 + capacity ress + capacity (bufs.take i)) buf.length) ∧
      (n ≤ 4 + capacity ress + capacity (bufs.take i) → buf' = buf) := by
  have at' : (zeros 4 :: (ress ++ bufs))[1 + ress.length + i]? = some buf := by
    rw [Nat.add_assoc, Nat.add_comm, List.getElem?_cons_succ, List.getElem?_append_right (by omega),
      Nat.add_sub_cancel_left, found]
  have start : capacity ((zeros 4 :: (ress ++ bufs)).take (1 + ress.length + i)) =
      4 + capacity ress + capacity (bufs.take i) := by
    rw [Nat.add_assoc, Nat.add_comm, List.take_succ_cons, capacity_cons, List.take_append_eq_append_take,
      List.take_of_length_le (by omega), Nat.add_sub_cancel_left]
    simp only [capacity, List.map_append, List.sum_append, zeros, List.length_replicate]
    omega
  obtain ⟨buf', filledAt, sameLength, covered, past⟩ := delivered_buffer delivered at'
  rw [start] at covered past
  exact ⟨buf', filledAt, sameLength, covered, past⟩

/-- A sum-up exchange that returned `Ok` on a reply the reader framed left the
read buffers as `Delivered` says. -/
theorem communicateWith_delivered {target source : AmsAddr} {invokeId : UInt32} {reply : Bytes}
    (framed : Framed reply) {dataIn dataOut filled : List Bytes} {n : Nat}
    (returned : communicateWith target source invokeId reply dataIn dataOut = .ok (.ok (n, filled))) :
    Delivered reply dataOut n filled := by
  unfold communicateWith at returned
  split at returned
  · cases returned
  · rename_i request built
    have long := (buildRequest_destination built).2
    simp only [AMS_HEADER_SIZE] at long
    exact ((communicateReply_framed .readWrite invokeId dataOut framed (by omega)).2 n filled
      returned).2

theorem getElem?_zipWith_of_getElem? {α β γ : Type} {f : α → β → γ} {as : List α} {bs : List β}
    {i : Nat} {a : α} {b : β} (first : as[i]? = some a) (second : bs[i]? = some b) :
    (List.zipWith f as bs)[i]? = some (f a b) := by
  rw [List.getElem?_zipWith, first, second]

/-! ## Each operation after an `Ok` -/

theorem Delivered.returned {reply : Bytes} {first : Bytes} {rest filled : List Bytes} {n : Nat}
    (delivered : Delivered reply (first :: rest) n filled) :
    n = reply.length - (AMS_HEADER_SIZE + 4) :=
  delivered.1

/-- When the read buffers of a sum-up exchange are one result field per
request, request `i`'s field after the exchange is the reply's window for it
when the reply reaches past it, and the field it held when the reply ends
before it; either way it refills the old field whole. -/
theorem communicateWith_result {β : Type} {target source : AmsAddr} {invokeId : UInt32}
    {reply : Bytes} (framed : Framed reply) {dataIn filled : List Bytes} {n width : Nat}
    {requests : List β} {part : β → Bytes}
    (exchanged : communicateWith target source invokeId reply dataIn
      (zeros 4 :: requests.map part) = .ok (.ok (n, filled)))
    (widths : ∀ item, (part item).length = width) {i : Nat} {r : β}
    (found : requests[i]? = some r) :
    ∃ res', (filled.drop 1)[i]? = some res' ∧ refill (part r) res' = res' ∧
      (4 + width * (i + 1) ≤ reply.length - (AMS_HEADER_SIZE + 4) →
        res' = window (reply.drop (AMS_HEADER_SIZE + 4)) (4 + width * i) width) ∧
      (reply.length - (AMS_HEADER_SIZE + 4) ≤ 4 + width * i → res' = part r) := by
  have delivered := communicateWith_delivered framed exchanged
  rw [← List.append_nil (requests.map part)] at delivered
  obtain ⟨res', filledAt, sameWidth, covered, past⟩ := delivered_result delivered
    (widths_of_map widths) (show (requests.map part)[i]? = some (part r) by simp [found])
  rw [Delivered.returned delivered] at covered past
  exact ⟨res', by rw [List.getElem?_drop]; exact filledAt,
    refill_of_length (sameWidth.trans (widths r).symm), covered, past⟩

theorem writeMulti_eq_ok {communicate : Exchange} {requests after : List WriteRequest}
    (done : Device.writeMulti communicate requests = .ok (.ok after)) :
    ∃ header n filled, communicate (header :: (requests.map (·.req) ++ requests.map (·.wbuf)))
        (zeros 4 :: requests.map (·.res)) = .ok (.ok (n, filled)) ∧
      after = List.zipWith WriteRequest.fill requests (filled.drop 1) := by
  unfold Device.writeMulti at done
  dsimp only at done
  split at done
  · cases done
  · rename_i header _
    obtain ⟨result, exchanged, mapped⟩ := except_bind_eq_ok.mp done
    rcases result with error | ⟨n, filled⟩
    · cases mapped
    · exact ⟨header, n, filled, exchanged, by cases mapped; rfl⟩

/-- After `write_multi` returned `Ok`, request `i`'s result word is the one the
reply carried for it when the reply reaches past it, and the one it held
before when the reply ends before it. -/
theorem writeMulti_results {target source : AmsAddr} {invokeId : UInt32} {reply : Bytes}
    (framed : Framed reply) {requests after : List WriteRequest}
    (done : Device.writeMulti (communicateWith target source invokeId reply) requests =
      .ok (.ok after))
    {i : Nat} {r : WriteRequest} (found : requests[i]? = some r) :
    ∃ r', after[i]? = some r' ∧ r'.req = r.req ∧ r'.wbuf = r.wbuf ∧ r'.res.length = 4 ∧
      (4 + 4 * (i + 1) ≤ reply.length - (AMS_HEADER_SIZE + 4) →
        r'.res = window (reply.drop (AMS_HEADER_SIZE + 4)) (4 + 4 * i) 4) ∧
      (reply.length - (AMS_HEADER_SIZE + 4) ≤ 4 + 4 * i → r'.res = r.res) := by
  obtain ⟨header, n, filled, exchanged, rfl⟩ := writeMulti_eq_ok done
  obtain ⟨res', filledAt, refilled, covered, past⟩ :=
    communicateWith_result framed exchanged WriteRequest.res_length found
  exact ⟨r.fill res', getElem?_zipWith_of_getElem? found filledAt, rfl, rfl, (r.fill res').res_length,
    fun reaches => refilled.trans (covered reaches),
    fun ends => refilled.trans (past ends)⟩

theorem deleteNotificationMulti_eq_ok {communicate : Exchange} {addr : AmsAddr}
    {handles handles' : HandleSet} {requests after : List DelNotifRequest}
    (done : Device.deleteNotificationMulti communicate addr handles requests =
      .ok (.ok (after, handles'))) :
    ∃ header n filled, communicate (header :: requests.map (·.req))
        (zeros 4 :: requests.map (·.res)) = .ok (.ok (n, filled)) ∧
      after = List.zipWith DelNotifRequest.fill requests (filled.drop 1) ∧
      handles' = dropHandles addr handles after := by
  unfold Device.deleteNotificationMulti at done
  dsimp only at done
  split at done
  · cases done
  · rename_i header _
    obtain ⟨result, exchanged, mapped⟩ := except_bind_eq_ok.mp done
    rcases result with error | ⟨n, filled⟩
    · cases mapped
    · cases mapped
      exact ⟨header, n, filled, exchanged, rfl, rfl⟩

theorem addNotificationMulti_eq_ok {communicate : Exchange} {addr : AmsAddr}
    {handles handles' : HandleSet} {requests after : List AddNotifRequest}
    (done : Device.addNotificationMulti communicate addr handles requests =
      .ok (.ok (after, handles'))) :
    ∃ header n filled, communicate (header :: requests.map (·.req))
        (zeros 4 :: requests.map (·.res)) = .ok (.ok (n, filled)) ∧
      after = List.zipWith AddNotifRequest.fill requests (filled.drop 1) ∧
      handles' = recordHandles addr handles after := by
  unfold Device.addNotificationMulti at done
  dsimp only at done
  split at done
  · cases done
  · rename_i header _
    obtain ⟨result, exchanged, mapped⟩ := except_bind_eq_ok.mp done
    rcases result with error | ⟨n, filled⟩
    · cases mapped
    · cases mapped
      exact ⟨header, n, filled, exchanged, rfl, rfl⟩

/-- After `add_notification_multi` returned `Ok`, request `i`'s `ResultLength`
(result word and handle) is the one the reply carried for it when the reply
reaches past it, and the one it held before when the reply ends before it;
the handles whose `handle()` is `Ok` are in `notif_handles`. -/
theorem addNotificationMulti_results {target source : AmsAddr} {invokeId : UInt32}
    {reply : Bytes} (framed : Framed reply) {addr : AmsAddr} {handles handles' : HandleSet}
    {requests after : List AddNotifRequest}
    (done : Device.addNotificationMulti (communicateWith target source invokeId reply) addr
      handles requests = .ok (.ok (after, handles')))
    {i : Nat} {r : AddNotifRequest} (found : requests[i]? = some r) :
    handles' = recordHandles addr handles after ∧
    ∃ r', after[i]? = some r' ∧ r'.req = r.req ∧ r'.res.length = 8 ∧
      (4 + 8 * (i + 1) ≤ reply.length - (AMS_HEADER_SIZE + 4) →
        r'.res = window (reply.drop (AMS_HEADER_SIZE + 4)) (4 + 8 * i) 8) ∧
      (reply.length - (AMS_HEADER_SIZE + 4) ≤ 4 + 8 * i → r'.res = r.res) := by
  obtain ⟨header, n, filled, exchanged, rfl, rfl⟩ := addNotificationMulti_eq_ok done
  obtain ⟨res', filledAt, refilled, covered, past⟩ :=
    communicateWith_result framed exchanged AddNotifRequest.res_length found
  exact ⟨rfl, r.fill res', getElem?_zipWith_of_getElem? found filledAt, rfl, (r.fill res').res_length,
    fun reaches => refilled.trans (covered reaches), fun ends => refilled.trans (past ends)⟩

theorem readMulti_eq_ok {communicate : Exchange} {requests after : List ReadRequest}
    (done : Device.readMulti communicate requests = .ok (.ok after)) :
    ∃ header n filled, communicate (header :: requests.map (·.req))
        (zeros 4 :: (requests.map (·.res) ++ requests.map (·.rbuf))) = .ok (.ok (n, filled)) ∧
      after = List.zipWith (fun r (res, rbuf) => ReadRequest.fill r res rbuf) requests
        ((filled.drop 1).zip (filled.drop (1 + requests.length))) := by
  unfold Device.readMulti at done
  dsimp only at done
  split at done
  · cases done
  · rename_i header _
    obtain ⟨result, exchanged, mapped⟩ := except_bind_eq_ok.mp done
    rcases result with error | ⟨n, filled⟩
    · cases mapped
    · exact ⟨header, n, filled, exchanged, by cases mapped; rfl⟩

/-- After `read_multi` returned `Ok`, request `i` holds the two buffers
`communicate` left for it: each is what the reply carried at its place when
the reply reaches past it, and what it held before when the reply ends before
it. -/
theorem readMulti_filled {target source : AmsAddr} {invokeId : UInt32} {reply : Bytes}
    (framed : Framed reply) {requests after : List ReadRequest}
    (done : Device.readMulti (communicateWith target source invokeId reply) requests =
      .ok (.ok after))
    {i : Nat} {r : ReadRequest} (found : requests[i]? = some r) :
    ∃ res' rbuf', after[i]? = some (r.fill res' rbuf') ∧ (r.fill res' rbuf').res = res' ∧
      rbuf'.length = r.rbuf.length ∧
      (4 + 8 * (i + 1) ≤ reply.length - (AMS_HEADER_SIZE + 4) →
        res' = window (reply.drop (AMS_HEADER_SIZE + 4)) (4 + 8 * i) 8) ∧
      (reply.length - (AMS_HEADER_SIZE + 4) ≤ 4 + 8 * i → res' = r.res) ∧
      (4 + 8 * requests.length + capacity ((requests.map (·.rbuf)).take i) + r.rbuf.length ≤
          reply.length - (AMS_HEADER_SIZE + 4) →
        rbuf' = window (reply.drop (AMS_HEADER_SIZE + 4))
          (4 + 8 * requests.length + capacity ((requests.map (·.rbuf)).take i)) r.rbuf.length) ∧
      (reply.length - (AMS_HEADER_SIZE + 4) ≤
          4 + 8 * requests.length + capacity ((requests.map (·.rbuf)).take i) →
        rbuf' = r.rbuf) := by
  obtain ⟨header, n, filled, exchanged, rfl⟩ := readMulti_eq_ok done
  have delivered := communicateWith_delivered framed exchanged
  rw [Delivered.returned delivered] at *
  have resWidths : ∀ res ∈ requests.map (·.res), res.length = 8 := widths_of_map ReadRequest.res_length
  obtain ⟨res', resAt, width, resCovered, resPast⟩ := delivered_result delivered resWidths
    (show (requests.map (·.res))[i]? = some r.res by simp [found])
  obtain ⟨rbuf', rbufAt, rbufLength, rbufCovered, rbufPast⟩ := delivered_data delivered
    (show (requests.map (·.rbuf))[i]? = some r.rbuf by simp [found])
  rw [capacity_of_widths resWidths, List.length_map] at rbufCovered rbufPast
  rw [List.length_map] at rbufAt
  exact ⟨res', rbuf', getElem?_zipWith_of_getElem? found
    (getElem?_zipWith_of_getElem? (by rw [List.getElem?_drop]; exact resAt)
      (by rw [List.getElem?_drop]; exact rbufAt)), refill_of_length (width.trans r.res_length.symm),
    rbufLength, resCovered, resPast, rbufCovered, rbufPast⟩

/-- After `read_multi` returned `Ok`, request `i`'s `ResultLength` and buffer
each hold what the reply carried at their place when the reply reaches past
them, and what they held before when the reply ends before them. -/
theorem readMulti_results {target source : AmsAddr} {invokeId : UInt32} {reply : Bytes}
    (framed : Framed reply) {requests after : List ReadRequest}
    (done : Device.readMulti (communicateWith target source invokeId reply) requests =
      .ok (.ok after))
    {i : Nat} {r : ReadRequest} (found : requests[i]? = some r) :
    ∃ r', after[i]? = some r' ∧ r'.req = r.req ∧ r'.res.length = 8 ∧
      r'.rbuf.length = r.rbuf.length ∧
      (4 + 8 * (i + 1) ≤ reply.length - (AMS_HEADER_SIZE + 4) →
        r'.res = window (reply.drop (AMS_HEADER_SIZE + 4)) (4 + 8 * i) 8) ∧
      (reply.length - (AMS_HEADER_SIZE + 4) ≤ 4 + 8 * i → r'.res = r.res) ∧
      (4 + 8 * requests.length + capacity ((requests.map (·.rbuf)).take i) + r.rbuf.length ≤
          reply.length - (AMS_HEADER_SIZE + 4) →
        r'.rbuf = window (reply.drop (AMS_HEADER_SIZE + 4))
          (4 + 8 * requests.length + capacity ((requests.map (·.rbuf)).take i)) r.rbuf.length) ∧
      (reply.length - (AMS_HEADER_SIZE + 4) ≤
          4 + 8 * requests.length + capacity ((requests.map (·.rbuf)).take i) →
        r'.rbuf = r.rbuf) := by
  obtain ⟨res', rbuf', at', resEq, rbufLength, resCovered, resPast, rbufCovered, rbufPast⟩ :=
    readMulti_filled framed done found
  exact ⟨_, at', rfl, (r.fill res' rbuf').res_length, rbufLength,
    fun reaches => resEq.trans (resCovered reaches), fun ends => resEq.trans (resPast ends),
    rbufCovered, rbufPast⟩

/-- `ReadRequest::data` panics exactly when the result word is 0 and the
length word is longer than the buffer. -/
theorem ReadRequest.data_eq_error_iff (r : ReadRequest) :
    r.data = .error .indexOutOfRange ↔ resultWord r.res = 0 ∧ r.rbuf.length < lengthWord r.res := by
  unfold ReadRequest.data resultAccessor
  split_ifs with success
  · by_cases fits : lengthWord r.res ≤ r.rbuf.length
    · simp [slice_of_le (Nat.zero_le _) fits, Except.map, success, fits]
    · simp [slice_of_lt (Nat.lt_of_not_le fits), Except.map, success, Nat.lt_of_not_le fits]
  · simp [success]

/-- After `read_multi` returned `Ok` on a reply that reaches past request
`i`'s `ResultLength`, the request's `data()` panics exactly when the reply's
result word for it is 0 and its length word is longer than the request's
buffer: a device's reply can make the accessor panic. -/
theorem readMulti_data_panics {target source : AmsAddr} {invokeId : UInt32} {reply : Bytes}
    (framed : Framed reply) {requests after : List ReadRequest}
    (done : Device.readMulti (communicateWith target source invokeId reply) requests =
      .ok (.ok after))
    {i : Nat} {r : ReadRequest} (found : requests[i]? = some r)
    (reached : 4 + 8 * (i + 1) ≤ reply.length - (AMS_HEADER_SIZE + 4)) :
    ∃ r', after[i]? = some r' ∧
      (r'.data = .error .indexOutOfRange ↔
        resultWord (window (reply.drop (AMS_HEADER_SIZE + 4)) (4 + 8 * i) 8) = 0 ∧
          r.rbuf.length < lengthWord (window (reply.drop (AMS_HEADER_SIZE + 4)) (4 + 8 * i) 8)) := by
  obtain ⟨res', rbuf', at', resEq, rbufLength, resCovered, -⟩ := readMulti_filled framed done found
  refine ⟨_, at', ?_⟩
  rw [ReadRequest.data_eq_error_iff, resEq, resCovered reached, ← rbufLength]
  rfl

theorem writeReadMulti_eq_ok {communicate : Exchange} {requests after : List WriteReadRequest}
    (done : Device.writeReadMulti communicate requests = .ok (.ok after)) :
    ∃ header n filled rbufs,
      communicate (header :: (requests.map (·.req) ++ requests.map (·.wbuf)))
        (zeros 4 :: (requests.map (·.res) ++ requests.map (·.rbuf))) = .ok (.ok (n, filled)) ∧
      fixupWriteReadReturnBuffers ((List.zipWith (fun r (res, rbuf) => WriteReadRequest.fill r res rbuf) requests
        ((filled.drop 1).zip (filled.drop (1 + requests.length)))).map
          fun r => (r.rbuf, lengthWord r.res)) = .ok rbufs ∧
      after = List.zipWith (fun r rbuf => { r with rbuf })
        (List.zipWith (fun r (res, rbuf) => WriteReadRequest.fill r res rbuf) requests
          ((filled.drop 1).zip (filled.drop (1 + requests.length)))) rbufs := by
  unfold Device.writeReadMulti at done
  dsimp only at done
  split at done
  · cases done
  · rename_i header _
    obtain ⟨result, exchanged, rest⟩ := except_bind_eq_ok.mp done
    rcases result with error | ⟨n, filled⟩
    · cases rest
    · obtain ⟨rbufs, fixed, last⟩ := except_bind_eq_ok.mp rest
      cases last
      exact ⟨header, n, filled, rbufs, exchanged, fixed, rfl⟩

/-- The requests as `communicate` left them, on a reply that reaches past every
buffer: each request's `ResultLength` and buffer are the reply's bytes at
their places. -/
theorem refilled_of_complete {reply : Bytes} {requests : List WriteReadRequest}
    {filled : List Bytes}
    (delivered : Delivered reply (zeros 4 :: (requests.map (·.res) ++ requests.map (·.rbuf)))
      (reply.length - (AMS_HEADER_SIZE + 4)) filled)
    (complete : 4 + 8 * requests.length + capacity (requests.map (·.rbuf)) ≤
      reply.length - (AMS_HEADER_SIZE + 4)) :
    let refilled := List.zipWith (fun r (res, rbuf) => WriteReadRequest.fill r res rbuf) requests
      ((filled.drop 1).zip (filled.drop (1 + requests.length)))
    refilled.length = requests.length ∧
    ∀ (j : Nat) (rj : WriteReadRequest), requests[j]? = some rj →
      ∃ r', refilled[j]? = some r' ∧ r'.req = rj.req ∧ r'.wbuf = rj.wbuf ∧
        r'.res = window (reply.drop (AMS_HEADER_SIZE + 4)) (4 + 8 * j) 8 ∧
        r'.rbuf = window (reply.drop (AMS_HEADER_SIZE + 4))
          (4 + 8 * requests.length + capacity ((requests.map (·.rbuf)).take j)) rj.rbuf.length := by
  have resWidths : ∀ res ∈ requests.map (·.res), res.length = 8 :=
    widths_of_map WriteReadRequest.res_length
  have filledLength : filled.length = 1 + requests.length + requests.length := by
    have := congrArg List.length delivered.2.1
    simp only [List.length_map, List.length_cons, List.length_append] at this
    omega
  refine ⟨by simp only [List.length_zipWith, List.length_zip, List.length_drop]; omega,
    fun j rj found => ?_⟩
  have below : j < requests.length := (List.getElem?_eq_some_iff.mp found).1
  obtain ⟨res', resAt, width, resCovered, -⟩ := delivered_result delivered resWidths
    (show (requests.map (·.res))[j]? = some rj.res by simp [found])
  obtain ⟨rbuf', rbufAt, -, rbufCovered, -⟩ := delivered_data delivered
    (show (requests.map (·.rbuf))[j]? = some rj.rbuf by simp [found])
  rw [capacity_of_widths resWidths, List.length_map] at rbufCovered
  rw [List.length_map] at rbufAt
  have inside := capacity_take_add (show (requests.map (·.rbuf))[j]? = some rj.rbuf by simp [found])
  exact ⟨rj.fill res' rbuf', getElem?_zipWith_of_getElem? found (getElem?_zipWith_of_getElem?
    (by rw [List.getElem?_drop]; exact resAt) (by rw [List.getElem?_drop]; exact rbufAt)), rfl, rfl,
    (refill_of_length (width.trans rj.res_length.symm)).trans (resCovered (by rw [Nat.mul_succ]; omega)),
    rbufCovered (by omega)⟩

theorem map_res_zipWith_rbuf : ∀ (kept : List WriteReadRequest) (rbufs : List Bytes),
    kept.length ≤ rbufs.length →
    (List.zipWith (fun r rbuf => { r with rbuf }) kept rbufs).map (·.res) = kept.map (·.res)
  | [], _, _ => rfl
  | _ :: _, [], longer => absurd longer (by simp)
  | first :: rest, buf :: more, longer => by
    simp only [List.zipWith_cons_cons, List.map_cons,
      map_res_zipWith_rbuf rest more (by simpa using longer)]

/-- After `write_read_multi` returned `Ok` on a reply that reaches past every
buffer, request `i`'s `ResultLength` is the one the reply carried for it, its
length fits its buffer, and its buffer starts with the reply's bytes for it,
packed after those of the requests before it. -/
theorem writeReadMulti_results {target source : AmsAddr} {invokeId : UInt32} {reply : Bytes}
    (framed : Framed reply) {requests after : List WriteReadRequest}
    (done : Device.writeReadMulti (communicateWith target source invokeId reply) requests =
      .ok (.ok after))
    (complete : 4 + 8 * requests.length + capacity (requests.map (·.rbuf)) ≤
      reply.length - (AMS_HEADER_SIZE + 4))
    {i : Nat} {r : WriteReadRequest} (found : requests[i]? = some r) :
    ∃ r', after[i]? = some r' ∧ r'.req = r.req ∧ r'.wbuf = r.wbuf ∧
      r'.res = window (reply.drop (AMS_HEADER_SIZE + 4)) (4 + 8 * i) 8 ∧
      r'.rbuf.length = r.rbuf.length ∧ lengthWord r'.res ≤ r.rbuf.length ∧
      r'.rbuf.take (lengthWord r'.res) = window (reply.drop (AMS_HEADER_SIZE + 4))
        (4 + 8 * requests.length + ((after.take i).map fun r => lengthWord r.res).sum)
        (lengthWord r'.res) := by
  obtain ⟨header, n, filled, rbufs, exchanged, fixed, rfl⟩ := writeReadMulti_eq_ok done
  have delivered := communicateWith_delivered framed exchanged
  rw [Delivered.returned delivered] at delivered
  obtain ⟨refilledLength, refilledAt⟩ := refilled_of_complete delivered complete
  set refilled := List.zipWith (fun r (res, rbuf) => WriteReadRequest.fill r res rbuf) requests
    ((filled.drop 1).zip (filled.drop (1 + requests.length)))
  set payload := reply.drop (AMS_HEADER_SIZE + 4)
  set pairs := refilled.map fun r => (r.rbuf, lengthWord r.res)
  have fits := fits_of_fixupWriteReadReturnBuffers fixed
  obtain ⟨bufs, ran, bufsLength, inPlace⟩ := fixupWriteReadReturnBuffers_inPlace fits
  rw [fixed, Except.ok.injEq] at ran
  subst ran
  have payloadLength : payload.length = reply.length - (AMS_HEADER_SIZE + 4) := List.length_drop _ _
  have dataInside : ∀ k (rk : WriteReadRequest), requests[k]? = some rk →
      4 + 8 * requests.length + capacity ((requests.map (·.rbuf)).take k) + rk.rbuf.length ≤
        payload.length := fun k rk atK => by
    have := capacity_take_add (show (requests.map (·.rbuf))[k]? = some rk.rbuf by simp [atK])
    omega
  -- The buffers as `communicate` left them are consecutive windows of the payload.
  have pairsAt : ∀ k, pairs[k]? = requests[k]?.map fun rk =>
      (window payload (4 + 8 * requests.length + capacity ((requests.map (·.rbuf)).take k))
        rk.rbuf.length, lengthWord (window payload (4 + 8 * k) 8)) := fun k => by
    cases atK : requests[k]? with
    | none => simp [pairs, refilledLength, List.getElem?_eq_none_iff.mp atK]
    | some rk =>
      obtain ⟨r', at', -, -, resEq, rbufEq⟩ := refilledAt k rk atK
      simp [pairs, at', resEq, rbufEq]
  have lengths : (pairs.map Prod.fst).map List.length = (requests.map (·.rbuf)).map List.length := by
    refine List.ext_getElem? fun k => ?_
    simp only [List.getElem?_map, pairsAt, Option.map_map]
    cases atK : requests[k]? with
    | none => rfl
    | some rk => simp [length_window_of_le (dataInside k rk atK)]
  have capacityEq : capacity (pairs.map Prod.fst) = capacity (requests.map (·.rbuf)) := by
    rw [capacity, lengths]
    rfl
  have packedEq : packed pairs = window payload (4 + 8 * requests.length)
      (capacity (requests.map (·.rbuf))) := by
    rw [packed, flatten_of_windows payload (pairs.map Prod.fst) _ fun k buf atK => ?_]
    · rw [← capacity, capacityEq]
    · rw [List.getElem?_map, pairsAt] at atK
      obtain ⟨rk, atRequest, rfl⟩ := Option.map_eq_some'.mp (Option.map_map _ _ _ ▸ atK)
      simp only [Function.comp_apply]
      rw [length_window_of_le (dataInside k rk atRequest), List.map_take, lengths]
      simp only [capacity, List.map_take]
  -- Request `i` itself.
  have pairAt := pairsAt i
  rw [found, Option.map_some'] at pairAt
  obtain ⟨buf, atBuf, bufLength, copied⟩ := inPlace i _ pairAt
  rw [length_window_of_le (dataInside i r found)] at bufLength
  have fitsI := fits _ (List.getElem?_mem pairAt)
  rw [length_window_of_le (dataInside i r found)] at fitsI
  -- The lengths before `i` as the accessors see them.
  have before : ((List.zipWith (fun r rbuf => { r with rbuf }) refilled rbufs).take i).map
      (fun r => lengthWord r.res) = (pairs.take i).map Prod.snd := by
    rw [show (fun r : WriteReadRequest => lengthWord r.res) = lengthWord ∘ WriteReadRequest.res
      from rfl, ← List.map_map, List.map_take,
      map_res_zipWith_rbuf refilled rbufs (by simp [bufsLength, pairs])]
    simp only [pairs, List.map_take, List.map_map]
    rfl
  have spans : packedStart pairs i + lengthWord (window payload (4 + 8 * i) 8) ≤
      capacity (requests.map (·.rbuf)) := by
    have step := packedStart_succ pairAt
    have bounded := packedStart_le_bufferStart fits (i + 1)
    have whole := List.sum_take_add_sum_drop (pairs.map fun request => request.1.length) (i + 1)
    have total : capacity (requests.map (·.rbuf)) = (pairs.map fun request => request.1.length).sum := by
      rw [← capacityEq, capacity, List.map_map]
      rfl
    rw [bufferStart, List.map_take] at bounded
    omega
  obtain ⟨r', refilledI, reqEq, wbufEq, resEq, -⟩ := refilledAt i r found
  refine ⟨{ r' with rbuf := buf }, getElem?_zipWith_of_getElem? refilledI atBuf, reqEq, wbufEq, resEq,
    bufLength, by show lengthWord r'.res ≤ _; rw [resEq]; exact fitsI, ?_⟩
  show buf.take (lengthWord r'.res) = _
  rw [resEq, before]
  have taken : buf.take (lengthWord (window payload (4 + 8 * i) 8)) =
      window buf 0 (lengthWord (window payload (4 + 8 * i) 8)) := by simp [window]
  rw [taken, copied, packedEq, window_window spans]
  rfl

/-- `recordHandles` keeps the handles it had and adds every handle an
accessor returns. -/
theorem mem_recordHandles {addr : AmsAddr} :
    ∀ {requests : List AddNotifRequest} {handles : HandleSet} {entry : AmsAddr × Nat},
      entry ∈ recordHandles addr handles requests ↔
        entry ∈ handles ∨ ∃ r ∈ requests, ∃ handle, r.handle = .ok (.ok handle) ∧
          entry = (addr, handle) := by
  intro requests
  induction requests with
  | nil => simp [recordHandles]
  | cons first rest inductionHypothesis =>
    intro handles entry
    unfold recordHandles
    split <;> rename_i returned
    · simp only [inductionHypothesis, Finset.mem_insert, List.mem_cons, or_and_right, exists_or,
        exists_eq_left, returned, Except.ok.injEq, exists_eq_left', or_assoc, or_left_comm]
    · have unrecorded : ¬ ∃ handle, first.handle = .ok (.ok handle) ∧ entry = (addr, handle) :=
        fun ⟨handle, ok, _⟩ => returned handle ok
      simp only [inductionHypothesis, List.mem_cons, or_and_right, exists_or, exists_eq_left,
        unrecorded, false_or]

/-! ## Replies that do not answer every request -/

/-- A reply to a one-request `write_multi` that ends after the outer
`read_len`: its `data_length` of 8 counts the result word and `read_len`, and
there is no result word for the request. -/
def truncatedSumUpReply : Bytes :=
  [0, 0, 40, 0, 0, 0] ++ sampleClient.bytes ++ sampleDevice.bytes ++
    [9, 0, 5, 0, 8, 0, 0, 0, 0, 0, 0, 0, 0, 0, 0, 0] ++ [0, 0, 0, 0] ++ [4, 0, 0, 0]

theorem write_multi_unanswered_success :
    Framed truncatedSumUpReply ∧ truncatedSumUpReply.length < AMS_HEADER_SIZE + 4 + 4 + 4 ∧
      ∃ request after, WriteRequest.new 0x4020 0 [1, 2] = .ok request ∧
        Device.writeMulti (communicateWith sampleDevice sampleClient 0 truncatedSumUpReply)
          [request] = .ok (.ok after) ∧
        after.map WriteRequest.ensure = [.ok (.ok ())] :=
  ⟨⟨by decide, rfl⟩, by decide, _, _, rfl, rfl, rfl⟩

/-- A new write request for two bytes at `0x4020:0`, and a new request for
on-change notifications of four bytes there, every 100 ms at most. -/
def sampleWriteRequest : WriteRequest :=
  ⟨indexLength 0x4020 0 2, zeros 4, [1, 2], length_indexLength .., length_zeros 4⟩

@[inherit_doc sampleWriteRequest]
def sampleAddRequest : AddNotifRequest :=
  ⟨leBytes 4 0x4020 ++ leBytes 4 0 ++ leBytes 4 4 ++ leBytes 4 4 ++ leBytes 4 0 ++ leBytes 4 100 ++
    zeros 16, zeros 8, by simp, length_zeros 8⟩

/-- A new write request that the reply does not reach reports success. -/
theorem writeMulti_unreached_success {target source : AmsAddr} {invokeId : UInt32}
    {reply : Bytes} (framed : Framed reply) {requests after : List WriteRequest}
    (fresh : ∀ r ∈ requests, r.res = zeros 4)
    (done : Device.writeMulti (communicateWith target source invokeId reply) requests =
      .ok (.ok after))
    {i : Nat} {r : WriteRequest} (found : requests[i]? = some r)
    (unreached : reply.length - (AMS_HEADER_SIZE + 4) ≤ 4 + 4 * i) :
    ∃ r', after[i]? = some r' ∧ r'.ensure = .ok (.ok ()) := by
  obtain ⟨r', at', -, -, -, -, past⟩ := writeMulti_results framed done found
  refine ⟨r', at', ?_⟩
  rw [WriteRequest.ensure, past unreached, fresh r (List.getElem?_mem found)]
  rfl

theorem writeMulti_unreached_success_truncated :
    Framed truncatedSumUpReply ∧ WriteRequest.new 0x4020 0 [1, 2] = .ok sampleWriteRequest ∧
      (∀ r ∈ [sampleWriteRequest], r.res = zeros 4) ∧
      Device.writeMulti (communicateWith sampleDevice sampleClient 0 truncatedSumUpReply)
        [sampleWriteRequest] = .ok (.ok [sampleWriteRequest]) ∧
      truncatedSumUpReply.length - (AMS_HEADER_SIZE + 4) ≤ 4 + 4 * 0 ∧
      ∃ r', [sampleWriteRequest][0]? = some r' ∧ r'.ensure = .ok (.ok ()) :=
  have framed : Framed truncatedSumUpReply := ⟨by decide, rfl⟩
  have fresh : ∀ r ∈ [sampleWriteRequest], r.res = zeros 4 := by simp [sampleWriteRequest]
  have done : Device.writeMulti (communicateWith sampleDevice sampleClient 0 truncatedSumUpReply)
      [sampleWriteRequest] = .ok (.ok [sampleWriteRequest]) := rfl
  have unreached : truncatedSumUpReply.length - (AMS_HEADER_SIZE + 4) ≤ 4 + 4 * 0 := by decide
  ⟨framed, rfl, fresh, done, unreached, writeMulti_unreached_success framed fresh done rfl unreached⟩

/-- A new notification request that the reply does not reach returns handle 0,
and `notif_handles` records that handle for the device. -/
theorem addNotificationMulti_unreached_handle {target source : AmsAddr} {invokeId : UInt32}
    {reply : Bytes} (framed : Framed reply) {addr : AmsAddr} {handles handles' : HandleSet}
    {requests after : List AddNotifRequest} (fresh : ∀ r ∈ requests, r.res = zeros 8)
    (done : Device.addNotificationMulti (communicateWith target source invokeId reply) addr
      handles requests = .ok (.ok (after, handles')))
    {i : Nat} {r : AddNotifRequest} (found : requests[i]? = some r)
    (unreached : reply.length - (AMS_HEADER_SIZE + 4) ≤ 4 + 8 * i) :
    ∃ r', after[i]? = some r' ∧ r'.handle = .ok (.ok 0) ∧ (addr, 0) ∈ handles' := by
  obtain ⟨recorded, r', at', -, -, -, past⟩ := addNotificationMulti_results framed done found
  have zero : r'.handle = .ok (.ok 0) := by
    rw [AddNotifRequest.handle, past unreached, fresh r (List.getElem?_mem found)]
    rfl
  exact ⟨r', at', zero, recorded ▸ mem_recordHandles.mpr
    (.inr ⟨r', List.getElem?_mem at', 0, zero, rfl⟩)⟩

theorem addNotificationMulti_unreached_handle_truncated :
    Framed truncatedSumUpReply ∧
      AddNotifRequest.new 0x4020 0 ⟨4, .serverOnChange, 0, 100⟩ = .ok sampleAddRequest ∧
      (∀ r ∈ [sampleAddRequest], r.res = zeros 8) ∧
      Device.addNotificationMulti (communicateWith sampleDevice sampleClient 0 truncatedSumUpReply)
          sampleDevice ∅ [sampleAddRequest] =
        .ok (.ok ([sampleAddRequest], recordHandles sampleDevice ∅ [sampleAddRequest])) ∧
      truncatedSumUpReply.length - (AMS_HEADER_SIZE + 4) ≤ 4 + 8 * 0 ∧
      ∃ r', [sampleAddRequest][0]? = some r' ∧ r'.handle = .ok (.ok 0) ∧
        (sampleDevice, 0) ∈ recordHandles sampleDevice ∅ [sampleAddRequest] :=
  have framed : Framed truncatedSumUpReply := ⟨by decide, rfl⟩
  have fresh : ∀ r ∈ [sampleAddRequest], r.res = zeros 8 := by simp [sampleAddRequest]
  have done : Device.addNotificationMulti (communicateWith sampleDevice sampleClient 0 truncatedSumUpReply)
      sampleDevice ∅ [sampleAddRequest] =
      .ok (.ok ([sampleAddRequest], recordHandles sampleDevice ∅ [sampleAddRequest])) := rfl
  have unreached : truncatedSumUpReply.length - (AMS_HEADER_SIZE + 4) ≤ 4 + 8 * 0 := by decide
  ⟨framed, rfl, fresh, done, unreached,
    addNotificationMulti_unreached_handle framed fresh done rfl unreached⟩

/-- A reply to a one-request `read_multi` for an empty buffer whose result
field says success and one byte of data. -/
def overlongSumUpReply : Bytes :=
  [0, 0, 48, 0, 0, 0] ++ sampleClient.bytes ++ sampleDevice.bytes ++
    [9, 0, 5, 0, 16, 0, 0, 0, 0, 0, 0, 0, 0, 0, 0, 0] ++ [0, 0, 0, 0] ++ [12, 0, 0, 0] ++
    [0, 0, 0, 0, 1, 0, 0, 0]

theorem readMulti_results_overlong :
    Framed overlongSumUpReply ∧
      Device.readMulti (communicateWith sampleDevice sampleClient 0 overlongSumUpReply)
          [⟨indexLength 0x4020 0 0, zeros 8, [], length_indexLength .., length_zeros 8⟩] =
        .ok (.ok [⟨indexLength 0x4020 0 0, [0, 0, 0, 0, 1, 0, 0, 0], [], length_indexLength .., rfl⟩]) ∧
      [0, 0, 0, 0, 1, 0, 0, 0] = window (overlongSumUpReply.drop (AMS_HEADER_SIZE + 4)) 4 8 := by
  have framed : Framed overlongSumUpReply := ⟨by decide, rfl⟩
  have done : Device.readMulti (communicateWith sampleDevice sampleClient 0 overlongSumUpReply)
      [⟨indexLength 0x4020 0 0, zeros 8, [], length_indexLength .., length_zeros 8⟩] =
      .ok (.ok [⟨indexLength 0x4020 0 0, [0, 0, 0, 0, 1, 0, 0, 0], [], length_indexLength .., rfl⟩]) := rfl
  obtain ⟨r', found, -, -, -, reached, -⟩ :=
    @readMulti_results sampleDevice sampleClient 0 _ framed _ _ done 0 _ rfl
  simp only [List.getElem?_cons_zero, Option.some.injEq] at found
  subst found
  exact ⟨framed, done, reached (by decide)⟩

theorem readMulti_data_panics_overlong :
    Framed overlongSumUpReply ∧
      Device.readMulti (communicateWith sampleDevice sampleClient 0 overlongSumUpReply)
          [⟨indexLength 0x4020 0 0, zeros 8, [], length_indexLength .., length_zeros 8⟩] =
        .ok (.ok [⟨indexLength 0x4020 0 0, [0, 0, 0, 0, 1, 0, 0, 0], [], length_indexLength .., rfl⟩]) ∧
      4 + 8 * (0 + 1) ≤ overlongSumUpReply.length - (AMS_HEADER_SIZE + 4) ∧
      ReadRequest.data ⟨indexLength 0x4020 0 0, [0, 0, 0, 0, 1, 0, 0, 0], [], length_indexLength .., rfl⟩ =
        .error .indexOutOfRange ∧
      ∃ r', [(⟨indexLength 0x4020 0 0, [0, 0, 0, 0, 1, 0, 0, 0], [], length_indexLength .., rfl⟩ :
          ReadRequest)][0]? = some r' ∧
        (r'.data = .error .indexOutOfRange ↔
          resultWord (window (overlongSumUpReply.drop (AMS_HEADER_SIZE + 4)) (4 + 8 * 0) 8) = 0 ∧
            ([] : Bytes).length < lengthWord (window (overlongSumUpReply.drop (AMS_HEADER_SIZE + 4)) (4 + 8 * 0) 8)) :=
  have framed : Framed overlongSumUpReply := ⟨by decide, rfl⟩
  have done : Device.readMulti (communicateWith sampleDevice sampleClient 0 overlongSumUpReply)
      [⟨indexLength 0x4020 0 0, zeros 8, [], length_indexLength .., length_zeros 8⟩] =
      .ok (.ok [⟨indexLength 0x4020 0 0, [0, 0, 0, 0, 1, 0, 0, 0], [], length_indexLength .., rfl⟩]) := rfl
  have reached : 4 + 8 * (0 + 1) ≤ overlongSumUpReply.length - (AMS_HEADER_SIZE + 4) := by decide
  ⟨framed, done, reached, rfl, readMulti_data_panics framed done rfl reached⟩

/-- A reply to a one-request `write_read_multi` that returns two bytes for
its two-byte buffer. -/
def writeReadSumUpReply : Bytes :=
  [0, 0, 50, 0, 0, 0] ++ sampleClient.bytes ++ sampleDevice.bytes ++
    [9, 0, 5, 0, 18, 0, 0, 0, 0, 0, 0, 0, 0, 0, 0, 0] ++ [0, 0, 0, 0] ++ [10, 0, 0, 0] ++
    [0, 0, 0, 0, 2, 0, 0, 0] ++ [5, 6]

theorem writeReadMulti_results_complete :
    Framed writeReadSumUpReply ∧
      Device.writeReadMulti (communicateWith sampleDevice sampleClient 0 writeReadSumUpReply)
          [⟨indexLengthRW 0x4020 0 2 1, zeros 8, [9], [7, 7], length_indexLengthRW .., length_zeros 8⟩] =
        .ok (.ok [⟨indexLengthRW 0x4020 0 2 1, [0, 0, 0, 0, 2, 0, 0, 0], [9], [5, 6],
        length_indexLengthRW .., rfl⟩]) ∧
      [5, 6] = window (writeReadSumUpReply.drop (AMS_HEADER_SIZE + 4)) 12 2 := by
  have framed : Framed writeReadSumUpReply := ⟨by decide, rfl⟩
  have done : Device.writeReadMulti (communicateWith sampleDevice sampleClient 0 writeReadSumUpReply)
      [⟨indexLengthRW 0x4020 0 2 1, zeros 8, [9], [7, 7], length_indexLengthRW .., length_zeros 8⟩] =
      .ok (.ok [⟨indexLengthRW 0x4020 0 2 1, [0, 0, 0, 0, 2, 0, 0, 0], [9], [5, 6],
        length_indexLengthRW .., rfl⟩]) := rfl
  obtain ⟨r', found, -, -, -, -, -, packed⟩ :=
    @writeReadMulti_results sampleDevice sampleClient 0 _ framed _ _ done (by decide) 0 _ rfl
  simp only [List.getElem?_cons_zero, Option.some.injEq] at found
  subst found
  exact ⟨framed, done, packed⟩

end AdsClient
