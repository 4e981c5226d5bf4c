import AdsClient.Device.SumUp

/-!
# The frame of a sum-up request

Each sum-up operation computes the two totals of its `IndexLengthRW` header
by one iterator over the requests (`8 + rbuf.len()` for each request, or a
fixed width times the count) and assembles the buffers it hands to
`communicate` by a separate loop.  The two agree because every request
carries the widths its Rust type gives its header and result field: the
header's `read_length` is the byte total of the read buffers after the
leading length word, and its `write_length` the byte total of the write
buffers after the header.

`SumUpCall` says what an operation does before its exchange; the main result
is `sumUp_request_framing`, over all five operations.
-/

namespace AdsClient

/-! ## The header fields -/

theorem readField_middle (front back : Bytes) {value : Nat} (fits : value < 2 ^ 32) :
    readField (front ++ leBytes 4 value ++ back) front.length (front.length + 4) = .ok value := by
  rw [readField_of_slice (by simpa using slice_middle front (leBytes 4 value) back),
    leValue_leBytes_of_lt (by simpa using fits)]

/-- The four words of an `IndexLengthRW` read back from their offsets. -/
theorem indexLengthRW_fields {indexGroup indexOffset readLength writeLength : Nat}
    (fits : indexGroup < 2 ^ 32 ∧ indexOffset < 2 ^ 32 ∧ readLength < 2 ^ 32 ∧ writeLength < 2 ^ 32) :
    readField (indexLengthRW indexGroup indexOffset readLength writeLength) 0 4 = .ok indexGroup ∧
      readField (indexLengthRW indexGroup indexOffset readLength writeLength) 4 8 = .ok indexOffset ∧
      readField (indexLengthRW indexGroup indexOffset readLength writeLength) 8 12 = .ok readLength ∧
      readField (indexLengthRW indexGroup indexOffset readLength writeLength) 12 16 =
        .ok writeLength := by
  refine ⟨?_, ?_, ?_, ?_⟩
  · simpa [indexLengthRW, List.append_assoc] using
      readField_middle [] (leBytes 4 indexOffset ++ leBytes 4 readLength ++ leBytes 4 writeLength) fits.1
  · simpa [indexLengthRW, List.append_assoc] using
      readField_middle (leBytes 4 indexGroup) (leBytes 4 readLength ++ leBytes 4 writeLength) fits.2.1
  · simpa [indexLengthRW, List.append_assoc] using
      readField_middle (leBytes 4 indexGroup ++ leBytes 4 indexOffset) (leBytes 4 writeLength) fits.2.2.1
  · simpa [indexLengthRW, List.append_assoc] using
      readField_middle (leBytes 4 indexGroup ++ leBytes 4 indexOffset ++ leBytes 4 readLength) []
        fits.2.2.2

/-! ## The header totals -/

/-- `sumUpHeader` fails exactly when the count or a total exceeds a `u32`, and
otherwise writes all three unchanged. -/
theorem sumUpHeader_eq (indexGroup count readLen writeLen : Nat) :
    sumUpHeader indexGroup count readLen writeLen =
      if count < 2 ^ 32 ∧ readLen < 2 ^ 32 ∧ writeLen < 2 ^ 32 then
        .ok (indexLengthRW indexGroup count readLen writeLen)
      else .error .invalidData := by
  unfold sumUpHeader toU32
  split_ifs <;> simp_all [toNat_ofNat_u32] <;> omega

/-- A total of a fixed width plus one buffer per request is the width times the
count plus the total of the buffers. -/
theorem sum_map_add_length {β : Type} (items : List β) (width : Nat) (part : β → Bytes) :
    (items.map fun item => width + (part item).length).sum =
      width * items.length + capacity (items.map part) := by
  induction items with
  | nil => rfl
  | cons item rest inductionHypothesis =>
    simp only [List.map_cons, List.sum_cons, inductionHypothesis, capacity_cons, List.length_cons,
      Nat.mul_succ]
    omega

/-- Fields of one width total that width times their number. -/
theorem capacity_map_of_widths {β : Type} {items : List β} {part : β → Bytes} {width : Nat}
    (widths : ∀ item ∈ items, (part item).length = width) :
    capacity (items.map part) = width * items.length := by
  rw [capacity_of_widths (by simpa using widths), List.length_map]

/-! ## What an operation does before its exchange -/

/-- What a sum-up operation does before `communicate`, for the write buffers
`writeBuffers` it sends after its header and the read buffers `readBuffers` it
receives into after the length word.  When the request count and the totals of
both lists fit a `u32`, it calls `communicate` once, with a 16-byte header
whose four little-endian words are its index group, the count and the two
totals in front of `writeBuffers`, and a zeroed length word in front of
`readBuffers`, and continues from the answer alone.  Otherwise it returns `InvalidData` whatever `communicate` is,
so it calls nothing. -/
def SumUpCall {α : Type} (operation : Exchange → Except Panic (Except AdsError α))
    (indexGroup count : Nat) (writeBuffers readBuffers : List Bytes) : Prop :=
  if count < 2 ^ 32 ∧ capacity readBuffers < 2 ^ 32 ∧ capacity writeBuffers < 2 ^ 32 then
    ∃ (header : Bytes) (continuation : Except AdsError (Nat × List Bytes) → Except Panic (Except AdsError α)),
      header.length = 16 ∧ readField header 0 4 = .ok indexGroup ∧ readField header 4 8 = .ok count ∧
      readField header 8 12 = .ok (capacity readBuffers) ∧
      readField header 12 16 = .ok (capacity writeBuffers) ∧
      ∀ communicate : Exchange, operation communicate =
        communicate (header :: writeBuffers) (zeros 4 :: readBuffers) >>= continuation
  else ∀ communicate : Exchange, operation communicate = pure (.error .invalidData)

/-- An operation that matches on `sumUpHeader` over the totals of its own
buffer lists makes the call `SumUpCall` describes. -/
theorem sumUpCall_of_eq {α : Type} {operation : Exchange → Except Panic (Except AdsError α)}
    {indexGroup count : Nat} {writeBuffers readBuffers : List Bytes}
    {continuation : Except AdsError (Nat × List Bytes) → Except Panic (Except AdsError α)}
    (group : indexGroup < 2 ^ 32)
    (unfolded : ∀ communicate, operation communicate =
      match sumUpHeader indexGroup count (capacity readBuffers) (capacity writeBuffers) with
      | .error error => pure (.error error)
      | .ok header => communicate (header :: writeBuffers) (zeros 4 :: readBuffers) >>= continuation) :
    SumUpCall operation indexGroup count writeBuffers readBuffers := by
  unfold SumUpCall
  split_ifs with fits
  · obtain ⟨groupField, countField, readField, writeField⟩ :=
      indexLengthRW_fields ⟨group, fits.1, fits.2.1, fits.2.2⟩
    exact ⟨_, continuation, length_indexLengthRW .., groupField, countField, readField, writeField,
      fun communicate => by rw [unfolded, sumUpHeader_eq, if_pos fits]⟩
  · exact fun communicate => by rw [unfolded, sumUpHeader_eq, if_neg fits]

theorem readMulti_call {requests : List ReadRequest} :
    SumUpCall (Device.readMulti · requests) SUMUP_READ_EX requests.length
      (requests.map (·.req)) (requests.map (·.res) ++ requests.map (·.rbuf)) := by
  have readTotal : (requests.map fun r => 8 + r.rbuf.length).sum =
      capacity (requests.map (·.res) ++ requests.map (·.rbuf)) := by
    rw [sum_map_add_length, capacity_append,
      @capacity_map_of_widths ReadRequest requests (·.res) _ fun r _ => r.res_length]
  have writeTotal : 12 * requests.length = capacity (requests.map (·.req)) :=
    (capacity_map_of_widths fun r _ => r.req_length).symm
  exact sumUpCall_of_eq (by decide) fun communicate => by
    simp only [Device.readMulti, readTotal, writeTotal]
    rfl

theorem writeMulti_call {requests : List WriteRequest} :
    SumUpCall (Device.writeMulti · requests) SUMUP_WRITE requests.length
      (requests.map (·.req) ++ requests.map (·.wbuf)) (requests.map (·.res)) := by
  have readTotal : 4 * requests.length = capacity (requests.map (·.res)) :=
    (capacity_map_of_widths fun r _ => r.res_length).symm
  have writeTotal : (requests.map fun r => 12 + r.wbuf.length).sum =
      capacity (requests.map (·.req) ++ requests.map (·.wbuf)) := by
    rw [sum_map_add_length, capacity_append,
      @capacity_map_of_widths WriteRequest requests (·.req) _ fun r _ => r.req_length]
  exact sumUpCall_of_eq (by decide) fun communicate => by
    simp only [Device.writeMulti, readTotal, writeTotal]
    rfl

theorem writeReadMulti_call {requests : List WriteReadRequest} :
    SumUpCall (Device.writeReadMulti · requests) SUMUP_READWRITE requests.length
      (requests.map (·.req) ++ requests.map (·.wbuf)) (requests.map (·.res) ++ requests.map (·.rbuf)) := by
  have readTotal : (requests.map fun r => 8 + r.rbuf.length).sum =
      capacity (requests.map (·.res) ++ requests.map (·.rbuf)) := by
    rw [sum_map_add_length, capacity_append,
      @capacity_map_of_widths WriteReadRequest requests (·.res) _ fun r _ => r.res_length]
  have writeTotal : (requests.map fun r => 16 + r.wbuf.length).sum =
      capacity (requests.map (·.req) ++ requests.map (·.wbuf)) := by
    rw [sum_map_add_length, capacity_append,
      @capacity_map_of_widths WriteReadRequest requests (·.req) _ fun r _ => r.req_length]
  exact sumUpCall_of_eq (by decide) fun communicate => by
    simp only [Device.writeReadMulti, readTotal, writeTotal]
    rfl

theorem addNotificationMulti_call {addr : AmsAddr} {handles : HandleSet}
    {requests : List AddNotifRequest} :
    SumUpCall (Device.addNotificationMulti · addr handles requests) SUMUP_ADDDEVNOTE requests.length
      (requests.map (·.req)) (requests.map (·.res)) := by
  have readTotal : 8 * requests.length = capacity (requests.map (·.res)) :=
    (capacity_map_of_widths fun r _ => r.res_length).symm
  have writeTotal : 40 * requests.length = capacity (requests.map (·.req)) :=
    (capacity_map_of_widths fun r _ => r.req_length).symm
  exact sumUpCall_of_eq (by decide) fun communicate => by
    simp only [Device.addNotificationMulti, readTotal, writeTotal]
    rfl

theorem deleteNotificationMulti_call {addr : AmsAddr} {handles : HandleSet}
    {requests : List DelNotifRequest} :
    SumUpCall (Device.deleteNotificationMulti · addr handles requests) SUMUP_DELDEVNOTE
      requests.length (requests.map (·.req)) (requests.map (·.res)) := by
  have readTotal : 4 * requests.length = capacity (requests.map (·.res)) :=
    (capacity_map_of_widths fun r _ => r.res_length).symm
  have writeTotal : 4 * requests.length = capacity (requests.map (·.req)) :=
    (capacity_map_of_widths fun r _ => r.req_length).symm
  exact sumUpCall_of_eq (by decide) fun communicate => by
    simp only [Device.deleteNotificationMulti, ← readTotal, ← writeTotal]
    rfl

/-- Every sum-up operation, over every list of requests, frames its exchange
as `SumUpCall` says: its header's words, read back as the device reads them,
are the index group, the request count and the byte totals of the buffers
that follow the length word and the header, the write buffers are the
sub-request headers and then the write data, the read buffers the result
fields and then the read buffers, each in request order. -/
theorem sumUp_request_framing :
    (∀ requests : List ReadRequest,
      SumUpCall (Device.readMulti · requests) SUMUP_READ_EX requests.length
        (requests.map (·.req)) (requests.map (·.res) ++ requests.map (·.rbuf))) ∧
    (∀ requests : List WriteRequest,
      SumUpCall (Device.writeMulti · requests) SUMUP_WRITE requests.length
        (requests.map (·.req) ++ requests.map (·.wbuf)) (requests.map (·.res))) ∧
    (∀ requests : List WriteReadRequest,
      SumUpCall (Device.writeReadMulti · requests) SUMUP_READWRITE requests.length
        (requests.map (·.req) ++ requests.map (·.wbuf))
        (requests.map (·.res) ++ requests.map (·.rbuf))) ∧
    (∀ (addr : AmsAddr) (handles : HandleSet) (requests : List AddNotifRequest),
      SumUpCall (Device.addNotificationMulti · addr handles requests) SUMUP_ADDDEVNOTE
        requests.length (requests.map (·.req)) (requests.map (·.res))) ∧
    (∀ (addr : AmsAddr) (handles : HandleSet) (requests : List DelNotifRequest),
      SumUpCall (Device.deleteNotificationMulti · addr handles requests) SUMUP_DELDEVNOTE
        requests.length (requests.map (·.req)) (requests.map (·.res))) :=
  ⟨fun _ => readMulti_call, fun _ => writeMulti_call, fun _ => writeReadMulti_call,
    fun _ _ _ => addNotificationMulti_call, fun _ _ _ => deleteNotificationMulti_call⟩

end AdsClient
