import AdsClient.Wire.Header

/-!
# The request `communicate` writes

`ClientInner::communicate` sums the lengths of its input buffers, builds an
`AdsHeader` whose two length fields go through `try_into`/`u32::try_from`,
and concatenates the header's bytes with the inputs into the one buffer it
writes to the socket.  The `?` on either conversion returns `InvalidData`
before the reply map or the socket is touched.

What the fixed offsets of a frame read from the request is
`AdsHeader.decodes`; the communicate-level statement, with the reply map, is
in `AdsClient.Engine.Multiplexer`.
-/

namespace AdsClient

/-- The header of lines 331–344 of `client.rs`. -/
def communicateHeader (cmd : Command) (target source : AmsAddr) (invokeId : UInt32)
    (dataInLen : Nat) : Except AdsError AdsHeader := do
  let length ← toU32 (AMS_HEADER_SIZE - TCP_HEADER_SIZE + dataInLen)
  let dataLength ← toU32 dataInLen
  pure
    { amsCmd := 0
      length
      destNetid := target.netid
      destPort := target.port
      srcNetid := source.netid
      srcPort := source.port
      command := UInt16.ofNat cmd.code
      stateFlags := 4
      dataLength
      errorCode := 0
      invokeId }

/-- The bytes `communicate` writes: `header.as_bytes()` followed by every
buffer of `data_in`. -/
def buildRequest (cmd : Command) (target source : AmsAddr) (invokeId : UInt32)
    (dataIn : List Bytes) : Except AdsError Bytes := do
  let header ← communicateHeader cmd target source invokeId (dataIn.map List.length).sum
  pure (header.asBytes ++ dataIn.flatten)

theorem length_join_eq_sum (dataIn : List Bytes) :
    dataIn.flatten.length = (dataIn.map List.length).sum := by
  induction dataIn with
  | nil => rfl
  | cons buffer rest inductionHypothesis => simp [inductionHypothesis]

/-- The header `communicate` builds for a payload of `dataInLen` bytes that fits. -/
def requestHeader (cmd : Command) (target source : AmsAddr) (invokeId : UInt32)
    (dataInLen : Nat) : AdsHeader :=
  { amsCmd := 0, length := UInt32.ofNat (32 + dataInLen),
    destNetid := target.netid, destPort := target.port,
    srcNetid := source.netid, srcPort := source.port,
    command := UInt16.ofNat cmd.code, stateFlags := 4,
    dataLength := UInt32.ofNat dataInLen, errorCode := 0, invokeId }

theorem communicateHeader_of_fits {cmd : Command} {target source : AmsAddr}
    {invokeId : UInt32} {dataInLen : Nat} (fits : 32 + dataInLen < 2 ^ 32) :
    communicateHeader cmd target source invokeId dataInLen =
      .ok (requestHeader cmd target source invokeId dataInLen) := by
  simp [communicateHeader, AMS_HEADER_SIZE, TCP_HEADER_SIZE,
    toU32_eq_ok fits, toU32_eq_ok (show dataInLen < 2 ^ 32 by omega)]
  rfl

theorem buildRequest_of_overflow {cmd : Command} {target source : AmsAddr}
    {invokeId : UInt32} {dataIn : List Bytes}
    (overflow : ¬ 32 + (dataIn.map List.length).sum < 2 ^ 32) :
    buildRequest cmd target source invokeId dataIn = .error .invalidData := by
  simp [buildRequest, communicateHeader, AMS_HEADER_SIZE, TCP_HEADER_SIZE,
    toU32_eq_error overflow]

/-- A request whose payload fits: the header's bytes, then the payload. -/
theorem buildRequest_of_fits {cmd : Command} {target source : AmsAddr}
    {invokeId : UInt32} {dataIn : List Bytes}
    (fits : 32 + (dataIn.map List.length).sum < 2 ^ 32) :
    buildRequest cmd target source invokeId dataIn =
      .ok ((requestHeader cmd target source invokeId (dataIn.map List.length).sum).asBytes ++
        dataIn.flatten) := by
  simp only [buildRequest, communicateHeader_of_fits fits]
  rfl

theorem buildRequest_eq_ok {cmd : Command} {target source : AmsAddr} {invokeId : UInt32}
    {dataIn : List Bytes} {request : Bytes}
    (built : buildRequest cmd target source invokeId dataIn = .ok request) :
    32 + (dataIn.map List.length).sum < 2 ^ 32 ∧
      request = (requestHeader cmd target source invokeId (dataIn.map List.length).sum).asBytes ++
        dataIn.flatten := by
  by_cases fits : 32 + (dataIn.map List.length).sum < 2 ^ 32
  · rw [buildRequest_of_fits fits, Except.ok.injEq] at built
    exact ⟨fits, built.symm⟩
  · rw [buildRequest_of_overflow fits] at built
    cases built

/-- A request carries its target at the destination offsets the server, and
`communicate` after it, read. -/
theorem buildRequest_destination {cmd : Command} {target source : AmsAddr} {invokeId : UInt32}
    {dataIn : List Bytes} {request : Bytes}
    (built : buildRequest cmd target source invokeId dataIn = .ok request) :
    slice request 6 14 = .ok target.bytes ∧ AMS_HEADER_SIZE ≤ request.length := by
  obtain ⟨-, rfl⟩ := buildRequest_eq_ok built
  exact ⟨(AdsHeader.decodes _ _).destination, by simp⟩

end AdsClient
