import AdsClient.Wire.Bytes

/-!
# AMS addresses, commands and the AMS/TCP + AMS header

`AdsHeader` is the `#[repr(C)]` struct of `client.rs` whose `as_bytes()` is the
first 38 bytes of every request.  Its fields are `u16`, `U16<LE>`, `U32<LE>`
and six-byte NetIDs, none of which has an alignment above one, so the struct
has no padding and its bytes are the fields' little-endian bytes in order.
The one plain `u16`, `ams_cmd`, is always written as 0, whose bytes do not
depend on the host's byte order.
-/

namespace AdsClient

/-- An AMS NetID.

Modelled from the spec: `netid.rs` is not under `src/`; the spec's §3 says a
NetID is six bytes, written to the wire as they are. -/
structure AmsNetId where
  octets : Bytes
  octets_length : octets.length = 6
  deriving DecidableEq

attribute [simp] AmsNetId.octets_length

/-- An AMS address, a NetID and a port.

Modelled from the spec: `netid.rs` is not under `src/`; the spec's §3 gives
`AmsAddr` as `(AmsNetId, u16 port)` and §6 makes every field little-endian,
as `AdsHeader` lays out its `dest_netid`/`dest_port` pair. -/
structure AmsAddr where
  netid : AmsNetId
  port : UInt16
  deriving DecidableEq

/-- `AmsAddr::write_to`: the NetID's six bytes, then the port's two. -/
def AmsAddr.bytes (addr : AmsAddr) : Bytes :=
  addr.netid.octets ++ leBytes 2 addr.port.toNat

@[simp] theorem AmsAddr.length_bytes (addr : AmsAddr) : addr.bytes.length = 8 := by
  simp [AmsAddr.bytes, addr.netid.octets_length]

/-- `AmsAddr::read_from` on a cursor: a NetID's six bytes, then a port.

Modelled from the spec: `netid.rs` is not under `src/`; the reader takes back
the layout `AmsAddr::write_to` writes, and a cursor shorter than eight bytes
fails with `UnexpectedEof` (`none`). -/
def AmsAddr.readFrom (cursor : Bytes) : Option (AmsAddr × Bytes) :=
  if fits : 8 ≤ cursor.length then
    some (⟨⟨cursor.take 6, by simp only [List.length_take]; omega⟩,
      UInt16.ofNat (leValue ((cursor.drop 6).take 2))⟩, cursor.drop 8)
  else none

theorem AmsAddr.readFrom_bytes (addr : AmsAddr) (rest : Bytes) :
    AmsAddr.readFrom (addr.bytes ++ rest) = some (addr, rest) := by
  have octets := addr.netid.octets_length
  have port : leValue (leBytes 2 addr.port.toNat) = addr.port.toNat :=
    leValue_leBytes_of_lt addr.port.toNat_lt
  rw [AmsAddr.readFrom, dif_pos (by simp)]
  simp only [AmsAddr.bytes, List.append_assoc, List.take_append_of_le_length (le_of_eq octets.symm),
    List.take_of_length_le (le_of_eq octets), List.drop_append_of_le_length (le_of_eq octets.symm),
    List.drop_of_length_le (le_of_eq octets), List.nil_append, List.take_append_of_le_length
      (le_of_eq (length_leBytes 2 _).symm), List.take_of_length_le (le_of_eq (length_leBytes 2 _)),
    port, ofNat_toNat_u16]
  simp only [octets, Option.some.injEq, Prod.mk.injEq, true_and]
  rw [← List.append_assoc]
  exact List.drop_left' (by simp [octets])

/-- An ADS protocol command (`Command` in `client.rs`). -/
inductive Command where
  | devInfo
  | read
  | write
  | readWrite
  | readState
  | writeControl
  | addNotification
  | deleteNotification
  | notification
  deriving DecidableEq, Repr

/-- `cmd as u16`. -/
def Command.code : Command → Nat
  | devInfo => 1
  | read => 2
  | write => 3
  | readWrite => 9
  | readState => 4
  | writeControl => 5
  | addNotification => 6
  | deleteNotification => 7
  | notification => 8

/-- `Command::action`, the operation name carried by an ADS error. -/
def Command.action : Command → String
  | devInfo => "get device info"
  | read => "read data"
  | write => "write data"
  | readWrite => "write and read data"
  | readState => "read state"
  | writeControl => "write control"
  | addNotification => "add notification"
  | deleteNotification => "delete notification"
  | notification => "notification"

theorem Command.code_lt (cmd : Command) : cmd.code < 2 ^ 16 := by
  cases cmd <;> decide

theorem Command.code_injective {left right : Command} (same : left.code = right.code) :
    left = right := by
  cases left <;> cases right <;> first | rfl | cases same

/-- `TCP_HEADER_SIZE`. -/
def TCP_HEADER_SIZE : Nat := 6

/-- `AMS_HEADER_SIZE`, the AMS/TCP header included. -/
def AMS_HEADER_SIZE : Nat := 38

/-- The AMS/TCP + AMS header (`AdsHeader` in `client.rs`). -/
structure AdsHeader where
  amsCmd : UInt16
  length : UInt32
  destNetid : AmsNetId
  destPort : UInt16
  srcNetid : AmsNetId
  srcPort : UInt16
  command : UInt16
  stateFlags : UInt16
  dataLength : UInt32
  errorCode : UInt32
  invokeId : UInt32

/-- `header.as_bytes()`. -/
def AdsHeader.asBytes (header : AdsHeader) : Bytes :=
  leBytes 2 header.amsCmd.toNat ++ leBytes 4 header.length.toNat ++
    header.destNetid.octets ++ leBytes 2 header.destPort.toNat ++
    header.srcNetid.octets ++ leBytes 2 header.srcPort.toNat ++
    leBytes 2 header.command.toNat ++ leBytes 2 header.stateFlags.toNat ++
    leBytes 4 header.dataLength.toNat ++ leBytes 4 header.errorCode.toNat ++
    leBytes 4 header.invokeId.toNat

@[simp] theorem AdsHeader.length_asBytes (header : AdsHeader) :
    header.asBytes.length = AMS_HEADER_SIZE := by
  simp [AdsHeader.asBytes, AMS_HEADER_SIZE]

/-- What the fixed offsets at which `Reader::run_inner` and `communicate` read
AMS frames find in a frame. -/
structure AdsHeader.Decodes (frame : Bytes) (header : AdsHeader) (payload : Bytes) : Prop where
  amsCmd : readField frame 0 2 = .ok header.amsCmd.toNat
  length : readField frame 2 6 = .ok header.length.toNat
  destination : slice frame 6 14 = .ok (header.destNetid.octets ++ leBytes 2 header.destPort.toNat)
  source : slice frame 14 22 = .ok (header.srcNetid.octets ++ leBytes 2 header.srcPort.toNat)
  command : readField frame 22 24 = .ok header.command.toNat
  stateFlags : readField frame 24 26 = .ok header.stateFlags.toNat
  dataLength : readField frame 26 30 = .ok header.dataLength.toNat
  errorCode : readField frame 30 34 = .ok header.errorCode.toNat
  invokeId : readField frame 34 38 = .ok header.invokeId.toNat
  payload : sliceFrom frame AMS_HEADER_SIZE = .ok payload

/-- Every fixed offset reads back the header field laid out there. -/
theorem AdsHeader.decodes (header : AdsHeader) (payload : Bytes) :
    AdsHeader.Decodes (header.asBytes ++ payload) header payload := by
  refine ⟨readField_of_u16 ?_, readField_of_u32 ?_, ?_, ?_, readField_of_u16 ?_,
    readField_of_u16 ?_, readField_of_u32 ?_, readField_of_u32 ?_, readField_of_u32 ?_,
    by rw [sliceFrom_of_le (by simp), List.drop_left' header.length_asBytes]⟩
  all_goals
    simp (disch := simp) only [AdsHeader.asBytes, List.append_assoc, slice_append_of_le,
      slice_append_zero, length_leBytes, AmsNetId.octets_length, Nat.reduceSub,
      Nat.reduceAdd, slice_zero_zero]
    rfl

end AdsClient
