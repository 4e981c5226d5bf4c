import AdsClient.Udp.Untrusted
import AdsClient.Wire.Text

/-!
# The UDP services

`send_receive` sends a message, reads the reply into a 576-byte buffer and
parses it against the message's own service id with the reply bit set.
`add_route` builds an `AddRoute` request from the route's NetID, the host,
and the user name, password and route name or their defaults, sends it, and
judges the reply's `Status`.  `get_netid` and `get_info` send an empty
`Identify` request; `get_info` decodes the TwinCAT version, the Windows
`OSVERSIONINFO` record with its service-pack text, the host name and the
fingerprint.

The main results: `routePacket_parsed` (the router reads back each field of
the route), `addRoute_panics` and `getInfo_panics` (on any reply, the services
panic only where parsing or `get_str` does), and `osVersion_record` (how the
`OSVERSIONINFO` record is read, never with an error).
-/

namespace AdsClient.Udp

/-! ## Sending -/

/-- `Message::send_receive`, with the socket as `transport`: the datagram it
receives for the one sent, or its error.  The reply is read into a buffer of
576 bytes, and parsed with the service read from the message's own bytes
8 to 12, with the reply bit. -/
def Message.sendReceive (m : Message) (transport : Bytes → Except AdsError Bytes) :
    Except Panic (Except AdsError Message) :=
  match transport m.asBytes with
  | .error error => pure (.error error)
  | .ok reply => do
    let service ← readField m.data 8 12
    Message.parseInternal (reply.take 576) (service ||| 0x80000000)

theorem readField_service {service : ServiceId} {source : AmsAddr} {calls : List Item}
    {m : Message} (built : Built service source calls m) :
    readField m.data 8 12 = .ok service.code := by
  have serviceFits : service.code < 256 ^ 4 := by cases service <;> decide
  have front : (leBytes 4 BECKHOFF_UDP_MAGIC ++ leBytes 4 0).length = 8 := by simp
  have middle := slice_middle (leBytes 4 BECKHOFF_UDP_MAGIC ++ leBytes 4 0) (leBytes 4 service.code)
    (source.bytes ++ leBytes 4 calls.length ++ encodeItems calls)
  rw [front, length_leBytes] at middle
  rw [built.data, udpHeader_eq, readField_of_slice (by simpa only [List.append_assoc] using middle),
    leValue_leBytes_of_lt serviceFits]

theorem sendReceive_built {service : ServiceId} {source : AmsAddr} {calls : List Item}
    {m : Message} (built : Built service source calls m) (transport : Bytes → Except AdsError Bytes) :
    m.sendReceive transport =
      match transport m.asBytes with
      | .error error => pure (.error error)
      | .ok reply => Message.parse (reply.take 576) service true := by
  unfold Message.sendReceive
  cases transport m.asBytes with
  | error error => rfl
  | ok reply => rw [readField_service built]; rfl

/-! ## `add_route` -/

/-- `"Administrator"`, the user name `add_route` falls back to. -/
def defaultUserName : Str := ⟨[65, 100, 109, 105, 110, 105, 115, 116, 114, 97, 116, 111, 114], by decide⟩

def defaultPassword : Str := ⟨[49], by decide⟩

def unknownHost : Str := ⟨[117, 110, 107, 110, 111, 119, 110], by decide⟩

/-- The calls `add_route` makes on its packet, in order. -/
def addRouteItems (netid : AmsNetId) (host : Str) (routename username password : Option Str)
    (temporary : Bool) : List Item :=
  [.bytes .netId netid.octets, .str .computerName host, .str .userName (username.getD defaultUserName),
    .str .password (password.getD defaultPassword), .str .routeName (routename.getD host)] ++
    if temporary then [.u32 .options 1] else []

/-- Calls one after the other, each `?` passing the first error on. -/
def Message.addEach (m : Message) : List Item → Except Panic (Except AdsError Message)
  | [] => pure (.ok m)
  | item :: rest => do
    match ← m.add item with
    | (next, .ok ()) => next.addEach rest
    | (_, .error error) => pure (.error error)

/-- The packet of `add_route`, for a route to `netid` at port 0. -/
def routePacket (netid : AmsNetId) (host : Str) (routename username password : Option Str)
    (temporary : Bool) : Except Panic (Except AdsError Message) :=
  (Message.new .addRoute ⟨netid, 0⟩).addEach (addRouteItems netid host routename username password temporary)

/-- The end of `add_route`: the reply's `Status`. -/
def routeStatus (reply : Message) : Except Panic (Except AdsError Unit) := do
  match ← reply.getU32 .status with
  | none => pure (.error (.io "setting route: no status in reply"))
  | some status => pure (if status = 0 then .ok () else adsError "setting route" status.toNat)

def addRoute (transport : Bytes → Except AdsError Bytes) (netid : AmsNetId) (host : Str)
    (routename username password : Option Str) (temporary : Bool) :
    Except Panic (Except AdsError Unit) := do
  match ← routePacket netid host routename username password temporary with
  | .error error => pure (.error error)
  | .ok packet =>
    match ← packet.sendReceive transport with
    | .error error => pure (.error error)
    | .ok reply => routeStatus reply

/-! ## Building the route -/

theorem Built.long {service : ServiceId} {source : AmsAddr} {calls : List Item} {m : Message}
    (built : Built service source calls m) : 24 ≤ m.data.length := by
  rw [built.data, List.length_append, length_udpHeader]
  omega

/-- A call on a message at least as long as a header never panics: its one
panic is the write of the count at offset 20. -/
theorem appendItem_no_panic {m : Message} (long : 24 ≤ m.data.length) (tag : Tag)
    (length : Except AdsError UInt16) (payload : Bytes) :
    ∃ result, m.appendItem tag length payload = .ok result := by
  unfold Message.appendItem
  rcases length with error | len
  · exact ⟨_, rfl⟩
  · dsimp only
    split
    · exact ⟨_, rfl⟩
    · rw [writeAt_of_le (by simp only [List.length_append, length_leBytes]; omega)]
      exact ⟨_, rfl⟩

theorem add_no_panic {m : Message} (long : 24 ≤ m.data.length) (item : Item) :
    ∃ result, m.add item = .ok result := by
  cases item with
  | bytes tag data => exact appendItem_no_panic long tag _ data
  | str tag data => exact appendItem_no_panic long tag _ _
  | u32 tag data => exact appendItem_no_panic long tag (.ok 4) (leBytes 4 data.toNat)

/-- Calls on a built message never panic, an error is `InvalidData`, and
success builds the message of all the calls. -/
theorem Built.addEach {service : ServiceId} {source : AmsAddr} :
    ∀ (items calls : List Item) (m : Message), Built service source calls m →
      (∃ result, m.addEach items = .ok result) ∧
      (∀ error, m.addEach items = .ok (.error error) → error = .invalidData) ∧
      ∀ next, m.addEach items = .ok (.ok next) → Built service source (calls ++ items) next := by
  intro items
  induction items with
  | nil =>
    intro calls m built
    refine ⟨⟨_, rfl⟩, fun error failed => (nomatch failed), fun next done => ?_⟩
    cases done
    simpa using built
  | cons item rest inductionHypothesis =>
    intro calls m built
    obtain ⟨⟨next, outcome⟩, added⟩ := add_no_panic built.long item
    rcases outcome with error | ⟨⟩
    · have invalid := (add_eq_error added).1
      simp only [Message.addEach, added, except_ok_bind, except_pure, Except.ok.injEq,
        Except.error.injEq, reduceCtorEq, false_implies, implies_true, and_true]
      exact ⟨⟨_, rfl⟩, fun _ same => same ▸ invalid⟩
    · obtain ⟨noPanic, failing, builds⟩ := inductionHypothesis (calls ++ [item]) next (built.add added)
      simp only [Message.addEach, added, except_ok_bind]
      exact ⟨noPanic, failing, fun final done => by simpa using builds final done⟩

theorem Built.addEach_short {service : ServiceId} {source : AmsAddr} :
    ∀ (items calls : List Item) (m : Message), Built service source calls m →
      calls.length + items.length < 2 ^ 32 → (∀ item ∈ items, item.payload.length < 2 ^ 16) →
      ∃ next, m.addEach items = .ok (.ok next) := by
  intro items
  induction items with
  | nil => exact fun _ m _ _ _ => ⟨m, rfl⟩
  | cons item rest inductionHypothesis =>
    intro calls m built few short
    obtain ⟨⟨next, outcome⟩, added⟩ := add_no_panic built.long item
    rcases outcome with error | ⟨⟩
    · rcases (add_eq_error added).2 with ⟨long, -⟩ | ⟨tooMany, -⟩
      · exact absurd (short item (List.mem_cons_self _ _)) (Nat.not_lt_of_le long)
      · rw [built.count, List.length_cons] at *
        omega
    · simp only [Message.addEach, added, except_ok_bind]
      exact inductionHypothesis (calls ++ [item]) next (built.add added)
        (by simp only [List.length_append, List.length_singleton, List.length_cons, List.length_nil] at few ⊢; omega)
        fun other member => short other (List.mem_cons_of_mem _ member)

/-- The bytes of a built message parse as its items' payloads. -/
theorem Built.parse {service : ServiceId} {source : AmsAddr} {calls : List Item} {m : Message}
    (built : Built service source calls m) :
    Message.parse m.asBytes service false = .ok (.ok ⟨payloadRanges 28 calls, m.data⟩) := by
  simp only [Message.parse, Bool.false_eq_true, if_false, Nat.or_zero, Message.asBytes]
  rw [built.data, parseInternal_built service source _ calls built.short]

/-- The texts of a route: the host, the user name, the password and the route
name, each as `add_route` sends it. -/
def routeTexts (host : Str) (routename username password : Option Str) : List Str :=
  [host, username.getD defaultUserName, password.getD defaultPassword, routename.getD host]

/-- A route whose texts are shorter than 65535 bytes gives a packet in which
the router, parsing it as an `AddRoute` request, reads the route's NetID as
the source and the `NetID` item, the host, the user name and password or
their defaults, the route name or the host, and the `Options` flag 1 exactly
for a temporary route. -/
theorem routePacket_parsed (netid : AmsNetId) (host : Str) (routename username password : Option Str)
    (temporary : Bool) (short : ∀ text ∈ routeTexts host routename username password, text.bytes.length < 65535) :
    ∃ packet, routePacket netid host routename username password temporary = .ok (.ok packet) ∧
      ∃ parsed, Message.parse packet.asBytes .addRoute false = .ok (.ok parsed) ∧
        parsed.getSource = .ok ⟨netid, 0⟩ ∧
        parsed.getBytes .netId = .ok (some netid.octets) ∧
        parsed.getStr .computerName = .ok (some host) ∧
        parsed.getStr .userName = .ok (some (username.getD defaultUserName)) ∧
        parsed.getStr .password = .ok (some (password.getD defaultPassword)) ∧
        parsed.getStr .routeName = .ok (some (routename.getD host)) ∧
        parsed.getU32 .options = .ok (if temporary then some 1 else none) := by
  set items := addRouteItems netid host routename username password temporary with itemsDef
  have few : ([] : List Item).length + items.length < 2 ^ 32 := by
    cases temporary <;> simp [itemsDef, addRouteItems]
  have textShort : ∀ text ∈ routeTexts host routename username password,
      (Item.str .computerName text).payload.length < 2 ^ 16 := fun text member => by
    simp only [Item.payload, List.length_append, List.length_singleton]
    have := short text member
    omega
  have shortPayloads : ∀ item ∈ items, item.payload.length < 2 ^ 16 := by
    intro item member
    simp only [itemsDef, addRouteItems, List.mem_append, List.mem_cons, List.mem_singleton,
      List.not_mem_nil, or_false] at member
    rcases member with (rfl | rfl | rfl | rfl | rfl) | optional
    · simp [Item.payload]
    all_goals first
      | exact textShort _ (by simp [routeTexts])
      | (split at optional <;> simp_all [Item.payload])
  obtain ⟨packet, done⟩ := Built.addEach_short items [] _ (Built.new .addRoute ⟨netid, 0⟩) few shortPayloads
  have built := (Built.addEach items [] _ (Built.new .addRoute ⟨netid, 0⟩)).2.2 packet done
  rw [List.nil_append] at built
  have lookup := fun {α : Type} (map : Bytes → Except Panic (Option α)) tag =>
    mapTag_payloadRanges tag map items (udpHeader ServiceId.addRoute.code ⟨netid, 0⟩ items.length)
  simp only [length_udpHeader, Nat.reduceAdd, ← built.data] at lookup
  have strRead : ∀ tag value, items.find? (·.tag == tag) = some (.str tag value) →
      Message.getStr ⟨payloadRanges 28 items, packet.data⟩ tag = .ok (some value) := fun tag value first => by
    rw [Message.getStr, lookup, first]
    simp [Item.payload, checkedSub_of_le, slice_append_zero, Except.map]
  refine ⟨packet, done, _, built.parse, ?_, ?_, strRead _ _ rfl, strRead _ _ rfl, strRead _ _ rfl,
    strRead _ _ rfl, ?_⟩
  · rw [built.data]
    exact getSource_udpHeader ..
  · rw [Message.getBytes, lookup]
    rfl
  · rw [Message.getU32, lookup]
    cases temporary <;> rfl

theorem routePacket_parsed_temporary :
    (∀ text ∈ routeTexts unknownHost none none none, text.bytes.length < 65535) ∧
      ∃ packet, routePacket sampleSource.netid unknownHost none none none true = .ok (.ok packet) ∧
        ∃ parsed, Message.parse packet.asBytes .addRoute false = .ok (.ok parsed) ∧
          parsed.getSource = .ok ⟨sampleSource.netid, 0⟩ ∧
          parsed.getBytes .netId = .ok (some sampleSource.netid.octets) ∧
          parsed.getStr .computerName = .ok (some unknownHost) ∧
          parsed.getStr .userName = .ok (some defaultUserName) ∧
          parsed.getStr .password = .ok (some defaultPassword) ∧
          parsed.getStr .routeName = .ok (some unknownHost) ∧
          parsed.getU32 .options = .ok (some 1) := by
  have short : ∀ text ∈ routeTexts unknownHost none none none, text.bytes.length < 65535 := by decide
  exact ⟨short, routePacket_parsed sampleSource.netid unknownHost none none none true short⟩

/-- A route with a text of 65535 bytes or more fails with `InvalidData` while
its packet is built, before anything is sent, whatever the router would answer. -/
theorem addRoute_long_text (netid : AmsNetId) (host : Str) (routename username password : Option Str)
    (temporary : Bool) (long : ∃ text ∈ routeTexts host routename username password, 65535 ≤ text.bytes.length)
    (transport : Bytes → Except AdsError Bytes) :
    addRoute transport netid host routename username password temporary = .ok (.error .invalidData) := by
  obtain ⟨text, member, tooLong⟩ := long
  have sent : ∃ tag, Item.str tag text ∈ addRouteItems netid host routename username password temporary := by
    simp only [routeTexts, List.mem_cons, List.mem_singleton, List.not_mem_nil, or_false] at member
    rcases member with rfl | rfl | rfl | rfl
    · exact ⟨.computerName, by simp [addRouteItems]⟩
    · exact ⟨.userName, by simp [addRouteItems]⟩
    · exact ⟨.password, by simp [addRouteItems]⟩
    · exact ⟨.routeName, by simp [addRouteItems]⟩
  obtain ⟨tag, sentMember⟩ := sent
  obtain ⟨⟨result, built⟩, failing, builds⟩ :=
    Built.addEach (addRouteItems netid host routename username password temporary) [] _
      (Built.new .addRoute ⟨netid, 0⟩)
  rcases result with error | packet
  · rw [failing error built] at built
    simp only [addRoute, routePacket, built, except_ok_bind, except_pure]
  · have short := (builds packet built).short _ (List.mem_append_right _ sentMember)
    simp only [Item.payload, List.length_append, List.length_singleton] at short
    omega

def longHost : Str :=
  ⟨List.replicate 65535 65, utf8Scan_ascii (fun _ member => by rw [List.eq_of_mem_replicate member]; decide) _ _⟩

theorem addRoute_long_host :
    (∃ text ∈ routeTexts longHost none none none, 65535 ≤ text.bytes.length) ∧
      addRoute .ok sampleSource.netid longHost none none none false = .ok (.error .invalidData) :=
  have long : ∃ text ∈ routeTexts longHost none none none, 65535 ≤ text.bytes.length :=
    ⟨longHost, List.mem_cons_self _ _, (List.length_replicate 65535 65).ge⟩
  ⟨long, addRoute_long_text sampleSource.netid longHost none none none false long .ok⟩

/-- On every answer of the router, `add_route` panics exactly when its reply,
cut at 576 bytes, makes `parse` panic, on an item whose length runs past the
end: building the packet and reading the status never panic. -/
theorem addRoute_panics {transport : Bytes → Except AdsError Bytes} {netid : AmsNetId} {host : Str}
    {routename username password : Option Str} {temporary : Bool} {panic : Panic} :
    addRoute transport netid host routename username password temporary = .error panic ↔
      ∃ packet datagram, routePacket netid host routename username password temporary = .ok (.ok packet) ∧
        transport packet.asBytes = .ok datagram ∧
        Message.parse (datagram.take 576) .addRoute true = .error panic := by
  obtain ⟨⟨result, built⟩, -, builds⟩ :=
    Built.addEach (addRouteItems netid host routename username password temporary) [] _
      (Built.new .addRoute ⟨netid, 0⟩)
  rcases result with error | packet
  · simp [addRoute, routePacket, built]
  simp only [addRoute, routePacket, built, except_ok_bind, sendReceive_built (builds packet built),
    Except.ok.injEq, exists_and_left, exists_eq_left']
  cases transport packet.asBytes with
  | error error => simp
  | ok datagram =>
    simp only [Except.ok.injEq, exists_eq_left']
    cases parsed : Message.parse (datagram.take 576) .addRoute true with
    | error parsePanic => simp only [except_error_bind, Except.error.injEq]
    | ok outcome =>
      rcases outcome with error | reply
      · simp
      · obtain ⟨-, ⟨status, read⟩, -⟩ := parse_safety parsed .status
        simp only [except_ok_bind, routeStatus, read, reduceCtorEq, iff_false]
        split <;> simp

/-! ## `get_netid` and `get_info` -/

/-- `AmsAddr::default()`, the zero NetID and port 0.

Modelled from the spec: `netid.rs` is not under `src/`. -/
def zeroAddr : AmsAddr := ⟨⟨[0, 0, 0, 0, 0, 0], rfl⟩, 0⟩

def identifyRequest : Message := Message.new .identify zeroAddr

def getNetid (transport : Bytes → Except AdsError Bytes) : Except Panic (Except AdsError AmsNetId) := do
  match ← identifyRequest.sendReceive transport with
  | .error error => pure (.error error)
  | .ok reply => do
    let source ← reply.getSource
    pure (.ok source.netid)

/-- The TwinCAT version of `get_info`, from the `TCVersion` bytes or none. -/
def twincatVersion (tcver : Bytes) : UInt8 × UInt8 × UInt16 :=
  if 4 ≤ tcver.length then
    (tcver.getD 0 0, tcver.getD 1 0, UInt16.ofNat (leValue ((tcver.drop 2).take 2)))
  else (0, 0, 0)

/-- `bytes.read_u32::<LE>().map_err(Error::invalid_data)?`. -/
def readU32 (cursor : Bytes) : Except AdsError (Nat × Bytes) :=
  match readLe 4 cursor with
  | some read => .ok read
  | none => .error .invalidData

/-- The platform names of `OSVERSIONINFO`'s platform field. -/
def platformName : Nat → String
  | 1 => "TC/RTOS"
  | 2 => "Windows NT"
  | 3 => "Windows CE"
  | _ => "Unknown platform"

/-- The OS version of `get_info`, from the `OSVersion` bytes if the reply has
them: five `u32` fields, the size unused, and the service-pack text. -/
def osVersion : Option Bytes → Except AdsError (String × UInt32 × UInt32 × UInt32 × String)
  | none => .ok ("No OS info", 0, 0, 0, "")
  | some bytes =>
    if 22 ≤ bytes.length then do
      let (_, bytes) ← readU32 bytes
      let (major, bytes) ← readU32 bytes
      let (minor, bytes) ← readU32 bytes
      let (build, bytes) ← readU32 bytes
      let (platformId, bytes) ← readU32 bytes
      let platform := platformName platformId
      let text := if platform = "TC/RTOS" then latin1UntilNul bytes else utf16UntilNul bytes
      pure (platform, UInt32.ofNat major, UInt32.ofNat minor, UInt32.ofNat build, text)
    else .ok ("Unknown OS info format", 0, 0, 0, "")

/-- `SysInfo`, its texts from the reply as they are. -/
structure SysInfo where
  netid : AmsNetId
  hostname : Str
  twincatVersion : UInt8 × UInt8 × UInt16
  osVersion : String × UInt32 × UInt32 × UInt32 × String
  fingerprint : Str

def getInfo (transport : Bytes → Except AdsError Bytes) : Except Panic (Except AdsError SysInfo) := do
  match ← identifyRequest.sendReceive transport with
  | .error error => pure (.error error)
  | .ok reply => do
    let tcver ← reply.getBytes .tcVersion
    let twincat := twincatVersion (tcver.getD [])
    match osVersion (← reply.getBytes .osVersion) with
    | .error error => pure (.error error)
    | .ok os => do
      let source ← reply.getSource
      let hostname ← reply.getStr .computerName
      let fingerprint ← reply.getStr .fingerprint
      pure (.ok ⟨source.netid, hostname.getD unknownHost, twincat, os, fingerprint.getD ⟨[], rfl⟩⟩)

/-! ## What `get_info` reads -/

theorem platformName_eq_rtos {platformId : Nat} : platformName platformId = "TC/RTOS" ↔ platformId = 1 := by
  unfold platformName
  split <;> simp_all

/-- Every `OSVersion` payload of at least 22 bytes is read as its five fields
and the text after them, and a shorter one as an unknown format: the
`map_err(Error::invalid_data)?` of the reads never fires. -/
theorem osVersion_some (bytes : Bytes) :
    osVersion (some bytes) = .ok (if 22 ≤ bytes.length then
        (platformName (leValue ((bytes.drop 16).take 4)), UInt32.ofNat (leValue ((bytes.drop 4).take 4)),
          UInt32.ofNat (leValue ((bytes.drop 8).take 4)), UInt32.ofNat (leValue ((bytes.drop 12).take 4)),
          if leValue ((bytes.drop 16).take 4) = 1 then latin1UntilNul (bytes.drop 20)
          else utf16UntilNul (bytes.drop 20))
      else ("Unknown OS info format", 0, 0, 0, "")) := by
  by_cases long : 22 ≤ bytes.length
  · have first := readLe_drop bytes (show 0 + 4 = 4 from rfl) (by omega)
    rw [List.drop_zero] at first
    simp only [osVersion, if_pos long, readU32, first, readLe_drop bytes (show 4 + 4 = 8 from rfl) (by omega),
      readLe_drop bytes (show 8 + 4 = 12 from rfl) (by omega),
      readLe_drop bytes (show 12 + 4 = 16 from rfl) (by omega),
      readLe_drop bytes (show 16 + 4 = 20 from rfl) (by omega), except_ok_bind, except_pure,
      platformName_eq_rtos]
  · simp only [osVersion, if_neg long]

theorem osVersion_ok (bytes : Option Bytes) : ∃ os, osVersion bytes = .ok os := by
  cases bytes with
  | none => exact ⟨_, rfl⟩
  | some bytes => exact ⟨_, osVersion_some bytes⟩

/-- The five fields of an `OSVERSIONINFO` record, as a Windows system writes them. -/
def osVersionFields (size major minor build platform : UInt32) : Bytes :=
  leBytes 4 size.toNat ++ leBytes 4 major.toNat ++ leBytes 4 minor.toNat ++ leBytes 4 build.toNat ++
    leBytes 4 platform.toNat

theorem osVersion_record (size major minor build platform : UInt32) {text : Bytes}
    (long : 2 ≤ text.length) :
    osVersion (some (osVersionFields size major minor build platform ++ text)) =
      .ok (platformName platform.toNat, major, minor, build,
        if platform.toNat = 1 then latin1UntilNul text else utf16UntilNul text) := by
  have recordLong : 22 ≤ (osVersionFields size major minor build platform ++ text).length := by
    simp only [osVersionFields, List.length_append, length_leBytes]
    omega
  simp only [osVersion]
  rw [if_pos recordLong]
  simp only [osVersionFields, List.append_assoc, readU32, readLe_leBytes, leValue_u32, ofNat_toNat_u32,
    except_ok_bind, except_pure, platformName_eq_rtos]

/-- The service pack of a Windows record, UTF-16 text without NUL ended by a
zero word, is read back without its characters past U+FFFF: both words of
each surrogate pair are dropped. -/
theorem osVersion_servicePack (size major minor build platform : UInt32) (windows : platform.toNat ≠ 1)
    {chars : List Char} (nonzero : ∀ c ∈ chars, 0 < c.toNat) (rest : Bytes) :
    osVersion (some (osVersionFields size major minor build platform ++ (utf16Bytes chars ++ 0 :: 0 :: rest))) =
      .ok (platformName platform.toNat, major, minor, build, ⟨chars.filter (·.toNat < 0x10000)⟩) := by
  rw [osVersion_record size major minor build platform
    (by simp only [List.length_append, List.length_cons]; omega), if_neg windows]
  congr
  apply String.ext
  rw [utf16UntilNul_append nonzero]
  exact List.append_nil _

theorem osVersion_servicePack_emoji :
    (2 : UInt32).toNat ≠ 1 ∧ (∀ c ∈ ['S', 'P', '1', Char.ofNat 0x1F600], 0 < c.toNat) ∧
      osVersion (some (osVersionFields 276 10 0 19045 2 ++
          (utf16Bytes ['S', 'P', '1', Char.ofNat 0x1F600] ++ [0, 0]))) =
        .ok ("Windows NT", 10, 0, 19045, "SP1") :=
  have nonzero : ∀ c ∈ ['S', 'P', '1', Char.ofNat 0x1F600], 0 < c.toNat := by decide
  ⟨by decide, nonzero, osVersion_servicePack 276 10 0 19045 2 (by decide) nonzero []⟩

/-- On every answer, `get_netid` panics exactly when the reply, cut at 576
bytes, makes `parse` panic: `get_source` reads a parsed reply without panic. -/
theorem getNetid_panics {transport : Bytes → Except AdsError Bytes} {panic : Panic} :
    getNetid transport = .error panic ↔
      ∃ datagram, transport identifyRequest.asBytes = .ok datagram ∧
        Message.parse (datagram.take 576) .identify true = .error panic := by
  unfold getNetid
  rw [sendReceive_built (show Built .identify zeroAddr [] identifyRequest from Built.new .identify zeroAddr)]
  cases transport identifyRequest.asBytes with
  | error error => simp
  | ok datagram =>
    simp only [Except.ok.injEq, exists_eq_left']
    cases parsed : Message.parse (datagram.take 576) .identify true with
    | error parsePanic => simp
    | ok outcome =>
      rcases outcome with error | reply
      · simp
      obtain ⟨-, -, ⟨source, sourceRead⟩, -⟩ := parse_safety parsed .tcVersion
      simp only [except_ok_bind, sourceRead, except_pure, reduceCtorEq]

/-- The first item of `tag` is empty, where `get_str` panics. -/
def Message.EmptyText (m : Message) (tag : Tag) : Prop :=
  ∃ code i, m.items.find? (fun item => item.1 == tag.code) = some (code, i, i)

/-- On every answer, `get_info` panics exactly when the reply, cut at 576
bytes, makes `parse` panic, or parses with an empty first `ComputerName` or
`Fingerprint` item, whose `get_str` subtracts one from zero. -/
theorem getInfo_panics {transport : Bytes → Except AdsError Bytes} {panic : Panic} :
    getInfo transport = .error panic ↔
      ∃ datagram, transport identifyRequest.asBytes = .ok datagram ∧
        (Message.parse (datagram.take 576) .identify true = .error panic ∨
          ∃ reply, Message.parse (datagram.take 576) .identify true = .ok (.ok reply) ∧
            panic = .subtractOverflow ∧ (reply.EmptyText .computerName ∨ reply.EmptyText .fingerprint)) := by
  unfold getInfo
  rw [sendReceive_built (show Built .identify zeroAddr [] identifyRequest from Built.new .identify zeroAddr)]
  cases transport identifyRequest.asBytes with
  | error error => simp
  | ok datagram =>
    simp only [Except.ok.injEq, exists_eq_left']
    cases parsed : Message.parse (datagram.take 576) .identify true with
    | error parsePanic => simp
    | ok outcome =>
      rcases outcome with error | reply
      · simp
      obtain ⟨⟨tcver, tcverRead⟩, -, ⟨source, sourceRead⟩, -⟩ := parse_safety parsed .tcVersion
      obtain ⟨⟨osBytes, osRead⟩, -⟩ := parse_safety parsed .osVersion
      obtain ⟨os, osDecoded⟩ := osVersion_ok osBytes
      obtain ⟨-, -, -, hostEmpty, hostText⟩ := parse_safety parsed .computerName
      obtain ⟨-, -, -, printEmpty, printText⟩ := parse_safety parsed .fingerprint
      simp only [tcverRead, osRead, osDecoded, sourceRead, except_ok_bind, reduceCtorEq, false_or,
        Except.ok.injEq, exists_eq_left']
      by_cases host : reply.EmptyText .computerName
      · simp only [hostEmpty host, except_error_bind, Except.error.injEq, host, true_or, and_true]
        exact eq_comm
      · obtain ⟨hostname, hostRead⟩ := hostText host
        by_cases print : reply.EmptyText .fingerprint
        · simp only [hostRead, printEmpty print, except_ok_bind, except_error_bind, Except.error.injEq,
            print, or_true, and_true]
          exact eq_comm
        · obtain ⟨fingerprint, printRead⟩ := printText print
          simp only [hostRead, printRead, except_ok_bind, except_pure, reduceCtorEq, host, print,
            or_self, and_false]

end AdsClient.Udp
