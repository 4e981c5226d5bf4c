import AdsClient.Udp.Message

/-!
# Parsing a built message

A message built by `Message::new` and successful `add_*` calls is the header,
with the item count, followed by each item's tag, length and payload
(`Built`).  `parse_internal` reads exactly that layout back: its loop finds each
payload four bytes after the end of the item before (`parseItems_encode`), so
the getters of the parsed message return the first payload of each tag.
-/

namespace AdsClient.Udp

/-- One `add_*` call: the method, the tag and the value it adds. -/
inductive Item where
  | bytes (tag : Tag) (data : Bytes)
  | str (tag : Tag) (data : Str)
  | u32 (tag : Tag) (data : UInt32)
  deriving DecidableEq

def Item.tag : Item → Tag
  | bytes tag _ | str tag _ | u32 tag _ => tag

def Item.payload : Item → Bytes
  | bytes _ data => data
  | str _ data => data.bytes ++ [0]
  | u32 _ data => leBytes 4 data.toNat

def Message.add (m : Message) : Item → Except Panic (Message × Except AdsError Unit)
  | .bytes tag data => m.addBytes tag data
  | .str tag data => m.addStr tag data
  | .u32 tag data => m.addU32 tag data

/-- The message after the calls, each on the message the one before left;
`none` as soon as one of them fails or panics. -/
def Message.addAll (m : Message) : List Item → Option Message
  | [] => some m
  | item :: rest =>
    match m.add item with
    | .ok (next, .ok ()) => next.addAll rest
    | _ => none

/-- An item on the wire: its tag, its length and its payload. -/
def Item.encode (item : Item) : Bytes :=
  leBytes 2 item.tag.code ++ leBytes 2 item.payload.length ++ item.payload

def encodeItems (items : List Item) : Bytes := (items.map Item.encode).flatten

@[simp] theorem encodeItems_nil : encodeItems [] = [] := rfl

@[simp] theorem encodeItems_cons (item : Item) (rest : List Item) :
    encodeItems (item :: rest) = item.encode ++ encodeItems rest := rfl

theorem encodeItems_append (items rest : List Item) :
    encodeItems (items ++ rest) = encodeItems items ++ encodeItems rest := by
  simp [encodeItems]

@[simp] theorem length_encode (item : Item) : item.encode.length = item.payload.length + 4 := by
  simp only [Item.encode, List.length_append, length_leBytes]
  omega

/-! ## The builder -/

theorem length_udpHeader (service : Nat) (source : AmsAddr) (numItems : Nat) :
    (udpHeader service source numItems).length = 24 := by
  simp [udpHeader]

/-- The header's first twenty bytes, before the item count. -/
theorem udpHeader_eq (service : Nat) (source : AmsAddr) (numItems : Nat) :
    udpHeader service source numItems =
      (leBytes 4 BECKHOFF_UDP_MAGIC ++ leBytes 4 0 ++ leBytes 4 service ++ source.bytes) ++
        leBytes 4 numItems := rfl

theorem writeAt_count (service : Nat) (source : AmsAddr) (numItems count : Nat) (body : Bytes) :
    writeAt (udpHeader service source numItems ++ body) 20 (leBytes 4 count) =
      .ok (udpHeader service source count ++ body) := by
  have front : (leBytes 4 BECKHOFF_UDP_MAGIC ++ leBytes 4 0 ++ leBytes 4 service ++
      source.bytes).length = 20 := by simp
  rw [udpHeader_eq, udpHeader_eq, ← front]
  exact writeAt_append _ _ _ _ (by simp)

/-- A successful call appends one item, of the length it wrote, and counts it. -/
theorem appendItem_eq_ok {m next : Message} {tag : Tag} {length : Except AdsError UInt16}
    {payload : Bytes} {service numItems : Nat} {source : AmsAddr} {body : Bytes}
    (header : m.data = udpHeader service source numItems ++ body)
    (done : m.appendItem tag length payload = .ok (next, .ok ())) :
    ∃ len : UInt16, length = .ok len ∧ next.items.length = m.items.length + 1 ∧
      next.data = udpHeader service source (m.items.length + 1) ++
        (body ++ (leBytes 2 tag.code ++ leBytes 2 len.toNat ++ payload)) := by
  unfold Message.appendItem at done
  rcases length with error | len
  · cases done
  · dsimp only at done
    split at done
    · cases done
    · rename_i count counted
      have bound : m.items.length + 1 < 2 ^ 32 := by
        by_contra outside
        rw [List.length_append, List.length_singleton, toU32_eq_error outside] at counted
        cases counted
      rw [List.length_append, List.length_singleton, toU32_eq_ok bound, Except.ok.injEq] at counted
      subst counted
      simp only [toNat_ofNat_u32 bound, header, List.append_assoc] at done
      rw [writeAt_count] at done
      cases done
      exact ⟨len, rfl, by simp, by simp only [List.append_assoc]⟩

theorem add_eq_ok {m next : Message} {item : Item} {service numItems : Nat} {source : AmsAddr}
    {body : Bytes} (header : m.data = udpHeader service source numItems ++ body)
    (done : m.add item = .ok (next, .ok ())) :
    item.payload.length < 2 ^ 16 ∧ next.items.length = m.items.length + 1 ∧
      next.data = udpHeader service source (m.items.length + 1) ++ (body ++ item.encode) := by
  cases item with
  | bytes tag data =>
    obtain ⟨len, converted, counted, data'⟩ := appendItem_eq_ok header done
    obtain ⟨bound, lengthField⟩ := toU16_eq_ok_iff.mp converted
    refine ⟨bound, counted, ?_⟩
    rw [data', Item.encode, lengthField]
    rfl
  | str tag data =>
    obtain ⟨len, converted, counted, data'⟩ := appendItem_eq_ok header done
    obtain ⟨bound, lengthField⟩ := toU16_eq_ok_iff.mp converted
    refine ⟨by simpa [Item.payload] using bound, counted, ?_⟩
    rw [data', Item.encode, lengthField]
    simp [Item.payload, Item.tag]
  | u32 tag data =>
    obtain ⟨len, converted, counted, data'⟩ := appendItem_eq_ok header
      (show m.appendItem tag (.ok 4) (leBytes 4 data.toNat) = _ from done)
    rw [Except.ok.injEq] at converted
    subst converted
    exact ⟨by simp [Item.payload], counted, data'⟩

/-- A call that returns `Err` has already written its tag.  When its length
does not fit a `u16`, the tag is all it wrote.  When the item count does not
fit a `u32`, it has written and recorded the whole item. -/
theorem appendItem_eq_error {m next : Message} {tag : Tag} {length : Except AdsError UInt16}
    {payload : Bytes} {error : AdsError}
    (failed : m.appendItem tag length payload = .ok (next, .error error)) :
    (length = .error error ∧ next = ⟨m.items, m.data ++ leBytes 2 tag.code⟩) ∨
      (2 ^ 32 ≤ m.items.length + 1 ∧ error = .invalidData ∧ ∃ len : UInt16, length = .ok len ∧
        next = ⟨m.items ++ [(tag.code, m.data.length + 2, m.data.length + 4 + payload.length)],
          m.data ++ leBytes 2 tag.code ++ leBytes 2 len.toNat ++ payload⟩) := by
  unfold Message.appendItem at failed
  rcases length with lengthError | len
  · cases failed
    exact .inl ⟨rfl, rfl⟩
  · dsimp only at failed
    split at failed
    · rename_i countError counted
      cases failed
      have outside : ¬ m.items.length + 1 < 2 ^ 32 := fun fits => by
        rw [List.length_append, List.length_singleton, toU32_eq_ok fits] at counted
        cases counted
      rw [List.length_append, List.length_singleton, toU32_eq_error outside] at counted
      cases counted
      refine .inr ⟨Nat.le_of_not_lt outside, rfl, len, rfl, ?_⟩
      simp only [List.length_append, length_leBytes, Message.mk.injEq, List.append_cancel_left_eq,
        List.cons.injEq, Prod.mk.injEq, and_true, true_and]
    · obtain ⟨_, -, done⟩ := except_bind_eq_ok.1 failed
      cases done

/-- A call that returns `Err` reports `InvalidData` after writing its tag: a
payload too long for a `u16` length leaves the tag behind and nothing else, and
an item count too large for a `u32` leaves the whole item written and recorded. -/
theorem add_eq_error {m next : Message} {item : Item} {error : AdsError}
    (failed : m.add item = .ok (next, .error error)) :
    error = .invalidData ∧
      ((2 ^ 16 ≤ item.payload.length ∧ next = ⟨m.items, m.data ++ leBytes 2 item.tag.code⟩) ∨
        (2 ^ 32 ≤ m.items.length + 1 ∧ next.items.length = m.items.length + 1 ∧
          next.data = m.data ++ item.encode)) := by
  have lengthField : ∀ {n : Nat} {len : UInt16}, toU16 n = .ok len → len.toNat = n :=
    fun converted => (toU16_eq_ok_iff.mp converted).2
  have lengthError : ∀ {n : Nat}, toU16 n = .error error → error = .invalidData ∧ 2 ^ 16 ≤ n := by
    intro n converted
    unfold toU16 at converted
    split_ifs at converted with fits
    cases converted
    exact ⟨rfl, Nat.le_of_not_lt fits⟩
  cases item with
  | bytes tag data =>
    rcases appendItem_eq_error failed with ⟨converted, rfl⟩ | ⟨outside, rfl, len, converted, rfl⟩
    · exact ⟨(lengthError converted).1, .inl ⟨(lengthError converted).2, rfl⟩⟩
    · refine ⟨rfl, .inr ⟨outside, by simp, ?_⟩⟩
      simp [Item.encode, Item.tag, Item.payload, lengthField converted]
  | str tag data =>
    rcases appendItem_eq_error failed with ⟨converted, rfl⟩ | ⟨outside, rfl, len, converted, rfl⟩
    · exact ⟨(lengthError converted).1, .inl ⟨by simpa [Item.payload] using (lengthError converted).2, rfl⟩⟩
    · refine ⟨rfl, .inr ⟨outside, by simp, ?_⟩⟩
      simp [Item.encode, Item.tag, Item.payload, lengthField converted]
  | u32 tag data =>
    rcases appendItem_eq_error (show m.appendItem tag (.ok 4) (leBytes 4 data.toNat) = _ from failed)
      with ⟨converted, -⟩ | ⟨outside, rfl, len, converted, rfl⟩
    · cases converted
    · rw [Except.ok.injEq] at converted
      subst converted
      exact ⟨rfl, .inr ⟨outside, by simp, by simp [Item.encode, Item.tag, Item.payload, UInt16.size]⟩⟩

/-- A payload too long for a `u16` length makes every call fail, on every
message, after writing its tag. -/
theorem add_of_long {m : Message} {item : Item} (long : 2 ^ 16 ≤ item.payload.length) :
    m.add item = .ok (⟨m.items, m.data ++ leBytes 2 item.tag.code⟩, .error .invalidData) := by
  cases item with
  | bytes tag data =>
    simp only [Item.payload] at long
    simp only [Message.add, Message.addBytes, Message.appendItem, Item.tag,
      toU16_eq_error (Nat.not_lt_of_le long)]
    rfl
  | str tag data =>
    simp only [Item.payload, List.length_append, List.length_singleton] at long
    simp only [Message.add, Message.addStr, Message.appendItem, Item.tag,
      toU16_eq_error (Nat.not_lt_of_le long)]
    rfl
  | u32 tag data => simp [Item.payload] at long

/-- A source address, `192.168.0.1.1.1:10000`. -/
def sampleSource : AmsAddr := ⟨⟨[192, 168, 0, 1, 1, 1], rfl⟩, 10000⟩

/-- An `add_bytes` of 65536 bytes on a new message fails and leaves its tag in
the bytes; an `add_u32` after it succeeds and counts one item, but the bytes are
not the header and that item's record. -/
theorem failed_add_leaves_tag :
    (Message.new .identify sampleSource).addBytes .netId (List.replicate 65536 0) =
        .ok (⟨[], (Message.new .identify sampleSource).data ++ leBytes 2 Tag.netId.code⟩,
          .error .invalidData) ∧
      ∃ next, Message.addU32 ⟨[], (Message.new .identify sampleSource).data ++ leBytes 2 Tag.netId.code⟩
          .status 7 = .ok (next, .ok ()) ∧ next.items.length = 1 ∧
        next.asBytes ≠ udpHeader ServiceId.identify.code sampleSource 1 ++ encodeItems [.u32 .status 7] :=
  ⟨@add_of_long (Message.new .identify sampleSource) (.bytes .netId (List.replicate 65536 0))
    (List.length_replicate 65536 0).ge, _, rfl, rfl, by decide⟩

/-- `m` is what `Message::new service source` and then successful calls
`calls` build: the header, counting the calls, and their items. -/
structure Built (service : ServiceId) (source : AmsAddr) (calls : List Item) (m : Message) :
    Prop where
  data : m.data = udpHeader service.code source calls.length ++ encodeItems calls
  count : m.items.length = calls.length
  short : ∀ item ∈ calls, item.payload.length < 2 ^ 16

theorem Built.new (service : ServiceId) (source : AmsAddr) :
    Built service source [] (Message.new service source) :=
  ⟨(List.append_nil _).symm, rfl, fun _ member => absurd member (List.not_mem_nil _)⟩

theorem Built.add {service : ServiceId} {source : AmsAddr} {calls : List Item} {m next : Message}
    {item : Item} (built : Built service source calls m) (done : m.add item = .ok (next, .ok ())) :
    Built service source (calls ++ [item]) next := by
  obtain ⟨short, counted, data⟩ := add_eq_ok built.data done
  refine ⟨?_, by simp [counted, built.count], fun other member => ?_⟩
  · rw [data, built.count, encodeItems_append, List.length_append, List.length_singleton]
    simp [encodeItems]
  · rcases List.mem_append.mp member with earlier | last
    · exact built.short other earlier
    · rw [List.mem_singleton.mp last]
      exact short

theorem Built.addAll {service : ServiceId} {source : AmsAddr} :
    ∀ (items calls : List Item) (m next : Message), Built service source calls m →
      m.addAll items = some next → Built service source (calls ++ items) next := by
  intro items
  induction items with
  | nil =>
    intro calls m next built done
    cases done
    simpa using built
  | cons item rest inductionHypothesis =>
    intro calls m next built done
    unfold Message.addAll at done
    split at done
    · rename_i after added
      simpa using inductionHypothesis (calls ++ [item]) after next (built.add added) done
    · cases done

/-! ## The parser -/

/-- Where `parse_internal` finds the payloads of the items, the first at `pos`. -/
def payloadRanges (pos : Nat) : List Item → List (Nat × Nat × Nat)
  | [] => []
  | item :: rest =>
    (item.tag.code, pos, pos + item.payload.length) ::
      payloadRanges (pos + item.payload.length + 4) rest

theorem parseItems_item (pos tag : Nat) (payload rest : Bytes) (tagFits : tag < 256 ^ 2)
    (short : payload.length < 256 ^ 2) :
    parseItems pos (leBytes 2 tag ++ leBytes 2 payload.length ++ payload ++ rest) =
      (do
        let items ← parseItems (pos + payload.length + 4) rest
        pure (items.map ((tag, pos, pos + payload.length) :: ·))) := by
  obtain ⟨tag0, tag1, tagBytes⟩ : ∃ tag0 tag1, leBytes 2 tag = [tag0, tag1] := ⟨_, _, rfl⟩
  obtain ⟨len0, len1, lenBytes⟩ : ∃ len0 len1, leBytes 2 payload.length = [len0, len1] :=
    ⟨_, _, rfl⟩
  have tagValue : leValue [tag0, tag1] = tag := tagBytes ▸ leValue_leBytes_of_lt tagFits
  have lenValue : leValue [len0, len1] = payload.length := lenBytes ▸ leValue_leBytes_of_lt short
  rw [tagBytes, lenBytes]
  simp only [List.cons_append, List.nil_append, List.append_assoc]
  rw [parseItems, lenValue, tagValue, if_pos (by simp), List.drop_left]

theorem parseItems_encode :
    ∀ (items : List Item) (pos : Nat), (∀ item ∈ items, item.payload.length < 2 ^ 16) →
      parseItems pos (encodeItems items) = .ok (.ok (payloadRanges pos items)) := by
  intro items
  induction items with
  | nil => intro pos _; rw [encodeItems_nil, parseItems]; rfl
  | cons item rest inductionHypothesis =>
    intro pos short
    rw [encodeItems_cons, Item.encode, parseItems_item pos _ _ _ item.tag.code_lt
      (short item (List.mem_cons_self _ _)), inductionHypothesis _
      (fun other member => short other (List.mem_cons_of_mem _ member))]
    rfl

/-- `parse_internal` reads the header back and leaves the rest to its loop. -/
theorem parseInternal_udpHeader (service : ServiceId) (source : AmsAddr) (numItems : Nat)
    (rest : Bytes) :
    Message.parseInternal (udpHeader service.code source numItems ++ rest) service.code =
      (do
        let items ← parseItems 28 rest
        pure (items.map fun items => ⟨items, udpHeader service.code source numItems ++ rest⟩)) := by
  have serviceFits : service.code < 256 ^ 4 := by cases service <;> decide
  conv_lhs => rw [udpHeader]
  simp only [Message.parseInternal, List.append_assoc, readLe_leBytes,
    leValue_leBytes_of_lt (by decide : BECKHOFF_UDP_MAGIC < 256 ^ 4),
    leValue_leBytes_of_lt (by decide : 0 < 256 ^ 4), leValue_leBytes_of_lt serviceFits,
    AmsAddr.readFrom_bytes, ne_eq, not_true_eq_false, if_false]
  simp only [udpHeader, List.append_assoc]

/-- `parse_internal` reads the header back and every item after it. -/
theorem parseInternal_built (service : ServiceId) (source : AmsAddr) (numItems : Nat)
    (items : List Item) (short : ∀ item ∈ items, item.payload.length < 2 ^ 16) :
    Message.parseInternal (udpHeader service.code source numItems ++ encodeItems items)
        service.code =
      .ok (.ok ⟨payloadRanges 28 items, udpHeader service.code source numItems ++ encodeItems items⟩) := by
  rw [parseInternal_udpHeader, parseItems_encode items 28 short]
  rfl

theorem mapTag_cons_of_ne {α : Type} {tag : Tag} {map : Bytes → Except Panic (Option α)}
    {first : Nat × Nat × Nat} {rest : List (Nat × Nat × Nat)} {data : Bytes}
    (other : first.1 ≠ tag.code) :
    Message.mapTag ⟨first :: rest, data⟩ tag map = Message.mapTag ⟨rest, data⟩ tag map := by
  rw [Message.mapTag, Message.mapTag, List.find?_cons_of_neg]
  simpa using other

/-- The ranges of items laid out from `pos`, each from `skip` bytes into the
item to the item's end: from the length field (`skip = 2`), as the builder
records them, or the payload alone (`skip = 4`), as the parser does. -/
def itemRanges (skip pos : Nat) : List Item → List (Nat × Nat × Nat)
  | [] => []
  | item :: rest =>
    (item.tag.code, pos + skip, pos + item.payload.length + 4) ::
      itemRanges skip (pos + item.payload.length + 4) rest

theorem itemRanges_append (skip pos : Nat) (items : List Item) (item : Item) :
    itemRanges skip pos (items ++ [item]) =
      itemRanges skip pos items ++
        [(item.tag.code, pos + (encodeItems items).length + skip,
          pos + (encodeItems items).length + item.payload.length + 4)] := by
  induction items generalizing pos with
  | nil => rfl
  | cons first rest inductionHypothesis =>
    rw [List.cons_append, itemRanges, itemRanges, inductionHypothesis, List.cons_append]
    simp only [encodeItems_cons, List.length_append, length_encode, List.cons.injEq,
      List.append_cancel_left_eq, List.singleton_inj, Prod.mk.injEq, true_and, and_true]
    constructor <;> omega

theorem payloadRanges_eq_itemRanges (items : List Item) (pos : Nat) :
    payloadRanges (pos + 4) items = itemRanges 4 pos items := by
  induction items generalizing pos with
  | nil => rfl
  | cons item rest inductionHypothesis =>
    rw [payloadRanges, itemRanges, ← inductionHypothesis, Nat.add_right_comm pos 4]

theorem drop_two_encode (item : Item) :
    item.encode.drop 2 = leBytes 2 item.payload.length ++ item.payload := by
  simp [Item.encode, List.drop_append_eq_append_drop]

theorem drop_four_encode (item : Item) : item.encode.drop 4 = item.payload := by
  simp [Item.encode, List.drop_append_eq_append_drop]

/-- The getters look up the first item of the tag among ranges that start
`skip` bytes into each item. -/
theorem mapTag_itemRanges {α : Type} (tag : Tag) (map : Bytes → Except Panic (Option α))
    {skip : Nat} (within : skip ≤ 4) :
    ∀ (items : List Item) (front : Bytes),
      Message.mapTag ⟨itemRanges skip front.length items, front ++ encodeItems items⟩ tag map =
        match items.find? (·.tag == tag) with
        | none => pure none
        | some item => map (item.encode.drop skip) := by
  intro items
  induction items with
  | nil => intro front; rfl
  | cons item rest inductionHypothesis =>
    intro front
    by_cases same : item.tag = tag
    · have found : slice (front ++ encodeItems (item :: rest)) (front.length + skip)
          (front.length + item.payload.length + 4) = .ok (item.encode.drop skip) := by
        have middle := slice_middle (front ++ item.encode.take skip) (item.encode.drop skip)
          (encodeItems rest)
        rw [List.append_assoc front, List.take_append_drop] at middle
        rw [encodeItems_cons, ← List.append_assoc]
        convert middle using 2 <;>
          simp only [List.length_append, List.length_take, List.length_drop, length_encode] <;>
          omega
      simp only [Message.mapTag, itemRanges, List.find?_cons, same, beq_self_eq_true, found,
        except_ok_bind]
    · have shifted := inductionHypothesis (front ++ item.encode)
      rw [List.length_append, length_encode, List.append_assoc, ← encodeItems_cons] at shifted
      rw [itemRanges, mapTag_cons_of_ne (fun equal => same (Tag.code_injective equal)),
        List.find?_cons_of_neg _ (by simpa using same), ← shifted]
      congr 3

theorem mapTag_payloadRanges {α : Type} (tag : Tag) (map : Bytes → Except Panic (Option α)) :
    ∀ (items : List Item) (front : Bytes),
      Message.mapTag ⟨payloadRanges (front.length + 4) items, front ++ encodeItems items⟩ tag map =
        match items.find? (·.tag == tag) with
        | none => pure none
        | some item => map item.payload := by
  intro items front
  rw [payloadRanges_eq_itemRanges, mapTag_itemRanges tag map (by decide) items front]
  cases items.find? (·.tag == tag) with
  | none => rfl
  | some item => simp only [drop_four_encode]

/-- `get_source` reads the header's source address. -/
theorem getSource_udpHeader (service : Nat) (source : AmsAddr) (numItems : Nat) (body : Bytes)
    (items : List (Nat × Nat × Nat)) :
    Message.getSource ⟨items, udpHeader service source numItems ++ body⟩ = .ok source := by
  have front : (leBytes 4 BECKHOFF_UDP_MAGIC ++ leBytes 4 0 ++ leBytes 4 service).length = 12 := by
    simp
  have middle := slice_middle (leBytes 4 BECKHOFF_UDP_MAGIC ++ leBytes 4 0 ++ leBytes 4 service)
    source.bytes (leBytes 4 numItems ++ body)
  rw [front, AmsAddr.length_bytes] at middle
  simp only [Message.getSource, udpHeader, List.append_assoc] at middle ⊢
  rw [middle, except_ok_bind, ← List.append_nil source.bytes, AmsAddr.readFrom_bytes]
  rfl

/-- The bytes of a built message parse as its items' payload ranges. -/
theorem parse_addAll {service : ServiceId} {source : AmsAddr} {calls : List Item} {m : Message}
    (built : (Message.new service source).addAll calls = some m) :
    Message.parse m.asBytes service false = .ok (.ok ⟨payloadRanges 28 calls, m.data⟩) := by
  obtain ⟨data, -, short⟩ := Built.addAll calls [] _ m (Built.new service source) built
  simp only [List.nil_append] at data short
  simp only [Message.parse, Bool.false_eq_true, if_false, Nat.or_zero, Message.asBytes]
  rw [data, parseInternal_built service source _ calls short]

/-- Parsing the bytes of a message that `Message::new` and successful
`add_bytes`, `add_str` and `add_u32` calls built succeeds; the parsed message
gives back the source, and for every tag the payload of the first call that
added it: the string of an `add_str`, the value of an `add_u32`, and nothing
for a tag that no call added. -/
theorem parse_built_message (service : ServiceId) (source : AmsAddr) (calls : List Item)
    (m : Message) (built : (Message.new service source).addAll calls = some m) :
    ∃ parsed, Message.parse m.asBytes service false = .ok (.ok parsed) ∧
      parsed.getSource = .ok source ∧
      ∀ tag, parsed.getBytes tag = .ok ((calls.find? (·.tag == tag)).map Item.payload) ∧
        ((∀ item ∈ calls, item.tag ≠ tag) → parsed.getBytes tag = .ok none) ∧
        (∀ text, calls.find? (·.tag == tag) = some (.str tag text) →
          parsed.getStr tag = .ok (some text)) ∧
        (∀ value, calls.find? (·.tag == tag) = some (.u32 tag value) →
          parsed.getU32 tag = .ok (some value)) := by
  obtain ⟨data, -, -⟩ := Built.addAll calls [] _ m (Built.new service source) built
  simp only [List.nil_append] at data
  have lookup := fun {α : Type} (map : Bytes → Except Panic (Option α)) tag =>
    mapTag_payloadRanges tag map calls (udpHeader service.code source calls.length)
  simp only [length_udpHeader, Nat.reduceAdd, ← data] at lookup
  refine ⟨_, parse_addAll built, by rw [data]; exact getSource_udpHeader .., fun tag => ?_⟩
  · have bytes : Message.getBytes _ tag = _ := lookup _ tag
    refine ⟨?_, fun never => ?_, fun text first => ?_, fun value first => ?_⟩
    · rw [bytes]
      cases calls.find? (·.tag == tag) <;> rfl
    · rw [bytes, List.find?_eq_none.mpr (by simpa using never)]
      rfl
    · rw [Message.getStr, lookup, first]
      simp [Item.payload, checkedSub_of_le, slice_append_zero, Except.map]
    · rw [Message.getU32, lookup, first]
      simp [Item.payload, readLe_of_le, List.take_of_length_le]

/-- A computer name, the route's NetID, a status, and the computer name again. -/
def sampleCalls : List Item :=
  [.str .computerName ⟨[80, 76, 67], by decide⟩, .bytes .netId [192, 168, 0, 1, 1, 1],
    .u32 .status 0x12345678, .bytes .computerName [1, 2]]

theorem parse_built_message_sample :
    ∃ m, (Message.new .identify sampleSource).addAll sampleCalls = some m ∧
      ∃ parsed, Message.parse m.asBytes .identify false = .ok (.ok parsed) ∧
        parsed.getSource = .ok sampleSource ∧
        ∀ tag, parsed.getBytes tag = .ok ((sampleCalls.find? (·.tag == tag)).map Item.payload) ∧
          ((∀ item ∈ sampleCalls, item.tag ≠ tag) → parsed.getBytes tag = .ok none) ∧
          (∀ text, sampleCalls.find? (·.tag == tag) = some (.str tag text) →
            parsed.getStr tag = .ok (some text)) ∧
          (∀ value, sampleCalls.find? (·.tag == tag) = some (.u32 tag value) →
            parsed.getU32 tag = .ok (some value)) :=
  ⟨_, rfl, parse_built_message .identify sampleSource sampleCalls _ rfl⟩

end AdsClient.Udp
