import AdsClient.Udp.RoundTrip

/-!
# The ranges the builder records

`add_bytes`, `add_str` and `add_u32` record each item as
`(tag, start, self.data.len())`, with `start` taken after the tag is written
and before the length field is: the range covers the length field and the
payload.  `parse_internal` records `(tag, pos, pos + len)`, the payload alone.
The getters read whatever range they find, so on a built message they return
the length field in front of the payload, and on its parsed copy the payload
alone.

Both layouts are `itemRanges`, from two or from four bytes into each item.
The main result is `mapTag_built`: what every getter reads on a built message.
-/

namespace AdsClient.Udp

/-! ## The builder's ranges -/

/-- A successful call records its item from the length field, two bytes after
the tag, to the end of the payload. -/
theorem appendItem_items {m next : Message} {tag : Tag} {length : Except AdsError UInt16}
    {payload : Bytes} (done : m.appendItem tag length payload = .ok (next, .ok ())) :
    next.items = m.items ++ [(tag.code, m.data.length + 2, m.data.length + payload.length + 4)] := by
  unfold Message.appendItem at done
  rcases length with lengthError | len
  · cases done
  · dsimp only at done
    split at done
    · cases done
    · obtain ⟨_, -, made⟩ := except_bind_eq_ok.1 done
      cases made
      simp only [List.length_append, length_leBytes, List.append_cancel_left_eq, List.cons.injEq,
        Prod.mk.injEq, true_and, and_true]
      omega

theorem add_items {m next : Message} {item : Item} (done : m.add item = .ok (next, .ok ())) :
    next.items =
      m.items ++ [(item.tag.code, m.data.length + 2, m.data.length + item.payload.length + 4)] := by
  cases item with
  | bytes tag data => exact appendItem_items done
  | str tag data => exact appendItem_items done
  | u32 tag data => exact @appendItem_items m next tag (.ok 4) _ done

/-- The items of a built message are its items' ranges from their length fields. -/
theorem Built.addAll_items {service : ServiceId} {source : AmsAddr} :
    ∀ (items calls : List Item) (m next : Message), Built service source calls m →
      m.items = itemRanges 2 24 calls → m.addAll items = some next →
      next.items = itemRanges 2 24 (calls ++ items) := by
  intro items
  induction items with
  | nil =>
    intro calls m next _ recorded done
    cases done
    simpa using recorded
  | cons item rest inductionHypothesis =>
    intro calls m next built recorded done
    unfold Message.addAll at done
    split at done
    · rename_i after added
      have afterItems : after.items = itemRanges 2 24 (calls ++ [item]) := by
        rw [add_items added, recorded, itemRanges_append, built.data]
        simp only [List.length_append, length_udpHeader]
      simpa using inductionHypothesis (calls ++ [item]) after next (built.add added) afterItems done
    · cases done

/-- On a message that `Message::new` and successful calls built, every getter
reads the first item of its tag from the length field on: the length field,
then the payload. -/
theorem mapTag_built {α : Type} {service : ServiceId} {source : AmsAddr} {calls : List Item}
    {m : Message} (built : (Message.new service source).addAll calls = some m) (tag : Tag)
    (map : Bytes → Except Panic (Option α)) :
    m.mapTag tag map =
      match calls.find? (·.tag == tag) with
      | none => pure none
      | some item => map (leBytes 2 item.payload.length ++ item.payload) := by
  obtain ⟨data, -, -⟩ := Built.addAll calls [] _ m (Built.new service source) built
  have items := Built.addAll_items calls [] _ m (Built.new service source) rfl built
  have lookup := mapTag_itemRanges tag map (by decide : 2 ≤ 4) calls
    (udpHeader service.code source calls.length)
  simp only [List.nil_append] at data items
  rw [length_udpHeader, ← data, ← items] at lookup
  rw [lookup]
  cases calls.find? (·.tag == tag) with
  | none => rfl
  | some item => simp only [drop_two_encode]

/-- For every built message and every tag, the getters on the message and on
its parsed copy read the first item that a call added with the tag: on the
message with its length field in front, on the parsed copy without. -/
theorem mapTag_built_parsed {α : Type} {service : ServiceId} {source : AmsAddr} {calls : List Item}
    {m : Message} (built : (Message.new service source).addAll calls = some m) (tag : Tag)
    (map : Bytes → Except Panic (Option α)) :
    ∃ parsed, Message.parse m.asBytes service false = .ok (.ok parsed) ∧
      m.mapTag tag map =
        (match calls.find? (·.tag == tag) with
        | none => pure none
        | some item => map (leBytes 2 item.payload.length ++ item.payload)) ∧
      parsed.mapTag tag map =
        match calls.find? (·.tag == tag) with
        | none => pure none
        | some item => map item.payload := by
  obtain ⟨data, -, -⟩ := Built.addAll calls [] _ m (Built.new service source) built
  simp only [List.nil_append] at data
  have lookup := mapTag_payloadRanges tag map calls (udpHeader service.code source calls.length)
  rw [length_udpHeader, ← data] at lookup
  exact ⟨_, parse_addAll built, mapTag_built built tag map, lookup⟩

theorem mapTag_built_parsed_netId :
    ∃ m, (Message.new .identify sampleSource).addAll sampleCalls = some m ∧
      ∃ parsed, Message.parse m.asBytes .identify false = .ok (.ok parsed) ∧
        m.mapTag .netId (fun bytes => .ok (some bytes)) = .ok (some [6, 0, 192, 168, 0, 1, 1, 1]) ∧
        parsed.mapTag .netId (fun bytes => .ok (some bytes)) = .ok (some [192, 168, 0, 1, 1, 1]) :=
  match mapTag_built_parsed (rfl : (Message.new .identify sampleSource).addAll sampleCalls = _) .netId
      (fun bytes => .ok (some bytes)) with
  | ⟨parsed, parse, onMessage, onParsed⟩ => ⟨_, rfl, parsed, parse, onMessage, onParsed⟩

/-- Reading the first three sample calls back: on the built message the getters
see each item's length field in front of its payload, on the parsed copy the
payload alone. -/
theorem built_accessors_differ :
    ∃ m, (Message.new .identify sampleSource).addAll sampleCalls = some m ∧
      ∃ parsed, Message.parse m.asBytes .identify false = .ok (.ok parsed) ∧
        m.getBytes .netId = .ok (some [6, 0, 192, 168, 0, 1, 1, 1]) ∧
        parsed.getBytes .netId = .ok (some [192, 168, 0, 1, 1, 1]) ∧
        m.getStr .computerName = .ok (some ⟨[4, 0, 80, 76, 67], by decide⟩) ∧
        parsed.getStr .computerName = .ok (some ⟨[80, 76, 67], by decide⟩) ∧
        m.getU32 .status = .ok (some 0x56780004) ∧
        parsed.getU32 .status = .ok (some 0x12345678) :=
  ⟨_, rfl, _, @parse_addAll .identify sampleSource sampleCalls _ rfl, rfl, rfl, rfl, rfl, rfl, rfl⟩

end AdsClient.Udp
