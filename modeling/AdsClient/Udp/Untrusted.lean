import AdsClient.Udp.Ranges

/-!
# Parsing untrusted bytes

`Message::parse` reads replies that arrive from the network, so its input is
any byte string.  Its loop records an item only when the item's payload lies
inside the bytes, so every range of a parsed message is in order and inside
the message (`parse_ok_bounds`), and `get_bytes`, `get_u32` and `get_source`
never panic on a parsed message.  Two panics remain, both on bytes a device
could send: the loop's slice `&data_ptr[len..]` when a length field runs past
the end, and `get_str`'s `b.len() - 1` on an item of length zero
(`parse_safety`).  The model leaves out the `Vec::with_capacity` of the item
count the bytes carry, whose allocation can fail on a large count.
-/

namespace AdsClient.Udp

/-! ## The loop -/

/-- Every range the loop records starts at or after `pos`, is in order, and
ends at least four bytes before `pos` plus the length of the bytes it read:
each item's tag and length lie before its payload. -/
theorem parseItems_ok_bounds :
    ∀ (pos : Nat) (cursor : Bytes) {items : List (Nat × Nat × Nat)},
      parseItems pos cursor = .ok (.ok items) →
      ∀ item ∈ items, pos ≤ item.2.1 ∧ item.2.1 ≤ item.2.2 ∧ item.2.2 + 4 ≤ pos + cursor.length := by
  intro pos cursor
  induction pos, cursor using parseItems.induct with
  | case1 pos | case2 pos _ =>
    intro items parsed
    rw [parseItems] at parsed
    cases parsed
    nofun
  | case3 pos _ _ | case4 pos _ _ _ =>
    intro items parsed
    rw [parseItems] at parsed
    cases parsed
  | case5 pos tag0 tag1 len0 len1 cursor len inside =>
    rename_i inductionHypothesis
    intro items parsed
    rw [parseItems_of_le inside] at parsed
    obtain ⟨rest, restParsed, made⟩ := except_bind_eq_ok.1 parsed
    rcases rest with error | restItems
    · cases made
    · cases made
      intro item member
      rcases List.mem_cons.1 member with rfl | later
      · simp only [List.length_cons]
        omega
      · have bounds := inductionHypothesis restParsed item later
        simp only [List.length_drop, List.length_cons] at bounds ⊢
        omega
  | case6 pos tag0 tag1 len0 len1 cursor len =>
    rename_i outside
    intro items parsed
    rw [parseItems_of_lt (Nat.lt_of_not_le outside)] at parsed
    cases parsed

/-! ## The header -/

/-- A successful read leaves the cursor `width` bytes further. -/
theorem readLe_eq_some_drop {width value : Nat} {cursor rest : Bytes}
    (read : readLe width cursor = some (value, rest)) :
    width ≤ cursor.length ∧ rest = cursor.drop width := by
  obtain ⟨bytes, exact, rfl, -⟩ := readLe_eq_some read
  exact ⟨by simp [exact], (List.drop_left' exact).symm⟩

theorem AmsAddr.readFrom_eq_some_drop {cursor rest : Bytes} {addr : AmsAddr}
    (read : AmsAddr.readFrom cursor = some (addr, rest)) : 8 ≤ cursor.length ∧ rest = cursor.drop 8 := by
  unfold AmsAddr.readFrom at read
  split at read
  · cases read
    exact ⟨‹_›, rfl⟩
  · cases read

/-- What `parse_internal` can return: an error of its own, without panicking,
or, past the 24 header bytes, what its loop over the rest gives. -/
theorem parseInternal_cases {data : Bytes} {expService : Nat}
    {result : Except Panic (Except AdsError Message)}
    (parsed : Message.parseInternal data expService = result) :
    (∃ error, result = .ok (.error error)) ∨
      (24 ≤ data.length ∧ result =
        (do
          let items ← parseItems 28 (data.drop 24)
          pure (items.map fun items => ⟨items, data⟩))) := by
  unfold Message.parseInternal at parsed
  split at parsed
  · exact .inl ⟨_, parsed.symm⟩
  rename_i afterMagic readMagic
  split at parsed
  · exact .inl ⟨_, parsed.symm⟩
  rename_i afterInvoke readInvoke
  split at parsed
  · exact .inl ⟨_, parsed.symm⟩
  rename_i afterService readService
  split_ifs at parsed
  · exact .inl ⟨_, parsed.symm⟩
  · exact .inl ⟨_, parsed.symm⟩
  · exact .inl ⟨_, parsed.symm⟩
  split at parsed
  · exact .inl ⟨_, parsed.symm⟩
  rename_i afterSource readSource
  split at parsed
  · exact .inl ⟨_, parsed.symm⟩
  rename_i afterCount readCount
  obtain ⟨magicFits, rfl⟩ := readLe_eq_some_drop readMagic
  obtain ⟨invokeFits, rfl⟩ := readLe_eq_some_drop readInvoke
  obtain ⟨serviceFits, rfl⟩ := readLe_eq_some_drop readService
  obtain ⟨sourceFits, rfl⟩ := AmsAddr.readFrom_eq_some_drop readSource
  obtain ⟨countFits, rfl⟩ := readLe_eq_some_drop readCount
  simp only [List.drop_drop, List.length_drop] at parsed invokeFits serviceFits sourceFits countFits
  exact .inr ⟨by omega, parsed.symm⟩

/-- What a successful `parse_internal` read: at least the 24 header bytes, and
its loop over the rest. -/
theorem parseInternal_eq_ok {data : Bytes} {expService : Nat} {m : Message}
    (parsed : Message.parseInternal data expService = .ok (.ok m)) :
    m.data = data ∧ 24 ≤ data.length ∧ parseItems 28 (data.drop 24) = .ok (.ok m.items) := by
  rcases parseInternal_cases parsed with ⟨_, failed⟩ | ⟨long, looped⟩
  · cases failed
  obtain ⟨items, itemsParsed, made⟩ := except_bind_eq_ok.1 looped.symm
  rcases items with error | items
  · cases made
  · cases made
    exact ⟨rfl, long, itemsParsed⟩

/-! ## The parsed message -/

/-- The items of a message lie inside its bytes, each range in order: what the
getters need to slice without panicking. -/
def Message.InBounds (m : Message) : Prop :=
  ∀ item ∈ m.items, item.2.1 ≤ item.2.2 ∧ item.2.2 ≤ m.data.length

instance (m : Message) : Decidable m.InBounds :=
  inferInstanceAs (Decidable (∀ item ∈ m.items, item.2.1 ≤ item.2.2 ∧ item.2.2 ≤ m.data.length))

/-- Every message `parse` returns holds the bytes it read, at least the 24 of
the header, with each item inside them. -/
theorem parse_ok_bounds {data : Bytes} {expService : ServiceId} {reply : Bool} {m : Message}
    (parsed : Message.parse data expService reply = .ok (.ok m)) :
    m.data = data ∧ 24 ≤ data.length ∧ m.InBounds := by
  obtain ⟨rfl, long, looped⟩ := parseInternal_eq_ok parsed
  refine ⟨rfl, long, fun item member => ?_⟩
  have bounds := parseItems_ok_bounds _ _ looped item member
  simp only [List.length_drop] at bounds
  omega

/-- On a message whose items lie inside it, the lookup slices without panicking. -/
theorem mapTag_of_inBounds {α : Type} {m : Message} (inBounds : m.InBounds) (tag : Tag)
    (map : Bytes → Except Panic (Option α)) :
    m.mapTag tag map =
      match m.items.find? (fun item => item.1 == tag.code) with
      | none => pure none
      | some (_, i, j) => map ((m.data.drop i).take (j - i)) := by
  unfold Message.mapTag
  cases found : m.items.find? (fun item => item.1 == tag.code) with
  | none => rfl
  | some item =>
    obtain ⟨ordered, inside⟩ := inBounds item (List.mem_of_find?_eq_some found)
    obtain ⟨code, i, j⟩ := item
    simp only [slice_of_le ordered inside, except_ok_bind]

/-- On every message `parse` returns and for every tag, `get_bytes`, `get_u32`
and `get_source` return without panicking, and `get_str` panics, on
`b.len() - 1`, exactly when the first item of the tag is empty. -/
theorem parse_safety {data : Bytes} {expService : ServiceId} {reply : Bool} {m : Message}
    (parsed : Message.parse data expService reply = .ok (.ok m)) (tag : Tag) :
    (∃ bytes, m.getBytes tag = .ok bytes) ∧ (∃ value, m.getU32 tag = .ok value) ∧
      (∃ source, m.getSource = .ok source) ∧
      ((∃ code i, m.items.find? (fun item => item.1 == tag.code) = some (code, i, i)) →
        m.getStr tag = .error .subtractOverflow) ∧
      ((¬ ∃ code i, m.items.find? (fun item => item.1 == tag.code) = some (code, i, i)) →
        ∃ text, m.getStr tag = .ok text) := by
  obtain ⟨rfl, long, inBounds⟩ := parse_ok_bounds parsed
  refine ⟨?_, ?_, ?_, ?_, fun nonempty => ?_⟩
  · rw [Message.getBytes, mapTag_of_inBounds inBounds]
    split <;> exact ⟨_, rfl⟩
  · rw [Message.getU32, mapTag_of_inBounds inBounds]
    split <;> exact ⟨_, rfl⟩
  · have header : ((m.data.drop 12).take (20 - 12)).length = 8 := by
      simp only [List.length_take, List.length_drop]
      omega
    rw [Message.getSource, slice_of_le (by omega) (by omega), except_ok_bind, AmsAddr.readFrom,
      dif_pos header.ge]
    exact ⟨_, rfl⟩
  · rintro ⟨code, i, found⟩
    rw [Message.getStr, mapTag_of_inBounds inBounds, found]
    simp [checkedSub_of_lt]
  · rw [Message.getStr, mapTag_of_inBounds inBounds]
    cases found : m.items.find? (fun item => item.1 == tag.code) with
    | none => exact ⟨_, rfl⟩
    | some item =>
      obtain ⟨code, i, j⟩ := item
      obtain ⟨ordered, inside⟩ : i ≤ j ∧ j ≤ m.data.length := inBounds _ (List.mem_of_find?_eq_some found)
      have longer : i < j := Nat.lt_of_le_of_ne ordered fun same => nonempty ⟨code, i, same ▸ found⟩
      have length : ((m.data.drop i).take (j - i)).length = j - i := by
        simp only [List.length_take, List.length_drop]
        omega
      simp only [checkedSub_of_le (show 1 ≤ ((m.data.drop i).take (j - i)).length by omega),
        slice_of_le (Nat.zero_le _) (Nat.sub_le _ 1), except_ok_bind]
      exact ⟨_, rfl⟩

/-- Two replies a device could send: a `NetId` item whose length field (5) runs
past the one byte left panics `parse`, and a `ComputerName` item of length 0
parses but panics `get_str`. -/
theorem parse_untrusted_panics :
    Message.parse (udpHeader ServiceId.identify.code sampleSource 1 ++ [7, 0, 5, 0, 1]) .identify
        false = .error .indexOutOfRange ∧
      ∃ parsed, Message.parse (udpHeader ServiceId.identify.code sampleSource 1 ++ [5, 0, 0, 0])
          .identify false = .ok (.ok parsed) ∧
        parsed.getStr .computerName = .error .subtractOverflow := by
  refine ⟨?_, ⟨[(5, 28, 28)], udpHeader ServiceId.identify.code sampleSource 1 ++ [5, 0, 0, 0]⟩, ?_, by rfl⟩
  · show Message.parseInternal _ ServiceId.identify.code = _
    rw [parseInternal_udpHeader, parseItems_of_lt (show [(1 : UInt8)].length < leValue [5, 0] by decide)]
    rfl
  · show Message.parseInternal _ ServiceId.identify.code = _
    rw [parseInternal_udpHeader, parseItems_of_le (show leValue [0, 0] ≤ ([] : Bytes).length by decide),
      List.drop_nil, parseItems_nil]
    rfl

end AdsClient.Udp
