import AdsClient.Wire.Bytes

/-!
# Text read from byte fields

Two fields of the crate carry text that is read up to its first NUL.
`Device::get_info` and the `TC/RTOS` branch of `udp::get_info` take a byte
string's bytes before the first zero and make each one the character of that
code (`b as char`, Latin-1).  The other branch of `udp::get_info` reads
little-endian `u16` words while two bytes are left, stops at the first zero
word, and drops every word that `char::from_u32` rejects: the surrogates.

The main results are the two decoders on encoded text, `latin1UntilNul_append`
and `utf16UntilNul_append`: Latin-1 text comes back whole, and UTF-16 text
comes back without its characters past U+FFFF, both halves of whose surrogate
pairs are dropped.
-/

namespace AdsClient

/-! ## Latin-1 -/

/-- `bytes.iter().take_while(|&&b| b != 0).map(|&b| b as char).collect::<String>()`
(`Device::get_info` tests `ch > 0`, the same test on a `u8`). -/
def latin1UntilNul (bytes : Bytes) : String :=
  ⟨(bytes.takeWhile (· != 0)).map fun byte => Char.ofNat byte.toNat⟩

/-- The Latin-1 bytes of characters below U+0100. -/
def latin1Bytes (chars : List Char) : Bytes := chars.map fun c => UInt8.ofNat c.toNat

/-- A character from U+0001 to U+00FF, which Latin-1 writes as one nonzero byte. -/
def Latin1 (c : Char) : Prop := 0 < c.toNat ∧ c.toNat < 256

instance : DecidablePred Latin1 := fun c => inferInstanceAs (Decidable (0 < c.toNat ∧ c.toNat < 256))

theorem toNat_ofNat_of_valid {code : Nat} (valid : code.isValidChar) : (Char.ofNat code).toNat = code := by
  rw [Char.ofNat, dif_pos valid]
  rfl

theorem ofNat_latin1 {c : Char} (latin1 : Latin1 c) : Char.ofNat (UInt8.ofNat c.toNat).toNat = c := by
  rw [UInt8.toNat_ofNat_of_lt latin1.2, Char.ofNat_toNat]

theorem latin1_byte_ne_zero {c : Char} (latin1 : Latin1 c) : (UInt8.ofNat c.toNat != 0) = true := by
  refine bne_iff_ne.mpr fun zero => ?_
  have zeroCode := congrArg UInt8.toNat zero
  rw [UInt8.toNat_ofNat_of_lt latin1.2, UInt8.toNat_zero] at zeroCode
  exact Nat.pos_iff_ne_zero.mp latin1.1 zeroCode

/-- The decoder reads Latin-1 text back and goes on after it. -/
theorem latin1UntilNul_append {chars : List Char} (latin1 : ∀ c ∈ chars, Latin1 c) (rest : Bytes) :
    (latin1UntilNul (latin1Bytes chars ++ rest)).data = chars ++ (latin1UntilNul rest).data := by
  induction chars with
  | nil => rfl
  | cons c more inductionHypothesis =>
    have first := latin1 c (List.mem_cons_self c more)
    have after := inductionHypothesis fun other member => latin1 other (List.mem_cons_of_mem c member)
    simp only [latin1UntilNul, latin1Bytes] at after ⊢
    rw [List.map_cons, List.cons_append, List.takeWhile_cons, if_pos (latin1_byte_ne_zero first),
      List.map_cons, after, ofNat_latin1 first, List.cons_append]

/-- Whatever the bytes, the text has no more characters than there are bytes,
and each is a Latin-1 character other than NUL. -/
theorem latin1UntilNul_latin1 (bytes : Bytes) :
    (latin1UntilNul bytes).length ≤ bytes.length ∧ ∀ c ∈ (latin1UntilNul bytes).data, Latin1 c := by
  refine ⟨?_, fun c member => ?_⟩
  · simp only [latin1UntilNul, String.length, List.length_map]
    exact (List.takeWhile_prefix _).length_le
  · obtain ⟨byte, kept, rfl⟩ := List.mem_map.mp member
    have all : (bytes.takeWhile (· != 0)).all (· != 0) = true := List.all_takeWhile
    have nonzero : byte ≠ 0 := bne_iff_ne.mp (List.all_eq_true.mp all byte kept)
    have bound : byte.toNat < 256 := byte.toNat_lt_size
    rw [Latin1, toNat_ofNat_of_valid (Or.inl (by omega))]
    exact ⟨Nat.pos_of_ne_zero fun zero => nonzero (UInt8.toNat.inj zero), bound⟩

/-! ## UTF-16 -/

/-- `iter::from_fn(|| bytes.read_u16::<LE>().ok())`: the little-endian words of
the bytes, an odd last byte left unread. -/
def leWords : Bytes → List Nat
  | low :: high :: rest => leValue [low, high] :: leWords rest
  | _ => []

/-- `char::from_u32`: the character of a scalar value, nothing for a surrogate.

Modelled from Rust's `core`, which is not under `src/`. -/
def charFromU32 (code : Nat) : Option Char :=
  if valid : code.isValidChar then some (Char.ofNatAux code valid) else none

/-- The service-pack text of `udp::get_info`: `from_fn` words, `take_while(ch != 0)`,
then `filter_map(char::from_u32)`. -/
def utf16UntilNul (bytes : Bytes) : String :=
  ⟨((leWords bytes).takeWhile (· != 0)).filterMap charFromU32⟩

/-- `char::encode_utf16`: one unit below U+10000, a surrogate pair above.

Modelled from Rust's `core`, which is not under `src/`. -/
def utf16Units (c : Char) : List Nat :=
  if c.toNat < 0x10000 then [c.toNat]
  else [0xD800 + (c.toNat - 0x10000) / 0x400, 0xDC00 + (c.toNat - 0x10000) % 0x400]

/-- UTF-16LE text, as a Windows `OSVERSIONINFO` carries its service pack. -/
def utf16Bytes (chars : List Char) : Bytes :=
  chars.flatMap fun c => (utf16Units c).flatMap (leBytes 2)

@[simp] theorem leWords_append_leBytes (word : Nat) (rest : Bytes) :
    leWords (leBytes 2 word ++ rest) = leValue (leBytes 2 word) :: leWords rest := rfl

theorem leWords_units_append (units : List Nat) (rest : Bytes) :
    leWords (units.flatMap (leBytes 2) ++ rest) =
      units.map (fun unit => leValue (leBytes 2 unit)) ++ leWords rest := by
  induction units with
  | nil => rfl
  | cons unit more inductionHypothesis =>
    rw [List.flatMap_cons, List.append_assoc, leWords_append_leBytes, inductionHypothesis]
    rfl

theorem char_toNat_lt (c : Char) : c.toNat < 0x110000 := by
  rcases c.valid with below | ⟨_, above⟩
  · exact Nat.lt_trans below (by decide)
  · exact above

theorem charFromU32_toNat (c : Char) : charFromU32 c.toNat = some c := by
  have valid : c.toNat.isValidChar := c.valid
  rw [charFromU32, dif_pos valid]
  exact congrArg some (Char.ext (UInt32.toNat.inj rfl))

theorem charFromU32_surrogate {code : Nat} (low : 0xD800 ≤ code) (high : code < 0xE000) :
    charFromU32 code = none :=
  dif_neg fun valid => by rcases valid with below | ⟨above, -⟩ <;> omega

/-- A surrogate pair, as the decoder reads it: two nonzero words, both dropped. -/
theorem surrogates_decode {high low : Nat} (highRange : 0xD800 ≤ high ∧ high < 0xDC00)
    (lowRange : 0xDC00 ≤ low ∧ low < 0xE000) :
    (∀ unit ∈ [high, low].map (fun unit => leValue (leBytes 2 unit)), unit ≠ 0) ∧
      ([high, low].map fun unit => leValue (leBytes 2 unit)).filterMap charFromU32 = [] := by
  rw [List.map_cons, List.map_singleton, leValue_leBytes_of_lt (show high < 256 ^ 2 by omega),
    leValue_leBytes_of_lt (show low < 256 ^ 2 by omega)]
  refine ⟨fun unit member => ?_, ?_⟩
  · simp only [List.mem_cons, List.mem_singleton, List.not_mem_nil, or_false] at member
    omega
  · simp only [List.filterMap_cons, charFromU32_surrogate highRange.1 (by omega),
      charFromU32_surrogate (by omega : 0xD800 ≤ low) lowRange.2, List.filterMap_nil]

/-- The words one character writes, as the decoder reads them: nonzero for a
character other than NUL, and kept exactly when the character is below U+10000. -/
theorem units_decode {c : Char} (nonzero : 0 < c.toNat) :
    (∀ unit ∈ (utf16Units c).map (fun unit => leValue (leBytes 2 unit)), unit ≠ 0) ∧
      ((utf16Units c).map fun unit => leValue (leBytes 2 unit)).filterMap charFromU32 =
        if c.toNat < 0x10000 then [c] else [] := by
  have bound := char_toNat_lt c
  unfold utf16Units
  split_ifs with bmp
  · rw [List.map_singleton, leValue_leBytes_of_lt (show c.toNat < 256 ^ 2 by omega)]
    refine ⟨fun unit member => ?_, by simp only [List.filterMap_cons, charFromU32_toNat, List.filterMap_nil]⟩
    rw [List.mem_singleton.mp member]
    omega
  · exact surrogates_decode ⟨by omega, by omega⟩ ⟨by omega, by omega⟩

/-- The decoder reads UTF-16 text without NUL back, keeping the characters
below U+10000 and dropping each one past it, and goes on after it. -/
theorem utf16UntilNul_append {chars : List Char} (nonzero : ∀ c ∈ chars, 0 < c.toNat)
    (rest : Bytes) :
    (utf16UntilNul (utf16Bytes chars ++ rest)).data =
      chars.filter (fun c => c.toNat < 0x10000) ++ (utf16UntilNul rest).data := by
  induction chars with
  | nil => rfl
  | cons c more inductionHypothesis =>
    obtain ⟨kept, decoded⟩ := units_decode (nonzero c (List.mem_cons_self c more))
    have after := inductionHypothesis fun other member => nonzero other (List.mem_cons_of_mem c member)
    simp only [utf16UntilNul, utf16Bytes] at after ⊢
    rw [List.flatMap_cons, List.append_assoc, leWords_units_append,
      List.takeWhile_append_of_pos (fun unit member => bne_iff_ne.mpr (kept unit member)),
      List.filterMap_append, decoded, after, List.filter_cons]
    by_cases bmp : c.toNat < 0x10000 <;> simp [bmp]

end AdsClient
