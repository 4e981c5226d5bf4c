import Mathlib

/-!
# Bytes, little-endian fields, panics and errors

The client reads and writes every AMS field as little-endian bytes: through
`zerocopy`'s `U16<LE>`/`U32<LE>` when a header struct is serialized, through
`LE::read_u32(&buf[i..j])` at fixed offsets, and through the `ReadBytesExt`
cursor on a `&[u8]`.  This module gives the three one model over `List UInt8`.

A Rust function of the crate can stop in two ways before it returns: it can
panic (a slice out of range, a failed `expect`, a `usize` subtraction below
zero, a failed `assert!`), or return an `Err`.  Panics are the `Panic` case of
`Except Panic _`; errors are values of `AdsError`.  Subtraction is modelled
with overflow checks, as a debug build runs it.
-/

namespace AdsClient

/-- A byte buffer: a `Vec<u8>` or a `&[u8]`. -/
abbrev Bytes := List UInt8

/-- The ways the modelled code can panic. -/
inductive Panic where
  | indexOutOfRange
  | subtractOverflow
  | expectFailed
  | assertionFailed
  deriving DecidableEq, Repr

/-- The errors of `roboplc::Error` that the crate produces: `Error::invalid_data`
of a failed `u32::try_from`, `Error::io` with the crate's own message, the
`UnexpectedEof` of a short cursor read, an error of the `roboplc::comm`
transport passed on by `?`, the `Error::io` of a failed or timed-out wait on a
reply slot, and `ads_error(action, code)` of a nonzero ADS error code or
result word. -/
inductive AdsError where
  | invalidData
  | io (message : String)
  | unexpectedEof
  | transport
  | timeout
  | ads (action : String) (code : Nat)
  deriving DecidableEq, Repr

/-! ## Running `Except` computations -/

@[simp] theorem except_pure {ε α : Type} (value : α) : (pure value : Except ε α) = .ok value := rfl

@[simp] theorem except_ok_bind {ε α β : Type} (value : α) (next : α → Except ε β) :
    (Except.ok value >>= next) = next value := rfl

@[simp] theorem except_error_bind {ε α β : Type} (error : ε) (next : α → Except ε β) :
    (Except.error error >>= next) = .error error := rfl

/-- A computation returns a value only if each of its steps did. -/
theorem except_bind_eq_ok {ε α β : Type} {first : Except ε α} {next : α → Except ε β}
    {value : β} : (first >>= next) = .ok value ↔ ∃ middle, first = .ok middle ∧ next middle = .ok value := by
  cases first <;> simp

/-- `ads_error` of `errors.rs`.

Modelled from the spec: `errors.rs` is not under `src/`; the spec's §7 says
that a nonzero code becomes an `AdsDomain` error carrying the operation name. -/
def adsError {α : Type} (action : String) (code : Nat) : Except AdsError α :=
  .error (.ads action code)

/-- `u32::try_from(n).map_err(Error::invalid_data)`. -/
def toU32 (n : Nat) : Except AdsError UInt32 :=
  if n < 2 ^ 32 then .ok (UInt32.ofNat n) else .error .invalidData

theorem toU32_eq_ok {n : Nat} (bound : n < 2 ^ 32) : toU32 n = .ok (UInt32.ofNat n) :=
  if_pos bound

theorem toU32_eq_error {n : Nat} (bound : ¬ n < 2 ^ 32) : toU32 n = .error .invalidData :=
  if_neg bound

/-- `u16::try_from(n).map_err(Error::invalid_data)`. -/
def toU16 (n : Nat) : Except AdsError UInt16 :=
  if n < 2 ^ 16 then .ok (UInt16.ofNat n) else .error .invalidData

theorem toU16_eq_ok {n : Nat} (bound : n < 2 ^ 16) : toU16 n = .ok (UInt16.ofNat n) :=
  if_pos bound

theorem toU16_eq_error {n : Nat} (bound : ¬ n < 2 ^ 16) : toU16 n = .error .invalidData :=
  if_neg bound

@[simp] theorem ofNat_toNat_u16 (value : UInt16) : UInt16.ofNat value.toNat = value :=
  UInt16.ext (UInt16.toNat_ofNat_of_lt value.toNat_lt)

@[simp] theorem ofNat_toNat_u32 (value : UInt32) : UInt32.ofNat value.toNat = value :=
  UInt32.ext (UInt32.toNat_ofNat_of_lt value.toNat_lt)

/-- A successful `u16::try_from` keeps the value. -/
theorem toU16_eq_ok_iff {n : Nat} {value : UInt16} :
    toU16 n = .ok value ↔ n < 2 ^ 16 ∧ value.toNat = n := by
  unfold toU16
  split_ifs with bound
  · rw [Except.ok.injEq]
    constructor
    · rintro rfl
      exact ⟨bound, UInt16.toNat_ofNat_of_lt bound⟩
    · rintro ⟨-, rfl⟩
      exact ofNat_toNat_u16 value
  · simp only [bound, false_and, iff_false]

theorem toNat_ofNat_u32 {n : Nat} (bound : n < 2 ^ 32) : (UInt32.ofNat n).toNat = n :=
  UInt32.toNat_ofNat_of_lt bound

/-! ## Slices -/

/-- `buf[start..stop]`, which panics unless `start ≤ stop ≤ buf.len()`. -/
def slice (buf : Bytes) (start stop : Nat) : Except Panic Bytes :=
  if start ≤ stop ∧ stop ≤ buf.length then .ok ((buf.drop start).take (stop - start))
  else .error .indexOutOfRange

/-- `&buf[start..]`, which panics unless `start ≤ buf.len()`. -/
def sliceFrom (buf : Bytes) (start : Nat) : Except Panic Bytes :=
  if start ≤ buf.length then .ok (buf.drop start) else .error .indexOutOfRange

/-- `a - b` on `usize`, which panics below zero. -/
def checkedSub (a b : Nat) : Except Panic Nat :=
  if b ≤ a then .ok (a - b) else .error .subtractOverflow

theorem slice_of_le {buf : Bytes} {start stop : Nat} (ordered : start ≤ stop)
    (inside : stop ≤ buf.length) :
    slice buf start stop = .ok ((buf.drop start).take (stop - start)) := by
  simp [slice, ordered, inside]

theorem slice_of_lt {buf : Bytes} {start stop : Nat} (outside : buf.length < stop) :
    slice buf start stop = .error .indexOutOfRange := by
  simp [slice]
  omega

theorem sliceFrom_of_le {buf : Bytes} {start : Nat} (inside : start ≤ buf.length) :
    sliceFrom buf start = .ok (buf.drop start) := by
  simp [sliceFrom, inside]

theorem checkedSub_of_le {a b : Nat} (le : b ≤ a) : checkedSub a b = .ok (a - b) := by
  simp [checkedSub, le]

theorem checkedSub_of_lt {a b : Nat} (lt : a < b) : checkedSub a b = .error .subtractOverflow := by
  simp [checkedSub]
  omega

/-- `slice[i]`, which panics out of range. -/
def index {α : Type} (xs : List α) (i : Nat) : Except Panic α :=
  match xs[i]? with
  | some x => .ok x
  | none => .error .indexOutOfRange

/-- `dst[pos..][..src.len()].copy_from_slice(src)`, which panics unless the
source fits from `pos` on. -/
def writeAt (dst : Bytes) (pos : Nat) (src : Bytes) : Except Panic Bytes :=
  if pos + src.length ≤ dst.length then .ok (dst.take pos ++ src ++ dst.drop (pos + src.length))
  else .error .indexOutOfRange

theorem index_of_getElem? {α : Type} {xs : List α} {i : Nat} {x : α} (found : xs[i]? = some x) :
    index xs i = .ok x := by
  simp [index, found]

theorem writeAt_of_le {dst src : Bytes} {pos : Nat} (inside : pos + src.length ≤ dst.length) :
    writeAt dst pos src = .ok (dst.take pos ++ src ++ dst.drop (pos + src.length)) := by
  simp [writeAt, inside]

/-- A write over a part of the same length replaces that part. -/
theorem writeAt_append (front old new back : Bytes) (sameLength : old.length = new.length) :
    writeAt (front ++ old ++ back) front.length new = .ok (front ++ new ++ back) := by
  rw [writeAt_of_le (by simp [sameLength]), ← sameLength]
  simp only [List.append_assoc, List.take_left, List.drop_append, List.drop_left]

/-- Slicing a displayed middle part of a buffer gives that part. -/
theorem slice_middle (front middle back : Bytes) :
    slice (front ++ middle ++ back) front.length (front.length + middle.length) =
      .ok middle := by
  rw [slice_of_le (by omega) (by simp)]
  simp

/-- A slice past a leading part is a slice of the rest. -/
theorem slice_append_of_le {front rest : Bytes} {start stop : Nat}
    (past : front.length ≤ start) (ordered : start ≤ stop) :
    slice (front ++ rest) start stop = slice rest (start - front.length) (stop - front.length) := by
  unfold slice
  have dropped : (front ++ rest).drop start = rest.drop (start - front.length) := by
    rw [List.drop_append_eq_append_drop, List.drop_eq_nil_of_le past, List.nil_append]
  simp only [dropped, List.length_append]
  congr 1
  · simp only [eq_iff_iff]
    omega
  · congr 2
    omega

/-- A slice from the start that covers a leading part keeps it whole. -/
theorem slice_append_zero {front rest : Bytes} {stop : Nat} (covers : front.length ≤ stop) :
    slice (front ++ rest) 0 stop = (slice rest 0 (stop - front.length)).map (front ++ ·) := by
  unfold slice
  by_cases inside : stop ≤ front.length + rest.length
  · rw [if_pos (by simpa using inside), if_pos (by omega)]
    simp only [List.drop_zero, Nat.sub_zero, List.take_append_eq_append_take,
      List.take_of_length_le covers]
    rfl
  · rw [if_neg (by simpa using inside), if_neg (by omega)]
    rfl

@[simp] theorem slice_zero_zero (buf : Bytes) : slice buf 0 0 = .ok [] := by
  simp [slice]

/-! ## Little-endian values -/

/-- The `width` little-endian bytes of `value`, as `U16<LE>`, `U32<LE>` and
`write_u32::<LE>` lay out a value below `256 ^ width`. -/
def leBytes : Nat → Nat → Bytes
  | 0, _ => []
  | width + 1, value => UInt8.ofNat (value % 256) :: leBytes width (value / 256)

/-- The value of little-endian bytes: `LE::read_u16`/`read_u32`/`read_u64` on a
slice of that length. -/
def leValue : Bytes → Nat
  | [] => 0
  | byte :: rest => byte.toNat + 256 * leValue rest

@[simp] theorem leBytes_zero (value : Nat) : leBytes 0 value = [] := rfl

theorem leBytes_succ (width value : Nat) :
    leBytes (width + 1) value = UInt8.ofNat (value % 256) :: leBytes width (value / 256) := rfl

@[simp] theorem leValue_nil : leValue [] = 0 := rfl

@[simp] theorem leValue_cons (byte : UInt8) (rest : Bytes) :
    leValue (byte :: rest) = byte.toNat + 256 * leValue rest := rfl

@[simp] theorem length_leBytes (width value : Nat) : (leBytes width value).length = width := by
  induction width generalizing value with
  | zero => rfl
  | succ width inductionHypothesis => simp [leBytes_succ, inductionHypothesis]

theorem leValue_leBytes (width value : Nat) :
    leValue (leBytes width value) = value % 256 ^ width := by
  induction width generalizing value with
  | zero => simp [Nat.mod_one]
  | succ width inductionHypothesis =>
      have lowByte : (UInt8.ofNat (value % 256)).toNat = value % 256 :=
        UInt8.toNat_ofNat_of_lt (Nat.mod_lt _ (by decide))
      rw [leBytes_succ, leValue_cons, inductionHypothesis, lowByte, Nat.pow_succ', Nat.mod_mul]

/-- A value that fits in `width` bytes is read back exactly. -/
@[simp] theorem leValue_leBytes_of_lt {width value : Nat} (fits : value < 256 ^ width) :
    leValue (leBytes width value) = value := by
  rw [leValue_leBytes, Nat.mod_eq_of_lt fits]

theorem leValue_lt (bytes : Bytes) : leValue bytes < 256 ^ bytes.length := by
  induction bytes with
  | nil => simp
  | cons byte rest inductionHypothesis =>
      have byteBound : byte.toNat < 256 := byte.toNat_lt_size
      rw [leValue_cons, List.length_cons, Nat.pow_succ']
      omega

/-- Bytes are the little-endian bytes of their own value. -/
theorem leBytes_leValue (bytes : Bytes) : leBytes bytes.length (leValue bytes) = bytes := by
  induction bytes with
  | nil => rfl
  | cons byte rest inductionHypothesis =>
      have byteBound : byte.toNat < 256 := byte.toNat_lt_size
      have low : (byte.toNat + 256 * leValue rest) % 256 = byte.toNat := by omega
      have high : (byte.toNat + 256 * leValue rest) / 256 = leValue rest := by omega
      have same : UInt8.ofNat byte.toNat = byte :=
        UInt8.toNat.inj (UInt8.toNat_ofNat_of_lt byteBound)
      simp only [List.length_cons, leBytes_succ, leValue_cons, low, high, inductionHypothesis,
        same]

theorem leBytes_leValue_of_length {bytes : Bytes} {width : Nat} (exact : bytes.length = width) :
    leBytes width (leValue bytes) = bytes :=
  exact ▸ leBytes_leValue bytes

@[simp] theorem leValue_u16 (value : UInt16) : leValue (leBytes 2 value.toNat) = value.toNat :=
  leValue_leBytes_of_lt value.toNat_lt_size

@[simp] theorem leValue_u32 (value : UInt32) : leValue (leBytes 4 value.toNat) = value.toNat :=
  leValue_leBytes_of_lt value.toNat_lt_size

@[simp] theorem leValue_u64 (value : UInt64) : leValue (leBytes 8 value.toNat) = value.toNat :=
  leValue_leBytes_of_lt value.toNat_lt_size

/-- `LE::read_u16(&buf[start..stop])` and `LE::read_u32(&buf[start..stop])`: the
little-endian value of a slice. -/
def readField (buf : Bytes) (start stop : Nat) : Except Panic Nat :=
  (slice buf start stop).map leValue

theorem readField_of_slice {buf bytes : Bytes} {start stop : Nat}
    (sliced : slice buf start stop = .ok bytes) :
    readField buf start stop = .ok (leValue bytes) := by
  simp [readField, sliced, Except.map]

theorem readField_of_u16 {buf : Bytes} {start stop : Nat} {value : UInt16}
    (sliced : slice buf start stop = .ok (leBytes 2 value.toNat)) :
    readField buf start stop = .ok value.toNat := by
  rw [readField_of_slice sliced, leValue_u16]

theorem readField_of_u32 {buf : Bytes} {start stop : Nat} {value : UInt32}
    (sliced : slice buf start stop = .ok (leBytes 4 value.toNat)) :
    readField buf start stop = .ok value.toNat := by
  rw [readField_of_slice sliced, leValue_u32]

theorem readField_of_lt {buf : Bytes} {start stop : Nat} (outside : buf.length < stop) :
    readField buf start stop = .error .indexOutOfRange := by
  simp [readField, slice_of_lt outside, Except.map]

/-! ## The `ReadBytesExt` cursor -/

/-- `read_u16/u32/u64::<LE>()` on a `&[u8]` cursor: the value of the next
`width` bytes and the cursor after them, or `UnexpectedEof` (`none`). -/
def readLe (width : Nat) (cursor : Bytes) : Option (Nat × Bytes) :=
  if width ≤ cursor.length then some (leValue (cursor.take width), cursor.drop width) else none

theorem readLe_of_le {width : Nat} {cursor : Bytes} (enough : width ≤ cursor.length) :
    readLe width cursor = some (leValue (cursor.take width), cursor.drop width) := by
  simp [readLe, enough]

/-- A read at a fixed offset, leaving the cursor at the next one. -/
theorem readLe_drop (xs : Bytes) {start width stop : Nat} (next : start + width = stop)
    (inside : stop ≤ xs.length) :
    readLe width (xs.drop start) = some (leValue ((xs.drop start).take width), xs.drop stop) := by
  rw [readLe_of_le (by simp only [List.length_drop]; omega), List.drop_drop, ← next, Nat.add_comm]

theorem readLe_append (width : Nat) (bytes rest : Bytes) (exact : bytes.length = width) :
    readLe width (bytes ++ rest) = some (leValue bytes, rest) := by
  subst exact
  simp [readLe]

@[simp] theorem readLe_leBytes (width value : Nat) (rest : Bytes) :
    readLe width (leBytes width value ++ rest) = some (leValue (leBytes width value), rest) :=
  readLe_append _ _ _ (length_leBytes _ _)

theorem readLe_eq_some {width value : Nat} {cursor rest : Bytes}
    (read : readLe width cursor = some (value, rest)) :
    ∃ bytes, bytes.length = width ∧ cursor = bytes ++ rest ∧ value = leValue bytes := by
  unfold readLe at read
  split at read
  · cases read
    exact ⟨cursor.take width, by simp; omega, (List.take_append_drop _ _).symm, rfl⟩
  · cases read

end AdsClient
