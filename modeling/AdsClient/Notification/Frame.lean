import AdsClient.Wire.Header

/-!
# Notification frames

`Notification::new` walks a whole notification frame once, eagerly, and keeps
it only if the stamp and sample records it announces fill the frame exactly;
`SampleIter::next` walks the same records again, lazily, with `expect` and
`split_at` calls that panic if they run out of bytes.

The layout the two agree on is given here as an encoder of stamp records,
`encodeStamps`.  The main results are `new_ok_iff` (the validator accepts
exactly the encodings) and `collect_new` (on an accepted frame the iterator
yields every encoded sample, in order, and then `None`).
-/

namespace AdsClient

/-- A notification message: the whole frame and its stamp count
(`Notification` in `notif.rs`). -/
structure Notification where
  data : Bytes
  nstamps : Nat

/-- The inner loop of `Notification::new`: skip `nsamples` sample records, each
a handle, a length and that many bytes; `none` is its `UnexpectedEof`. -/
def skipSamples : Nat → Bytes → Option Bytes
  | 0, ptr => some ptr
  | nsamples + 1, ptr => do
    let (_handle, ptr) ← readLe 4 ptr
    let (length, ptr) ← readLe 4 ptr
    if length ≤ ptr.length then skipSamples nsamples (ptr.drop length) else none

/-- The outer loop of `Notification::new`: skip `nstamps` stamp records, each a
timestamp, a sample count and the samples. -/
def skipStamps : Nat → Bytes → Option Bytes
  | 0, ptr => some ptr
  | nstamps + 1, ptr => do
    let (_timestamp, ptr) ← readLe 8 ptr
    let (nsamples, ptr) ← readLe 4 ptr
    let ptr ← skipSamples nsamples ptr
    skipStamps nstamps ptr

/-- `Notification::new`: relevant data starts at byte 42 with the stamp count. -/
def Notification.new (data : Bytes) : Except AdsError Notification :=
  if data.length < AMS_HEADER_SIZE + 8 then .error .unexpectedEof
  else
    match readLe 4 (data.drop (AMS_HEADER_SIZE + 4)) with
    | none => .error .unexpectedEof
    | some (nstamps, ptr) =>
      match skipStamps nstamps ptr with
      | none => .error .unexpectedEof
      | some rest => if rest.isEmpty then .ok ⟨data, nstamps⟩ else .error .unexpectedEof

/-! ## The iterator -/

/-- One sample: its handle, its Unix timestamp in nanoseconds and its data. -/
structure Sample where
  handle : Nat
  timestamp : Nat
  data : Bytes
  deriving DecidableEq, Repr

/-- `SampleIter`: the rest of the frame, the current stamp's FILETIME, and the
stamps and samples still to come. -/
structure SampleIter where
  data : Bytes
  curTimestamp : Nat
  stampsLeft : Nat
  samplesLeft : Nat

/-- Nanoseconds from 1601-01-01 to 1970-01-01. -/
def ANSI_TO_UNIX_NANOS : Nat := 11644473600 * 1000000000

/-- The timestamp of a sample.  In the source, the FILETIME's
`checked_mul(100).unwrap_or_default()`: its nanoseconds, 0 on overflow.  Then
`Timestamp::from_nanos(..).try_from_ansi_to_unix().unwrap_or_default()`,
moved to the Unix epoch.

Modelled from the spec for the move: it is in the `bma_ts` crate, and the
spec's §4.5 says FILETIME is 100-ns ticks since 1601-01-01, converted to Unix
time.  The model gives 0 to a time before 1970, where the crate's default is
`Timestamp::now()`. -/
def filetimeToUnix (filetime : Nat) : Nat :=
  let nanos := if filetime * 100 < 2 ^ 64 then filetime * 100 else 0
  nanos - ANSI_TO_UNIX_NANOS

/-- `.expect("size")`. -/
def expect {α : Type} : Option α → Except Panic α
  | some value => .ok value
  | none => .error .expectFailed

/-- `SampleIter::next`, the stamp header read and the recursive call included. -/
def nextSample (data : Bytes) (curTimestamp : Nat) :
    Nat → Nat → Except Panic (Option (Sample × SampleIter))
  | stampsLeft, samplesLeft + 1 => do
    let (handle, data) ← expect (readLe 4 data)
    let (length, data) ← expect (readLe 4 data)
    if length ≤ data.length then
      pure (some (⟨handle, filetimeToUnix curTimestamp, data.take length⟩,
        ⟨data.drop length, curTimestamp, stampsLeft, samplesLeft⟩))
    else .error .indexOutOfRange
  | 0, 0 => pure none
  | stampsLeft + 1, 0 => do
    let (timestamp, data) ← expect (readLe 8 data)
    let (samples, data) ← expect (readLe 4 data)
    nextSample data timestamp stampsLeft samples

/-- `SampleIter::next`. -/
def SampleIter.next (iter : SampleIter) : Except Panic (Option (Sample × SampleIter)) :=
  nextSample iter.data iter.curTimestamp iter.stampsLeft iter.samplesLeft

/-- `Notification::samples`: the iterator starts after the stamp count. -/
def Notification.samples (notification : Notification) : Except Panic SampleIter := do
  let data ← sliceFrom notification.data 46
  pure ⟨data, 0, notification.nstamps, 0⟩

/-- Call `next` until it returns `None`: the samples yielded, or `none` if
`fuel` calls were not enough. -/
def SampleIter.collect : Nat → SampleIter → Except Panic (Option (List Sample))
  | 0, _ => pure none
  | fuel + 1, iter => do
    match ← iter.next with
    | none => pure (some [])
    | some (sample, iter) => do
      let rest ← SampleIter.collect fuel iter
      pure (rest.map (sample :: ·))

/-! ## The records a frame carries -/

/-- A sample record: a handle and its data, short enough for a `u32` length. -/
structure SampleRecord where
  handle : UInt32
  data : Bytes
  data_length_lt : data.length < 2 ^ 32

/-- A stamp record: a FILETIME and at most `u32::MAX` samples. -/
structure StampRecord where
  filetime : UInt64
  samples : List SampleRecord
  samples_length_lt : samples.length < 2 ^ 32

def SampleRecord.encode (sample : SampleRecord) : Bytes :=
  leBytes 4 sample.handle.toNat ++ leBytes 4 sample.data.length ++ sample.data

def encodeSamples (samples : List SampleRecord) : Bytes :=
  (samples.map SampleRecord.encode).flatten

def StampRecord.encode (stamp : StampRecord) : Bytes :=
  leBytes 8 stamp.filetime.toNat ++ leBytes 4 stamp.samples.length ++ encodeSamples stamp.samples

def encodeStamps (stamps : List StampRecord) : Bytes :=
  (stamps.map StampRecord.encode).flatten

/-- The sample the iterator builds from a record of a stamp at `filetime`. -/
def SampleRecord.toSample (filetime : Nat) (sample : SampleRecord) : Sample :=
  ⟨sample.handle.toNat, filetimeToUnix filetime, sample.data⟩

/-- Every sample of the records, in frame order. -/
def framedSamples (stamps : List StampRecord) : List Sample :=
  stamps.flatMap fun stamp => stamp.samples.map (SampleRecord.toSample stamp.filetime.toNat)

@[simp] theorem encodeSamples_nil : encodeSamples [] = [] := rfl

@[simp] theorem encodeSamples_cons (sample : SampleRecord) (samples : List SampleRecord) :
    encodeSamples (sample :: samples) = sample.encode ++ encodeSamples samples := rfl

@[simp] theorem encodeStamps_nil : encodeStamps [] = [] := rfl

@[simp] theorem encodeStamps_cons (stamp : StampRecord) (stamps : List StampRecord) :
    encodeStamps (stamp :: stamps) = stamp.encode ++ encodeStamps stamps := rfl

/-! ## The validator accepts exactly the encodings -/

theorem skipSamples_encode (samples : List SampleRecord) (rest : Bytes) :
    skipSamples samples.length (encodeSamples samples ++ rest) = some rest := by
  induction samples with
  | nil => rfl
  | cons sample samples inductionHypothesis =>
      have fits : sample.data.length < 256 ^ 4 := sample.data_length_lt
      simp [skipSamples, SampleRecord.encode, inductionHypothesis, leValue_leBytes_of_lt fits]

theorem skipStamps_encode (stamps : List StampRecord) (rest : Bytes) :
    skipStamps stamps.length (encodeStamps stamps ++ rest) = some rest := by
  induction stamps with
  | nil => rfl
  | cons stamp stamps inductionHypothesis =>
      have fits : stamp.samples.length < 256 ^ 4 := stamp.samples_length_lt
      simp [skipStamps, StampRecord.encode, skipSamples_encode, inductionHypothesis,
        leValue_leBytes_of_lt fits]

/-- Four bytes read as a `u32` and written back as one are the same bytes. -/
theorem leBytes_u32_of_length {bytes : Bytes} (four : bytes.length = 4) :
    leBytes 4 (UInt32.ofNat (leValue bytes)).toNat = bytes := by
  have fits : leValue bytes < 2 ^ 32 := by simpa [four] using leValue_lt bytes
  rw [UInt32.toNat_ofNat_of_lt fits, ← four, leBytes_leValue]

theorem skipSamples_eq_some {nsamples : Nat} {ptr rest : Bytes}
    (skipped : skipSamples nsamples ptr = some rest) :
    ∃ samples : List SampleRecord, samples.length = nsamples ∧
      ptr = encodeSamples samples ++ rest := by
  induction nsamples generalizing ptr with
  | zero =>
      simp only [skipSamples, Option.some.injEq] at skipped
      exact ⟨[], rfl, by simp [skipped]⟩
  | succ nsamples inductionHypothesis =>
      simp only [skipSamples, Option.bind_eq_bind] at skipped
      obtain ⟨⟨handle, afterHandle⟩, handleRead, afterHandleSkipped⟩ :=
        Option.bind_eq_some.mp skipped
      obtain ⟨⟨length, afterLength⟩, lengthRead, afterLengthSkipped⟩ :=
        Option.bind_eq_some.mp afterHandleSkipped
      split_ifs at afterLengthSkipped with enough
      obtain ⟨handleBytes, handleFour, rfl, rfl⟩ := readLe_eq_some handleRead
      obtain ⟨lengthBytes, lengthFour, rfl, rfl⟩ := readLe_eq_some lengthRead
      dsimp only at enough afterLengthSkipped
      obtain ⟨samples, counted, encoded⟩ := inductionHypothesis afterLengthSkipped
      have lengthFits : leValue lengthBytes < 2 ^ 32 := by
        simpa [lengthFour] using leValue_lt lengthBytes
      have taken : (afterLength.take (leValue lengthBytes)).length = leValue lengthBytes := by
        simp only [List.length_take]; omega
      let record : SampleRecord :=
        ⟨UInt32.ofNat (leValue handleBytes), afterLength.take (leValue lengthBytes), by omega⟩
      have recordBytes : record.encode =
          handleBytes ++ lengthBytes ++ afterLength.take (leValue lengthBytes) := by
        simp only [record, SampleRecord.encode, taken, leBytes_u32_of_length handleFour,
          leBytes_leValue_of_length lengthFour]
      refine ⟨record :: samples, by simp [counted], ?_⟩
      rw [encodeSamples_cons, recordBytes]
      simp only [List.append_assoc, ← encoded, List.take_append_drop]

theorem skipStamps_eq_some {nstamps : Nat} {ptr rest : Bytes}
    (skipped : skipStamps nstamps ptr = some rest) :
    ∃ stamps : List StampRecord, stamps.length = nstamps ∧ ptr = encodeStamps stamps ++ rest := by
  induction nstamps generalizing ptr with
  | zero =>
      simp only [skipStamps, Option.some.injEq] at skipped
      exact ⟨[], rfl, by simp [skipped]⟩
  | succ nstamps inductionHypothesis =>
      simp only [skipStamps, Option.bind_eq_bind] at skipped
      obtain ⟨⟨filetime, afterTime⟩, timeRead, afterTimeSkipped⟩ :=
        Option.bind_eq_some.mp skipped
      obtain ⟨⟨count, afterCount⟩, countRead, afterCountSkipped⟩ :=
        Option.bind_eq_some.mp afterTimeSkipped
      obtain ⟨afterSamples, samplesSkipped, stampsSkipped⟩ :=
        Option.bind_eq_some.mp afterCountSkipped
      obtain ⟨timeBytes, timeEight, rfl, rfl⟩ := readLe_eq_some timeRead
      obtain ⟨countBytes, countFour, rfl, rfl⟩ := readLe_eq_some countRead
      dsimp only at samplesSkipped
      obtain ⟨samples, counted, rfl⟩ := skipSamples_eq_some samplesSkipped
      obtain ⟨stamps, stampsCounted, rfl⟩ := inductionHypothesis stampsSkipped
      have timeFits : leValue timeBytes < 2 ^ 64 := by
        simpa [timeEight] using leValue_lt timeBytes
      have countFits : leValue countBytes < 2 ^ 32 := by
        simpa [countFour] using leValue_lt countBytes
      let record : StampRecord := ⟨UInt64.ofNat (leValue timeBytes), samples, by omega⟩
      have recordBytes : record.encode = timeBytes ++ countBytes ++ encodeSamples samples := by
        simp only [record, StampRecord.encode, UInt64.toNat_ofNat_of_lt timeFits, counted,
          leBytes_leValue_of_length timeEight, leBytes_leValue_of_length countFour]
      refine ⟨record :: stamps, by simp [stampsCounted], ?_⟩
      rw [encodeStamps_cons, recordBytes]
      simp

/-- `Notification::new` accepts a frame exactly when it has the 46 bytes up to
the stamp count and the rest is the encoding of that many stamp records, with
no byte left over. -/
theorem new_ok_iff (data : Bytes) :
    (∃ notification, Notification.new data = .ok notification) ↔
      AMS_HEADER_SIZE + 8 ≤ data.length ∧ ∃ stamps : List StampRecord,
        stamps.length = leValue ((data.drop 42).take 4) ∧ data.drop 46 = encodeStamps stamps := by
  unfold Notification.new AMS_HEADER_SIZE
  by_cases short : data.length < 38 + 8
  · simp [short]
  · have counted : readLe 4 (data.drop (38 + 4)) =
        some (leValue ((data.drop 42).take 4), data.drop 46) := by
      rw [readLe_of_le (by simp; omega), List.drop_drop]
    simp only [short, if_false, counted]
    constructor
    · rintro ⟨notification, accepted⟩
      split at accepted
      · cases accepted
      · rename_i rest skipped
        split_ifs at accepted with empty
        obtain ⟨stamps, stampsCounted, encoded⟩ := skipStamps_eq_some skipped
        simp only [List.isEmpty_iff] at empty
        exact ⟨by omega, stamps, stampsCounted, by simpa [empty] using encoded⟩
    · rintro ⟨-, stamps, stampsCounted, encoded⟩
      have skipped := skipStamps_encode stamps []
      rw [List.append_nil, ← encoded, stampsCounted] at skipped
      exact ⟨⟨data, leValue ((data.drop 42).take 4)⟩, by simp [skipped]⟩

/-! ## The iterator yields the encoded samples -/

theorem nextSample_sample (sample : SampleRecord) (rest : Bytes) (curTimestamp stampsLeft
    samplesLeft : Nat) :
    nextSample (sample.encode ++ rest) curTimestamp stampsLeft (samplesLeft + 1) =
      .ok (some (sample.toSample curTimestamp, ⟨rest, curTimestamp, stampsLeft, samplesLeft⟩)) := by
  have fits : sample.data.length < 256 ^ 4 := sample.data_length_lt
  simp [nextSample, SampleRecord.encode, expect, leValue_leBytes_of_lt fits,
    SampleRecord.toSample]

theorem nextSample_stamp (stamp : StampRecord) (rest : Bytes) (curTimestamp stampsLeft : Nat) :
    nextSample (stamp.encode ++ rest) curTimestamp (stampsLeft + 1) 0 =
      nextSample (encodeSamples stamp.samples ++ rest) stamp.filetime.toNat stampsLeft
        stamp.samples.length := by
  have fits : stamp.samples.length < 256 ^ 4 := stamp.samples_length_lt
  simp [nextSample, StampRecord.encode, expect, leValue_leBytes_of_lt fits]

/-- Two iterators whose next steps agree are drained alike. -/
theorem collect_congr {first second : SampleIter} (same : first.next = second.next)
    (fuel : Nat) : first.collect fuel = second.collect fuel := by
  cases fuel with
  | zero => rfl
  | succ fuel => simp only [SampleIter.collect, same]

/-- The samples left of the current stamp come out one per call, before what
the iterator yields after them. -/
theorem collect_samples {rest : Bytes} {curTimestamp stampsLeft after : Nat} {tail : List Sample}
    (afterwards : ∀ fuel, after < fuel →
      SampleIter.collect fuel ⟨rest, curTimestamp, stampsLeft, 0⟩ = .ok (some tail)) :
    ∀ (samples : List SampleRecord) (fuel : Nat), samples.length + after < fuel →
      SampleIter.collect fuel
          ⟨encodeSamples samples ++ rest, curTimestamp, stampsLeft, samples.length⟩ =
        .ok (some (samples.map (SampleRecord.toSample curTimestamp) ++ tail)) := by
  intro samples
  induction samples with
  | nil =>
    intro fuel enough
    simpa using afterwards fuel (by simpa using enough)
  | cons sample samples inductionHypothesis =>
    intro fuel enough
    obtain ⟨fuel, rfl⟩ : ∃ rest, fuel = rest + 1 := ⟨fuel - 1, by omega⟩
    simp only [List.length_cons] at enough
    simp only [SampleIter.collect, SampleIter.next, encodeSamples_cons, List.append_assoc,
      List.length_cons, nextSample_sample, except_ok_bind]
    rw [inductionHypothesis fuel (by omega)]
    rfl

/-- An iterator standing before `samples` of a stamp at `curTimestamp` and then
the records `stamps` yields all of their samples and then `None`, given one
call more than there are samples. -/
theorem collect_records (stamps : List StampRecord) :
    ∀ (samples : List SampleRecord) (curTimestamp fuel : Nat),
      samples.length + (framedSamples stamps).length < fuel →
      SampleIter.collect fuel
          ⟨encodeSamples samples ++ encodeStamps stamps, curTimestamp, stamps.length,
            samples.length⟩ =
        .ok (some (samples.map (SampleRecord.toSample curTimestamp) ++ framedSamples stamps)) := by
  induction stamps with
  | nil =>
    intro samples curTimestamp
    refine collect_samples (fun fuel enough => ?_) samples
    obtain ⟨fuel, rfl⟩ : ∃ rest, fuel = rest + 1 := ⟨fuel - 1, by omega⟩
    rfl
  | cons stamp stamps outerHypothesis =>
    intro samples curTimestamp
    refine collect_samples (fun fuel enough => ?_) samples
    simp only [framedSamples, List.flatMap_cons, List.length_append, List.length_map] at enough
    rw [@collect_congr _ ⟨encodeSamples stamp.samples ++ encodeStamps stamps, stamp.filetime.toNat,
        stamps.length, stamp.samples.length⟩ (by simp [SampleIter.next, nextSample_stamp]) fuel,
      outerHypothesis stamp.samples _ fuel enough]
    simp [framedSamples]

theorem new_eq_ok {data : Bytes} {notification : Notification}
    (accepted : Notification.new data = .ok notification) :
    notification = ⟨data, leValue ((data.drop 42).take 4)⟩ := by
  unfold Notification.new at accepted
  split_ifs at accepted with short
  have counted : readLe 4 (data.drop (AMS_HEADER_SIZE + 4)) =
      some (leValue ((data.drop 42).take 4), data.drop 46) := by
    simp only [AMS_HEADER_SIZE] at short ⊢
    rw [readLe_of_le (by simp; omega), List.drop_drop]
  rw [counted] at accepted
  dsimp only at accepted
  split at accepted
  · cases accepted
  · split_ifs at accepted
    exact (Except.ok.inj accepted).symm

/-- `Notification::new` accepts a frame exactly when the bytes after its stamp
count encode that many stamp records with nothing left over, and on every
accepted frame `samples()` yields, without panicking, exactly the samples of
those records in frame order, each with the time of its stamp, and then
`None`. -/
theorem notification_new_and_samples (data : Bytes) :
    ((∃ notification, Notification.new data = .ok notification) ↔
      AMS_HEADER_SIZE + 8 ≤ data.length ∧ ∃ stamps : List StampRecord,
        stamps.length = leValue ((data.drop 42).take 4) ∧ data.drop 46 = encodeStamps stamps) ∧
    ∀ notification, Notification.new data = .ok notification →
      ∃ stamps : List StampRecord, data.drop 46 = encodeStamps stamps ∧
        (notification.samples >>= SampleIter.collect ((framedSamples stamps).length + 1)) =
          .ok (some (framedSamples stamps)) := by
  refine ⟨new_ok_iff data, fun notification accepted => ?_⟩
  obtain ⟨long, stamps, counted, encoded⟩ := (new_ok_iff data).mp ⟨notification, accepted⟩
  refine ⟨stamps, encoded, ?_⟩
  have started : notification.samples = .ok ⟨encodeStamps stamps, 0, stamps.length, 0⟩ := by
    simp only [AMS_HEADER_SIZE] at long
    simp [new_eq_ok accepted, Notification.samples, sliceFrom_of_le (show 46 ≤ data.length by
      omega), encoded, counted]
  rw [started, except_ok_bind]
  simpa using collect_records stamps [] 0 _ (Nat.lt_succ_self _)

end AdsClient
