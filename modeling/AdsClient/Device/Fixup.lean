import AdsClient.Wire.Bytes

/-!
# The write-read fix-up

A sum-up `ReadWrite` reply packs the data of every request one after the
other, each as long as its result says, while `write_read_multi` scattered the
reply into the requests' buffers at their full lengths.
`fix_up_write_read_return_buffers` moves each request's data to the front of
its own buffer.  It works from the last request to the first, and within one
request from the last byte to the first, so that a copy never overwrites a
byte that an earlier request has still to move: the data of request `i` lies
in the buffers up to `i`, before the place it goes to.

The main result is `fixup_segments`: when every result fits its buffer, the
fix-up runs without a panic and each buffer starts with its own segment of
the packed data.
-/

namespace AdsClient

/-- `buf.copy_within(start..stop, dest)`. -/
def copyWithin (buf : Bytes) (start stop dest : Nat) : Except Panic Bytes := do
  let chunk ← slice buf start stop
  writeAt buf dest chunk

/-- `iter().rposition(p)`: the last index whose element satisfies `p`. -/
def rposition {α : Type} (p : α → Bool) : List α → Option Nat
  | [] => none
  | x :: rest =>
    match rposition p rest with
    | some k => some (k + 1)
    | none => if p x then some 0 else none

/-- The `scan` of lines 1490–1500: for each request `(init_cum, act_cum, init,
act)`, the sums of the buffer lengths and of the result lengths before it, its
buffer length and its result length, with the `assert!(init >= act)`. -/
def fixupOffsets (initCum actCum : Nat) :
    List (Nat × Nat) → Except Panic (List (Nat × Nat × Nat × Nat))
  | [] => .ok []
  | (init, act) :: rest =>
    if act ≤ init then do
      let tail ← fixupOffsets (initCum + init) (actCum + act) rest
      pure ((initCum, actCum, init, act) :: tail)
    else .error .assertionFailed

/-- One copy of the inner loop: the `n` bytes before `jEnd` in buffer `j` go to
`size` in buffer `i`, by `copy_within` when the two are one buffer. -/
def moveChunk (i j jEnd n size : Nat) (bufs : List Bytes) : Except Panic (List Bytes) :=
  if i = j then do
    let buf ← index bufs i
    let moved ← copyWithin buf (jEnd - n) jEnd size
    pure (bufs.set i moved)
  else do
    let dst ← index bufs i
    let src ← index bufs j
    let chunk ← slice src (jEnd - n) jEnd
    let written ← writeAt dst size chunk
    pure (bufs.set i written)

/-- The inner loop of lines 1519–1534: `size` bytes of request `i` are still to
move, the last of them at `jEnd` in buffer `j`. -/
def copySegment (offsets : List (Nat × Nat × Nat × Nat)) (i : Nat) :
    Nat → Nat → Nat → List Bytes → Except Panic (List Bytes)
  | j, jEnd, size, bufs => do
    let n := min jEnd size
    let size := size - n
    let bufs ← moveChunk i j jEnd n size bufs
    if size = 0 then pure bufs
    else
      match j with
      | 0 => .error .subtractOverflow
      | j + 1 => do
        let (_, _, init, _) ← index offsets j
        copySegment offsets i j init size bufs

/-- The outer loop of lines 1503–1535, over the requests below `i`, last first. -/
def fixupFrom (offsets : List (Nat × Nat × Nat × Nat)) : Nat → List Bytes → Except Panic (List Bytes)
  | 0, bufs => pure bufs
  | i + 1, bufs => do
    let (myInitial, myActual, _, size) ← index offsets i
    if size = 0 then fixupFrom offsets i bufs
    else if myInitial = myActual then pure bufs
    else do
      let j ← match rposition (fun r => decide (r.1 < myActual + size)) (offsets.take (i + 1)) with
        | some j => pure j
        | none => .error .expectFailed
      let (initCumJ, _, _, _) ← index offsets j
      let jEnd ← checkedSub (myActual + size) initCumJ
      let bufs ← copySegment offsets i j jEnd size bufs
      fixupFrom offsets i bufs

/-- `fixup_write_read_return_buffers` on requests given as their read buffers
and result lengths; the buffers afterwards. -/
def fixupWriteReadReturnBuffers (requests : List (Bytes × Nat)) : Except Panic (List Bytes) := do
  let offsets ← fixupOffsets 0 0 (requests.map fun request => (request.1.length, request.2))
  fixupFrom offsets requests.length (requests.map Prod.fst)

/-! ## Windows of byte lists -/

/-- The `length` bytes from `start` on: `xs[start..start + length]` when in range. -/
def window (xs : Bytes) (start length : Nat) : Bytes := (xs.drop start).take length

@[simp] theorem window_zero (xs : Bytes) (start : Nat) : window xs start 0 = [] := by
  simp [window]

theorem window_add (xs : Bytes) (start first second : Nat) :
    window xs start (first + second) = window xs start first ++ window xs (start + first) second := by
  simp only [window, List.take_add, List.drop_drop, Nat.add_comm]

/-- A splice: the `len` bytes of `src` written over `dst` at `pos`. -/
theorem length_splice {dst src : Bytes} {pos len : Nat} (srcLength : src.length = len)
    (inside : pos + len ≤ dst.length) :
    (dst.take pos ++ src ++ dst.drop (pos + len)).length = dst.length := by
  simp only [List.length_append, List.length_take, List.length_drop]
  omega

/-- After a splice, the window from `pos` holds `src` and then what `dst` held after it. -/
theorem window_splice {dst src : Bytes} {pos len : Nat} (srcLength : src.length = len)
    (inside : pos + len ≤ dst.length) (rest : Nat) :
    window (dst.take pos ++ src ++ dst.drop (pos + len)) pos (len + rest) =
      src ++ window dst (pos + len) rest := by
  subst srcLength
  have front : (dst.take pos).length = pos := List.length_take_of_le (by omega)
  rw [window, List.append_assoc, List.drop_append_eq_append_drop, List.drop_eq_nil_of_le (by omega),
    front, Nat.sub_self, List.drop_zero, List.nil_append, List.take_append_eq_append_take,
    List.take_of_length_le (by omega), Nat.add_sub_cancel_left, window]

/-- A window inside one buffer is a window of the buffers' concatenation, at the
buffer's start plus its own offset. -/
theorem window_flatten (bufs : List Bytes) {k start length : Nat} {buf : Bytes}
    (found : bufs[k]? = some buf) (inside : start + length ≤ buf.length) :
    window buf start length =
      window bufs.flatten (((bufs.take k).map List.length).sum + start) length := by
  induction bufs generalizing k with
  | nil => cases found
  | cons first rest inductionHypothesis =>
    cases k with
    | zero =>
      rw [List.getElem?_cons_zero, Option.some.injEq] at found
      subst found
      simp only [window, List.flatten_cons, List.take_zero, List.map_nil, List.sum_nil, Nat.zero_add]
      rw [List.drop_append_of_le_length (by omega),
        List.take_append_of_le_length (by simp only [List.length_drop]; omega)]
    | succ k =>
      rw [List.getElem?_cons_succ] at found
      rw [inductionHypothesis found]
      simp only [window, List.flatten_cons, List.take_succ_cons, List.map_cons, List.sum_cons,
        Nat.add_assoc, List.drop_append]

theorem length_window_of_le {xs : Bytes} {start length : Nat} (inside : start + length ≤ xs.length) :
    (window xs start length).length = length := by
  simp only [window, List.length_take, List.length_drop]
  omega

theorem window_self (buf : Bytes) : window buf 0 buf.length = buf := by
  simp [window]

theorem window_append_left {front back : Bytes} {start length : Nat}
    (inside : start + length ≤ front.length) :
    window (front ++ back) start length = window front start length := by
  simp only [window, List.drop_append_eq_append_drop, List.take_append_eq_append_take,
    List.length_drop]
  rw [show length - (front.length - start) = 0 by omega, List.take_zero, List.append_nil]

theorem window_append_right {front back : Bytes} {start length : Nat}
    (past : front.length ≤ start) :
    window (front ++ back) start length = window back (start - front.length) length := by
  simp only [window, List.drop_append_eq_append_drop, List.drop_of_length_le past, List.nil_append]

theorem window_take {xs : Bytes} {start length count : Nat} (inside : start + length ≤ count) :
    window (xs.take count) start length = window xs start length := by
  simp only [window, List.drop_take]
  rw [List.take_take, Nat.min_eq_left (by omega)]

theorem window_drop (xs : Bytes) (count start length : Nat) :
    window (xs.drop count) start length = window xs (count + start) length := by
  simp only [window, List.drop_drop, Nat.add_comm]

theorem window_window {xs : Bytes} {start length offset count : Nat}
    (inside : offset + count ≤ length) :
    window (window xs start length) offset count = window xs (start + offset) count := by
  simp only [window, List.drop_take, List.drop_drop, List.take_take, Nat.add_comm offset]
  rw [Nat.min_eq_left (by omega)]

/-- Buffers that are consecutive windows of one list make up the window they span. -/
theorem flatten_of_windows (xs : Bytes) :
    ∀ (bufs : List Bytes) (start : Nat),
      (∀ k buf, bufs[k]? = some buf →
        buf = window xs (start + ((bufs.take k).map List.length).sum) buf.length) →
      bufs.flatten = window xs start ((bufs.map List.length).sum) := by
  intro bufs
  induction bufs with
  | nil => intro start _; simp [window]
  | cons first rest inductionHypothesis =>
    intro start windows
    have head := windows 0 first (List.getElem?_cons_zero)
    have tail := inductionHypothesis (start + first.length) fun k buf found => by
      have := windows (k + 1) buf (by simpa using found)
      simpa [Nat.add_assoc] using this
    simp only [List.take_zero, List.map_nil, List.sum_nil, Nat.add_zero] at head
    rw [List.flatten_cons, tail, List.map_cons, List.sum_cons, window_add, ← head]

/-! ## The copy primitives -/

/-- One copy moves the window of buffer `j` into buffer `i`, in both branches. -/
theorem moveChunk_spec {bufs : List Bytes} {i j jEnd n size : Nat} {dst src : Bytes}
    (target : bufs[i]? = some dst) (source : bufs[j]? = some src) (taken : n ≤ jEnd)
    (inSource : jEnd ≤ src.length) (inTarget : size + n ≤ dst.length) :
    moveChunk i j jEnd n size bufs =
      .ok (bufs.set i (dst.take size ++ window src (jEnd - n) n ++ dst.drop (size + n))) := by
  have chunk : slice src (jEnd - n) jEnd = .ok (window src (jEnd - n) n) := by
    rw [slice_of_le (by omega) inSource, window, Nat.sub_sub_self taken]
  have fits : size + (window src (jEnd - n) n).length ≤ dst.length := by
    simp only [window, List.length_take, List.length_drop]
    omega
  have written : (window src (jEnd - n) n).length = n := by
    simp only [window, List.length_take, List.length_drop]
    omega
  unfold moveChunk
  split_ifs with same
  · subst same
    rw [target, Option.some.injEq] at source
    subst source
    simp only [index_of_getElem? target, copyWithin, chunk, writeAt_of_le fits, written,
      except_ok_bind, except_pure]
  · simp only [index_of_getElem? target, index_of_getElem? source, chunk, writeAt_of_le fits,
      written, except_ok_bind, except_pure]

/-! ## `rposition` -/

theorem rposition_eq_none {α : Type} {p : α → Bool} {xs : List α} (missing : rposition p xs = none)
    {m : Nat} {y : α} (at_m : xs[m]? = some y) : p y = false := by
  induction xs generalizing m with
  | nil => cases at_m
  | cons first rest inductionHypothesis =>
    unfold rposition at missing
    split at missing
    · cases missing
    · rename_i nowhere
      split_ifs at missing with holds
      cases m with
      | zero =>
        rw [List.getElem?_cons_zero, Option.some.injEq] at at_m
        subst at_m
        simpa using holds
      | succ m => exact inductionHypothesis nowhere (by simpa using at_m)

/-- `rposition` finds an index whose element satisfies `p`, after which none does. -/
theorem rposition_spec {α : Type} {p : α → Bool} {xs : List α} {j : Nat}
    (found : rposition p xs = some j) :
    ∃ x, xs[j]? = some x ∧ p x = true ∧ ∀ m y, j < m → xs[m]? = some y → p y = false := by
  induction xs generalizing j with
  | nil => cases found
  | cons first rest inductionHypothesis =>
    unfold rposition at found
    split at found
    · rename_i k later
      cases found
      obtain ⟨x, atK, holds, none⟩ := inductionHypothesis later
      refine ⟨x, by simpa using atK, holds, fun m y after at_m => ?_⟩
      cases m with
      | zero => omega
      | succ m => exact none m y (by omega) (by simpa using at_m)
    · rename_i nowhere
      split_ifs at found with holds
      cases found
      refine ⟨first, by simp, holds, fun m y after at_m => ?_⟩
      cases m with
      | zero => omega
      | succ m => exact rposition_eq_none nowhere (by simpa using at_m)

theorem rposition_isSome {α : Type} {p : α → Bool} {xs : List α} {m : Nat} {y : α}
    (at_m : xs[m]? = some y) (holds : p y = true) : ∃ j, rposition p xs = some j := by
  cases found : rposition p xs with
  | none => exact absurd (rposition_eq_none found at_m) (by simp [holds])
  | some j => exact ⟨j, rfl⟩

/-! ## Where each request's data starts -/

/-- `A_i`: the packed data of the requests before `i`, the sum of their result lengths. -/
def packedStart (requests : List (Bytes × Nat)) (i : Nat) : Nat :=
  ((requests.take i).map Prod.snd).sum

def bufferStart (requests : List (Bytes × Nat)) (i : Nat) : Nat :=
  ((requests.take i).map fun request => request.1.length).sum

def packed (requests : List (Bytes × Nat)) : Bytes := (requests.map Prod.fst).flatten

@[simp] theorem bufferStart_zero (requests : List (Bytes × Nat)) : bufferStart requests 0 = 0 := rfl

theorem bufferStart_succ {requests : List (Bytes × Nat)} {k : Nat} {request : Bytes × Nat}
    (found : requests[k]? = some request) :
    bufferStart requests (k + 1) = bufferStart requests k + request.1.length := by
  simp [bufferStart, List.take_succ, found]

theorem packedStart_succ {requests : List (Bytes × Nat)} {k : Nat} {request : Bytes × Nat}
    (found : requests[k]? = some request) :
    packedStart requests (k + 1) = packedStart requests k + request.2 := by
  simp [packedStart, List.take_succ, found]

/-- The table the `scan` builds: each request's two start offsets and lengths. -/
def OffsetTable (requests : List (Bytes × Nat)) (offsets : List (Nat × Nat × Nat × Nat)) : Prop :=
  ∀ k request, requests[k]? = some request →
    offsets[k]? = some (bufferStart requests k, packedStart requests k, request.1.length, request.2)

section Fits

variable {requests : List (Bytes × Nat)} (fits : ∀ request ∈ requests, request.2 ≤ request.1.length)
include fits

/-- While every result fits its buffer, the packed data of the requests before
`k` starts no later than their buffers. -/
theorem packedStart_le_bufferStart (k : Nat) : packedStart requests k ≤ bufferStart requests k := by
  induction k with
  | zero => simp [packedStart]
  | succ k inductionHypothesis =>
    cases found : requests[k]? with
    | none =>
      have past : requests.length ≤ k := List.getElem?_eq_none_iff.mp found
      simpa only [packedStart, bufferStart, List.take_of_length_le past,
        List.take_of_length_le (by omega : requests.length ≤ k + 1)] using inductionHypothesis
    | some request =>
      have := fits request (List.getElem?_mem found)
      rw [packedStart_succ found, bufferStart_succ found]
      omega

theorem gap_mono {k i : Nat} (before : k ≤ i) :
    bufferStart requests k - packedStart requests k ≤
      bufferStart requests i - packedStart requests i := by
  induction i with
  | zero =>
    obtain rfl : k = 0 := by omega
    exact le_rfl
  | succ i inductionHypothesis =>
    rcases Nat.eq_or_lt_of_le before with same | earlier
    · rw [same]
    · refine (inductionHypothesis (by omega)).trans ?_
      have below := packedStart_le_bufferStart fits i
      cases found : requests[i]? with
      | none =>
        have past : requests.length ≤ i := List.getElem?_eq_none_iff.mp found
        simp only [packedStart, bufferStart, List.take_of_length_le past,
          List.take_of_length_le (by omega : requests.length ≤ i + 1), le_rfl]
      | some request =>
        have := fits request (List.getElem?_mem found)
        rw [packedStart_succ found, bufferStart_succ found]
        omega

end Fits

theorem fixupOffsets_table (pairs : List (Nat × Nat)) (fits : ∀ pair ∈ pairs, pair.2 ≤ pair.1)
    (initCum actCum : Nat) :
    ∃ offsets, fixupOffsets initCum actCum pairs = .ok offsets ∧
      ∀ k pair, pairs[k]? = some pair →
        offsets[k]? = some (initCum + ((pairs.take k).map Prod.fst).sum,
          actCum + ((pairs.take k).map Prod.snd).sum, pair.1, pair.2) := by
  induction pairs generalizing initCum actCum with
  | nil => exact ⟨[], rfl, fun k pair found => by cases found⟩
  | cons first rest inductionHypothesis =>
    obtain ⟨init, act⟩ := first
    obtain ⟨tail, built, rows⟩ := inductionHypothesis
      (fun pair member => fits pair (List.mem_cons_of_mem _ member)) (initCum + init) (actCum + act)
    refine ⟨(initCum, actCum, init, act) :: tail, ?_, fun k pair found => ?_⟩
    · simp only [fixupOffsets, if_pos (fits (init, act) (List.mem_cons_self _ _)), built,
        except_ok_bind, except_pure]
    · cases k with
      | zero =>
        rw [List.getElem?_cons_zero, Option.some.injEq] at found
        subst found
        simp
      | succ k =>
        rw [List.getElem?_cons_succ] at found
        rw [List.getElem?_cons_succ, rows k pair found]
        simp only [List.take_succ_cons, List.map_cons, List.sum_cons, Nat.add_assoc]

theorem bufferStart_eq_flatten_start (requests : List (Bytes × Nat)) (k : Nat) :
    bufferStart requests k = (((requests.map Prod.fst).take k).map List.length).sum := by
  rw [bufferStart, ← List.map_take, List.map_map]
  rfl

theorem copySegment_of_done {offsets : List (Nat × Nat × Nat × Nat)} {i j jEnd size : Nat}
    {bufs moved : List Bytes}
    (step : moveChunk i j jEnd (min jEnd size) (size - min jEnd size) bufs = .ok moved)
    (done : size - min jEnd size = 0) :
    copySegment offsets i j jEnd size bufs = .ok moved := by
  rw [copySegment, step, except_ok_bind, if_pos done]
  rfl

theorem copySegment_of_pending {offsets : List (Nat × Nat × Nat × Nat)} {i j jEnd size : Nat}
    {bufs moved : List Bytes}
    (step : moveChunk i (j + 1) jEnd (min jEnd size) (size - min jEnd size) bufs = .ok moved)
    (pending : size - min jEnd size ≠ 0) {row : Nat × Nat × Nat × Nat}
    (found : offsets[j]? = some row) :
    copySegment offsets i (j + 1) jEnd size bufs =
      copySegment offsets i j row.2.2.1 (size - min jEnd size) moved := by
  rw [copySegment, step, except_ok_bind, if_neg pending]
  simp only [index_of_getElem? found, except_ok_bind]

section Loops

variable {requests : List (Bytes × Nat)} (fits : ∀ request ∈ requests, request.2 ≤ request.1.length)
include fits

/-- One copy of the inner loop, while the buffers before `i` are as the reply
left them and the data of request `i` from `size` on is in place: afterwards
it is in place from `size - n` on. -/
theorem moveChunk_progress {i j jEnd size : Nat} {current source : Bytes × Nat}
    (atI : requests[i]? = some current) (atJ : requests[j]? = some source) {bufs : List Bytes}
    {dst : Bytes} (target : bufs[i]? = some dst) (dstLength : dst.length = current.1.length)
    (pristine : ∀ k, k < i → bufs[k]? = (requests.map Prod.fst)[k]?)
    (first : j = i → dst = current.1) (order : j ≤ i) (inSource : jEnd ≤ source.1.length)
    (aligned : bufferStart requests j + jEnd = packedStart requests i + size)
    (pending : size ≤ current.2)
    (copied : window dst size (current.2 - size) =
      window (packed requests) (packedStart requests i + size) (current.2 - size)) :
    ∃ dst', moveChunk i j jEnd (min jEnd size) (size - min jEnd size) bufs = .ok (bufs.set i dst') ∧
      dst'.length = current.1.length ∧
      window dst' (size - min jEnd size) (current.2 - (size - min jEnd size)) =
        window (packed requests) (packedStart requests i + (size - min jEnd size))
          (current.2 - (size - min jEnd size)) := by
  have fitsI := fits current (List.getElem?_mem atI)
  have sourceBuf : (requests.map Prod.fst)[j]? = some source.1 := by simp [atJ]
  have fromSource : bufs[j]? = some source.1 := by
    rcases Nat.lt_or_eq_of_le order with earlier | same
    · rw [pristine j earlier, sourceBuf]
    · subst same
      rw [atI, Option.some.injEq] at atJ
      rw [target, first rfl, atJ]
  set n := min jEnd size with nDef
  have chunk : window source.1 (jEnd - n) n =
      window (packed requests) (packedStart requests i + (size - n)) n := by
    rw [window_flatten _ sourceBuf (by omega), ← bufferStart_eq_flatten_start, packed]
    congr 1
    omega
  have chunkLength : (window source.1 (jEnd - n) n).length = n := by
    simp only [window, List.length_take, List.length_drop]
    omega
  refine ⟨_, moveChunk_spec target fromSource (by omega) inSource (by omega),
    by rw [length_splice chunkLength (by omega)]; exact dstLength, ?_⟩
  have split : current.2 - (size - n) = n + (current.2 - size) := by omega
  rw [split, window_splice chunkLength (by omega), Nat.sub_add_cancel (by omega), copied, chunk,
    window_add]
  congr 2
  omega

variable {offsets : List (Nat × Nat × Nat × Nat)} (table : OffsetTable requests offsets)
include table

/-- The inner loop puts the data of request `i` in place at the front of its
buffer and writes no other buffer, as long as the buffers before `i` are as
the reply left them. -/
theorem copySegment_spec {i : Nat} {current : Bytes × Nat} (atI : requests[i]? = some current) :
    ∀ (j jEnd size : Nat) (bufs : List Bytes) (dst : Bytes),
      bufs[i]? = some dst → dst.length = current.1.length →
      (∀ k, k < i → bufs[k]? = (requests.map Prod.fst)[k]?) →
      (j = i → dst = current.1) → j ≤ i →
      (∀ source, requests[j]? = some source → jEnd ≤ source.1.length) →
      bufferStart requests j + jEnd = packedStart requests i + size → size ≤ current.2 →
      window dst size (current.2 - size) =
        window (packed requests) (packedStart requests i + size) (current.2 - size) →
      ∃ dst', copySegment offsets i j jEnd size bufs = .ok (bufs.set i dst') ∧
        dst'.length = current.1.length ∧
        window dst' 0 current.2 = window (packed requests) (packedStart requests i) current.2 := by
  have inRange : i < requests.length := (List.getElem?_eq_some_iff.mp atI).1
  intro j
  induction j with
  | zero =>
    intro jEnd size bufs dst target dstLength pristine first order inSource aligned pending copied
    obtain ⟨source, atJ⟩ : ∃ source, requests[0]? = some source :=
      ⟨_, List.getElem?_eq_getElem (by omega)⟩
    obtain ⟨dst', moved, length', copied'⟩ := moveChunk_progress fits atI atJ target dstLength
      pristine first order (inSource source atJ) aligned pending copied
    have done : size - min jEnd size = 0 := by
      rw [bufferStart_zero] at aligned
      omega
    refine ⟨dst', copySegment_of_done moved done, length', ?_⟩
    simpa only [done, Nat.sub_zero, Nat.add_zero] using copied'
  | succ j inductionHypothesis =>
    intro jEnd size bufs dst target dstLength pristine first order inSource aligned pending copied
    obtain ⟨source, atJ⟩ : ∃ source, requests[j + 1]? = some source :=
      ⟨_, List.getElem?_eq_getElem (by omega)⟩
    obtain ⟨dst', moved, length', copied'⟩ := moveChunk_progress fits atI atJ target dstLength
      pristine first order (inSource source atJ) aligned pending copied
    by_cases done : size - min jEnd size = 0
    · refine ⟨dst', copySegment_of_done moved done, length', ?_⟩
      simpa only [done, Nat.sub_zero, Nat.add_zero] using copied'
    · obtain ⟨previous, atPrevious⟩ : ∃ previous, requests[j]? = some previous :=
        ⟨_, List.getElem?_eq_getElem (by omega)⟩
      have below : i < bufs.length := (List.getElem?_eq_some_iff.mp target).1
      obtain ⟨dst'', ran, length'', result⟩ := inductionHypothesis previous.1.length
        (size - min jEnd size) (bufs.set i dst') dst' (List.getElem?_set_self below) length'
        (fun k earlier => by rw [List.getElem?_set_ne (by omega), pristine k earlier])
        (fun same => absurd same (by omega)) (by omega)
        (fun other found => by rw [atPrevious, Option.some.injEq] at found; rw [found])
        (by rw [bufferStart_succ atPrevious] at aligned; omega) (by omega) copied'
      refine ⟨dst'', ?_, length'', result⟩
      rw [copySegment_of_pending moved done (table j previous atPrevious), ran, List.set_set]

/-- Buffer `k` is at its original length and starts with request `k`'s segment
of the packed data. -/
def InPlace (requests : List (Bytes × Nat)) (bufs : List Bytes) (k : Nat) : Prop :=
  ∀ request, requests[k]? = some request → ∃ buf, bufs[k]? = some buf ∧
    buf.length = request.1.length ∧
    window buf 0 request.2 = window (packed requests) (packedStart requests k) request.2

omit table in
/-- A buffer the reply left untouched is in place when its data already starts
where the buffer starts. -/
theorem inPlace_of_aligned {bufs : List Bytes} {k : Nat}
    (untouched : bufs[k]? = (requests.map Prod.fst)[k]?)
    (aligned : bufferStart requests k = packedStart requests k) : InPlace requests bufs k := by
  intro request found
  refine ⟨request.1, by simp [untouched, found], rfl, ?_⟩
  have inside : 0 + request.2 ≤ request.1.length := by
    rw [Nat.zero_add]
    exact fits request (List.getElem?_mem found)
  have buffer : (requests.map Prod.fst)[k]? = some request.1 := by simp [found]
  rw [window_flatten (requests.map Prod.fst) buffer inside, ← bufferStart_eq_flatten_start, Nat.add_zero,
    aligned, packed]

/-- `rposition` in the outer loop finds the last buffer that starts before the
end of request `i`'s data; that buffer holds the segment's last byte. -/
theorem lastSource_spec {i : Nat} {current : Bytes × Nat} (atI : requests[i]? = some current)
    (nonempty : current.2 ≠ 0) :
    ∃ j, rposition (fun r => decide (r.1 < packedStart requests i + current.2))
        (offsets.take (i + 1)) = some j ∧ j ≤ i ∧
      bufferStart requests j < packedStart requests i + current.2 ∧
      ∀ source, requests[j]? = some source →
        packedStart requests i + current.2 - bufferStart requests j ≤ source.1.length := by
  have inRange : i < requests.length := (List.getElem?_eq_some_iff.mp atI).1
  have row : ∀ m, m ≤ i → ∃ request, requests[m]? = some request ∧
      (offsets.take (i + 1))[m]? = some (bufferStart requests m, packedStart requests m,
        request.1.length, request.2) := fun m before =>
    have found : requests[m]? = some requests[m] := List.getElem?_eq_getElem (by omega)
    ⟨_, found, by rw [List.getElem?_take_of_lt (by omega), table m _ found]⟩
  obtain ⟨first, -, atFirst⟩ := row 0 (Nat.zero_le i)
  obtain ⟨j, found⟩ := @rposition_isSome _ (fun r => decide (r.1 < packedStart requests i + current.2))
    _ _ _ atFirst (by simp only [bufferStart_zero, decide_eq_true_eq]; omega)
  obtain ⟨x, atJ, starts, later⟩ := rposition_spec found
  have order : j ≤ i := by
    have := (List.getElem?_eq_some_iff.mp atJ).1
    have := List.length_take_le (i + 1) offsets
    omega
  obtain ⟨request, atRequest, atRow⟩ := row j order
  rw [atRow, Option.some.injEq] at atJ
  subst atJ
  refine ⟨j, found, order, by simpa using starts, fun source atSource => ?_⟩
  rw [atRequest, Option.some.injEq] at atSource
  subst atSource
  rcases Nat.lt_or_eq_of_le order with earlier | rfl
  · obtain ⟨next, -, atNext⟩ := row (j + 1) earlier
    have := later (j + 1) _ (Nat.lt_succ_self j) atNext
    rw [bufferStart_succ atRequest] at this
    simp only [decide_eq_false_iff_not, not_lt] at this
    omega
  · rw [atI, Option.some.injEq] at atRequest
    subst atRequest
    have := packedStart_le_bufferStart fits j
    have := fits _ (List.getElem?_mem atI)
    omega

/-- The outer loop: with the buffers below `i` as the reply left them and those
from `i` on in place, every buffer ends in place. -/
theorem fixupFrom_spec : ∀ (i : Nat) (bufs : List Bytes), i ≤ requests.length →
    bufs.length = requests.length →
    (∀ k, k < i → bufs[k]? = (requests.map Prod.fst)[k]?) →
    (∀ k, i ≤ k → InPlace requests bufs k) →
    ∃ bufs', fixupFrom offsets i bufs = .ok bufs' ∧ bufs'.length = requests.length ∧
      ∀ k, InPlace requests bufs' k := by
  intro i
  induction i with
  | zero => exact fun bufs _ length _ settled => ⟨bufs, rfl, length, fun k => settled k (Nat.zero_le k)⟩
  | succ i inductionHypothesis =>
    intro bufs bound length pristine settled
    have atI : requests[i]? = some requests[i] := List.getElem?_eq_getElem (by omega)
    set current := requests[i]
    have target : bufs[i]? = some current.1 := by simp [pristine i (Nat.lt_succ_self i), atI]
    have below : i < bufs.length := by omega
    rw [fixupFrom, index_of_getElem? (table i current atI), except_ok_bind]
    dsimp only
    split_ifs with empty aligned
    · -- A request with no data keeps its buffer.
      refine inductionHypothesis bufs (by omega) length (fun k earlier => pristine k (by omega))
        fun k later => ?_
      rcases Nat.eq_or_lt_of_le later with rfl | after
      · intro request found
        rw [atI, Option.some.injEq] at found
        subst found
        exact ⟨current.1, target, rfl, by simp [empty]⟩
      · exact settled k after
    · -- The data of this request and of all before it already sits at its buffer's start.
      refine ⟨bufs, rfl, length, fun k => ?_⟩
      rcases Nat.lt_or_ge i k with after | before
      · exact settled k after
      · have gap := gap_mono fits before
        have := packedStart_le_bufferStart fits k
        exact inPlace_of_aligned fits (pristine k (by omega)) (by omega)
    · obtain ⟨j, found, order, starts, inSource⟩ := lastSource_spec fits table atI empty
      obtain ⟨dst', ran, length', copied⟩ := copySegment_spec fits table atI j _ current.2 bufs
        current.1 target rfl (fun k earlier => pristine k (by omega)) (fun _ => rfl) order inSource
        (by omega) le_rfl (by simp)
      have atJ : requests[j]? = some requests[j] := List.getElem?_eq_getElem (by omega)
      simp only [found, except_pure, except_ok_bind, index_of_getElem? (table j _ atJ),
        checkedSub_of_le starts.le, ran]
      refine inductionHypothesis (bufs.set i dst') (by omega) (by rw [List.length_set, length])
        (fun k earlier => by rw [List.getElem?_set_ne (by omega), pristine k (by omega)])
        fun k later => ?_
      rcases Nat.eq_or_lt_of_le later with rfl | after
      · intro request found
        rw [atI, Option.some.injEq] at found
        subst found
        exact ⟨dst', List.getElem?_set_self below, length', copied⟩
      · intro request found
        rw [List.getElem?_set_ne (by omega)]
        exact settled k after request found

end Loops

/-! ## The fix-up -/

/-- The scan's `assert!` fails as soon as one result is longer than its buffer. -/
theorem fixupOffsets_of_overflow {pairs : List (Nat × Nat)} (overflow : ∃ pair ∈ pairs, pair.1 < pair.2)
    (initCum actCum : Nat) : fixupOffsets initCum actCum pairs = .error .assertionFailed := by
  induction pairs generalizing initCum actCum with
  | nil => simp at overflow
  | cons first rest inductionHypothesis =>
    obtain ⟨init, act⟩ := first
    rw [fixupOffsets]
    split_ifs with fitsFirst
    · obtain ⟨pair, member, longer⟩ := overflow
      rcases List.mem_cons.mp member with rfl | later
      · exact absurd fitsFirst (by simpa using longer)
      · rw [inductionHypothesis ⟨pair, later, longer⟩, except_error_bind]
    · rfl

/-- When every result fits its buffer, the fix-up runs without a panic, keeps
every buffer's length, and puts every buffer in place. -/
theorem fixupWriteReadReturnBuffers_inPlace {requests : List (Bytes × Nat)}
    (fits : ∀ request ∈ requests, request.2 ≤ request.1.length) :
    ∃ bufs, fixupWriteReadReturnBuffers requests = .ok bufs ∧ bufs.length = requests.length ∧
      ∀ k, InPlace requests bufs k := by
  obtain ⟨offsets, built, rows⟩ := fixupOffsets_table (requests.map fun request => (request.1.length, request.2))
    (fun pair member => by
      obtain ⟨request, inRequests, rfl⟩ := List.mem_map.mp member
      exact fits request inRequests) 0 0
  have table : OffsetTable requests offsets := fun k request found => by
    rw [rows k (request.1.length, request.2) (by simp [found]), ← List.map_take, List.map_map,
      List.map_map, Nat.zero_add, Nat.zero_add]
    rfl
  obtain ⟨bufs, ran, length, inPlace⟩ := fixupFrom_spec fits table requests.length
    (requests.map Prod.fst) le_rfl (List.length_map _ _) (fun _ _ => rfl)
    fun k past request found => absurd (List.getElem?_eq_some_iff.mp found).1 (by omega)
  exact ⟨bufs, by rw [fixupWriteReadReturnBuffers, built, except_ok_bind, ran], length, inPlace⟩

/-- A fix-up that ran through had every result fit its buffer. -/
theorem fits_of_fixupWriteReadReturnBuffers {requests : List (Bytes × Nat)} {bufs : List Bytes}
    (ran : fixupWriteReadReturnBuffers requests = .ok bufs) :
    ∀ request ∈ requests, request.2 ≤ request.1.length := by
  intro request member
  by_contra longer
  have overflow := fixupOffsets_of_overflow
    ⟨(request.1.length, request.2),
      List.mem_map_of_mem (fun request : Bytes × Nat => (request.1.length, request.2)) member,
      by omega⟩ 0 0
  rw [fixupWriteReadReturnBuffers, overflow, except_error_bind] at ran
  cases ran

/-- When every result fits its buffer, the fix-up runs without a panic, keeps
every buffer's length, and leaves each buffer starting with its own segment of
the data the reply packed over the buffers. -/
theorem fixup_segments (requests : List (Bytes × Nat))
    (fits : ∀ request ∈ requests, request.2 ≤ request.1.length) :
    ∃ bufs, fixupWriteReadReturnBuffers requests = .ok bufs ∧ bufs.length = requests.length ∧
      ∀ k request, requests[k]? = some request → ∃ buf, bufs[k]? = some buf ∧
        buf.length = request.1.length ∧
        buf.take request.2 =
          (((requests.map Prod.fst).flatten).drop ((requests.take k).map Prod.snd).sum).take
            request.2 := by
  obtain ⟨bufs, ran, length, inPlace⟩ := fixupWriteReadReturnBuffers_inPlace fits
  refine ⟨bufs, ran, length, fun k request found => ?_⟩
  obtain ⟨buf, atK, bufLength, copied⟩ := inPlace k request found
  exact ⟨buf, atK, bufLength, by simpa only [window, List.drop_zero] using copied⟩

/-- The third segment spans the first two buffers. -/
example : fixupWriteReadReturnBuffers [([1, 2, 3, 4], 2), ([5, 6, 7], 1), ([8, 9, 10, 11], 4)] =
    .ok [[1, 2, 3, 4], [3, 6, 7], [4, 5, 6, 7]] := by rfl

/-- The buffers and result lengths of the repository's `test_fixup_buffers`:
"12345678AB", "CDEFabc", "dxyUVW", "XYZY", "XW----", "-------------". -/
def fixupTestRequests : List (Bytes × Nat) :=
  [([49, 50, 51, 52, 53, 54, 55, 56, 65, 66], 8), ([67, 68, 69, 70, 97, 98, 99], 6),
   ([100, 120, 121, 85, 86, 87], 0), ([88, 89, 90, 89], 4), ([88, 87, 45, 45, 45, 45], 2),
   ([45, 45, 45, 45, 45, 45, 45, 45, 45, 45, 45, 45, 45], 9)]


theorem fixup_segments_test : (∀ request ∈ fixupTestRequests, request.2 ≤ request.1.length) ∧
    ∃ bufs, fixupWriteReadReturnBuffers fixupTestRequests = .ok bufs ∧
      bufs.length = fixupTestRequests.length ∧
      ∀ k request, fixupTestRequests[k]? = some request → ∃ buf, bufs[k]? = some buf ∧
        buf.length = request.1.length ∧
        buf.take request.2 =
          (((fixupTestRequests.map Prod.fst).flatten).drop
            ((fixupTestRequests.take k).map Prod.snd).sum).take request.2 :=
  ⟨by decide, fixup_segments fixupTestRequests (by decide)⟩

end AdsClient
