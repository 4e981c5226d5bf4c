import AdsClient.Engine.Multiplexer

/-!
# The reply map in every reachable state

Two invariants of the shared state.  `Mux.Consistent` holds in every reachable
state: each entry of the reply map is the empty slot of a call registered
under that invoke id, and each call holds the request it built and, once it
has returned `Ok`, the reply it accepted.  `Mux.Waiting`, that a call that
has registered and has no reply yet still has its entry, needs only that no
two calls in progress share an invoke id (`Mux.LiveDistinct`) before and after
each step, however far `fetch_add` has wrapped.  `Mux.Distinct` holds while
fewer than `2^32` calls have started: invoke ids are below the counter and
distinct, and calls are waiting as above.

Each is proved for one step from a few frame lemmas (`setCall`, `setEntry`),
and for a whole run by induction on its actions.
-/

namespace AdsClient

/-- The phases in which a call may own an entry of the reply map: from its
insert until it returns, and after a failed write, which returns without
removing it. -/
def Phase.MayOwnEntry : Phase → Prop
  | .registered | .waiting => True
  | .returned result => result = .ok (.error .transport)
  | .allocated => False

/-- The phases before `communicate` returns. -/
def Phase.Pending : Phase → Prop
  | .returned _ => False
  | _ => True

/-- The phases between the insert into the reply map and the end of the wait. -/
def Phase.Outstanding : Phase → Prop
  | .registered | .waiting => True
  | _ => False

/-- What holds of each call on its own: until it returns it holds the request
`communicate` built, it has no reply before it registers, and an `Ok` was
made from a reply that passed every check and came from the call's target. -/
structure CallValid (source : AmsAddr) (call : Call) : Prop where
  built : call.phase.Pending →
    buildRequest call.cmd call.target source call.invokeId call.dataIn = .ok call.request
  fresh : call.phase = .allocated → call.slot = none
  accepted : ∀ n filled, call.phase = .returned (.ok (.ok (n, filled))) →
    ∃ reply, call.slot = some reply ∧ Accepted call.cmd call.invokeId call.request reply ∧
      slice reply 14 22 = .ok call.target.bytes

/-- Every call is valid, and every entry of the reply map is the empty slot of
a call registered under that invoke id. -/
structure Mux.Consistent (s : Mux) : Prop where
  calls : ∀ c call, s.calls c = some call → CallValid s.source call
  owner : ∀ k c, s.registry k = some c → ∃ call, s.calls c = some call ∧
    call.invokeId.toNat = k ∧ call.slot = none ∧ call.phase.MayOwnEntry

/-- A call between its insert and the end of its wait that has no reply yet is
still in the reply map. -/
def Mux.Waiting (s : Mux) : Prop :=
  ∀ c call, s.calls c = some call → call.phase.Outstanding → call.slot = none →
    s.registry call.invokeId.toNat = some c

/-- No two calls between their insert and the end of their wait share an
invoke id. -/
def Mux.LiveDistinct (s : Mux) : Prop :=
  ∀ c c' call call', s.calls c = some call → s.calls c' = some call' →
    call.phase.Outstanding → call'.phase.Outstanding → call.invokeId = call'.invokeId → c = c'

/-- While `fetch_add` has not wrapped: every invoke id is below the counter,
no two calls share one, and calls are waiting. -/
structure Mux.Distinct (s : Mux) : Prop where
  below : ∀ c call, s.calls c = some call → call.invokeId.toNat < s.nextId
  injective : ∀ c c' call call', s.calls c = some call → s.calls c' = some call' →
    call.invokeId = call'.invokeId → c = c'
  waiting : s.Waiting

section Frames

variable {s s' : Mux} {c : Nat}

theorem Mux.Consistent.of_eq (hi : s.Consistent) (calls : s'.calls = s.calls)
    (registry : s'.registry = s.registry) (source : s'.source = s.source) : s'.Consistent := by
  obtain ⟨valid, owner⟩ := hi
  rw [← calls, ← source] at valid
  rw [← calls, ← registry] at owner
  exact ⟨valid, owner⟩

theorem Mux.Waiting.of_eq (hw : s.Waiting) (calls : s'.calls = s.calls)
    (registry : s'.registry = s.registry) : s'.Waiting := by
  unfold Mux.Waiting at hw ⊢
  rw [calls, registry]
  exact hw

theorem Mux.Distinct.of_eq (hd : s.Distinct) (calls : s'.calls = s.calls)
    (registry : s'.registry = s.registry) (nextId : s.nextId ≤ s'.nextId) : s'.Distinct := by
  obtain ⟨below, injective, waiting⟩ := hd
  rw [← calls] at below injective
  exact ⟨fun c call found => by have := below c call found; omega, injective,
    waiting.of_eq calls registry⟩

theorem Mux.Consistent.setEntry_none (hi : s.Consistent) (k : Nat) :
    (s.setEntry k none).Consistent := by
  refine ⟨hi.calls, fun k' c' entry => hi.owner k' c' ?_⟩
  simp only [Mux.setEntry_registry, Function.update_apply] at entry
  split_ifs at entry
  exact entry

theorem Mux.Consistent.setEntry_some (hi : s.Consistent) {call : Call}
    (found : s.calls c = some call) (empty : call.slot = none) (owns : call.phase.MayOwnEntry) :
    (s.setEntry call.invokeId.toNat (some c)).Consistent := by
  refine ⟨hi.calls, fun k c' entry => ?_⟩
  simp only [Mux.setEntry_registry, Function.update_apply] at entry
  split_ifs at entry with same
  · cases entry
    exact ⟨call, found, same.symm, empty, owns⟩
  · exact hi.owner k c' entry

/-- What an entry pointing to a known call says about it. -/
theorem Mux.Consistent.owned (hi : s.Consistent) {call : Call} (found : s.calls c = some call)
    {k : Nat} (entry : s.registry k = some c) :
    call.invokeId.toNat = k ∧ call.slot = none ∧ call.phase.MayOwnEntry := by
  obtain ⟨call', found', owned⟩ := hi.owner k c entry
  rw [found] at found'
  cases found'
  exact owned

/-- Replacing one call keeps the invariant if the new call is valid and fits
every entry that points to it. -/
theorem Mux.Consistent.setCall (hi : s.Consistent) {call : Call} (valid : CallValid s.source call)
    (owned : ∀ k, s.registry k = some c →
      call.invokeId.toNat = k ∧ call.slot = none ∧ call.phase.MayOwnEntry) :
    (s.setCall c call).Consistent := by
  constructor
  · intro c' call' found
    simp only [Mux.setCall_calls, Function.update_apply, Mux.setCall_source] at found ⊢
    split_ifs at found
    · cases found
      exact valid
    · exact hi.calls c' call' found
  · intro k c' entry
    by_cases same : c' = c
    · subst same
      exact ⟨call, by simp, owned k entry⟩
    · simpa [Function.update_noteq same] using hi.owner k c' entry

/-- Clearing an entry keeps calls waiting if no call waiting for a reply under
that invoke id is left without its entry. -/
theorem Mux.Waiting.setEntry_none (hw : s.Waiting) {k : Nat}
    (clear : ∀ c call, s.calls c = some call → call.phase.Outstanding → call.slot = none →
      call.invokeId.toNat ≠ k) :
    (s.setEntry k none).Waiting := fun c call found outstanding empty => by
  simpa [Function.update_noteq (clear c call found outstanding empty)] using
    hw c call found outstanding empty

/-- Pointing an entry at `c` keeps calls waiting if `c` is the only waiting
call under that invoke id. -/
theorem Mux.Waiting.setEntry_some (hw : s.Waiting) {k : Nat}
    (alone : ∀ c' call', s.calls c' = some call' → call'.phase.Outstanding → call'.slot = none →
      call'.invokeId.toNat = k → c' = c) :
    (s.setEntry k (some c)).Waiting := fun c' call' found outstanding empty => by
  rw [Mux.setEntry_calls] at found
  by_cases same : call'.invokeId.toNat = k
  · rw [alone c' call' found outstanding empty same, Mux.setEntry_registry, same, Function.update_same]
  · simpa [Function.update_noteq same] using hw c' call' found outstanding empty

/-- Replacing call `c` keeps calls waiting if the new call, when it waits with
no reply, has its entry. -/
theorem Mux.Waiting.setCall (hw : s.Waiting) {call : Call}
    (waits : call.phase.Outstanding → call.slot = none → s.registry call.invokeId.toNat = some c) :
    (s.setCall c call).Waiting := fun c' call' found outstanding empty => by
  simp only [Mux.setCall_calls, Function.update_apply, Mux.setCall_registry] at found ⊢
  split_ifs at found with same
  · cases found
    rw [same]
    exact waits outstanding empty
  · exact hw c' call' found outstanding empty

/-- Clearing an entry keeps the invariant if no call waiting for a reply under
that invoke id is left without its entry. -/
theorem Mux.Distinct.setEntry_none (hd : s.Distinct) {k : Nat}
    (clear : ∀ c call, s.calls c = some call → call.phase.Outstanding → call.slot = none →
      call.invokeId.toNat ≠ k) :
    (s.setEntry k none).Distinct :=
  ⟨hd.below, hd.injective, hd.waiting.setEntry_none clear⟩

theorem Mux.Distinct.setEntry_some (hd : s.Distinct) {call : Call} (found : s.calls c = some call) :
    (s.setEntry call.invokeId.toNat (some c)).Distinct :=
  ⟨hd.below, hd.injective, hd.waiting.setEntry_some fun c' call' found' _ _ same =>
    hd.injective c' c call' call found' found (UInt32.toNat.inj same)⟩

/-- Replacing a call by one with the same invoke id keeps the invariant if the
new call, when it waits with no reply, has its entry. -/
theorem Mux.Distinct.setCall (hd : s.Distinct) {call call' : Call} (found : s.calls c = some call)
    (sameId : call'.invokeId = call.invokeId)
    (waits : call'.phase.Outstanding → call'.slot = none →
      s.registry call.invokeId.toNat = some c) :
    (s.setCall c call').Distinct := by
  refine ⟨fun c' call'' found' => ?_, fun c₁ c₂ call₁ call₂ found₁ found₂ equal => ?_,
    fun c' call'' found' outstanding empty => ?_⟩
  · simp only [Mux.setCall_calls, Function.update_apply, Mux.setCall_nextId] at found' ⊢
    split_ifs at found' with same
    · cases found'
      rw [sameId]
      exact hd.below c call found
    · exact hd.below c' call'' found'
  · simp only [Mux.setCall_calls, Function.update_apply] at found₁ found₂
    split_ifs at found₁ found₂ with same₁ same₂ same₂
    · rw [same₁, same₂]
    · cases found₁
      exact same₁ ▸ hd.injective c c₂ call call₂ found found₂ (sameId ▸ equal)
    · cases found₂
      exact same₂ ▸ hd.injective c₁ c call₁ call found₁ found (sameId ▸ equal)
    · exact hd.injective c₁ c₂ call₁ call₂ found₁ found₂ equal
  · exact hd.waiting.setCall (fun outstanding empty => by rw [sameId]; exact waits outstanding empty)
      c' call'' found' outstanding empty

end Frames

/-! ## Calls on their own -/

section Calls

variable {source : AmsAddr} {call : Call}

theorem startCall_valid (s : Mux) (cmd : Command) (target : AmsAddr) (dataIn dataOut : List Bytes) :
    CallValid s.source (startCall s cmd target dataIn dataOut) := by
  unfold startCall
  dsimp only
  split
  · rename_i request built
    exact ⟨fun _ => built, fun _ => rfl, fun n filled returned => by cases returned⟩
  · exact ⟨fun pending => False.elim pending, fun allocated => (by cases allocated),
      fun n filled returned => by cases returned⟩

theorem startCall_invokeId (s : Mux) (cmd : Command) (target : AmsAddr) (dataIn dataOut : List Bytes) :
    (startCall s cmd target dataIn dataOut).invokeId = UInt32.ofNat s.nextId := by
  unfold startCall
  dsimp only
  split <;> rfl

theorem startCall_not_outstanding (s : Mux) (cmd : Command) (target : AmsAddr)
    (dataIn dataOut : List Bytes) : ¬ (startCall s cmd target dataIn dataOut).phase.Outstanding := by
  unfold startCall
  dsimp only
  split <;> exact id

/-- A call that moves on to its insert or its wait stays valid. -/
theorem CallValid.advance (valid : CallValid source call) (pending : call.phase.Pending)
    {phase : Phase} (next : phase = .registered ∨ phase = .waiting) :
    CallValid source { call with phase } := by
  obtain rfl | rfl := next <;>
    exact ⟨fun _ => valid.built pending, fun allocated => (by cases allocated),
      fun n filled returned => by cases returned⟩

/-- A call that returns an error is valid. -/
theorem CallValid.fail (error : AdsError) :
    CallValid source { call with phase := .returned (.ok (.error error)) } :=
  ⟨fun pending => False.elim pending, fun allocated => (by cases allocated),
    fun n filled returned => by cases returned⟩

/-- The reader filling the slot of a call that owns an entry keeps it valid. -/
theorem CallValid.fill (valid : CallValid source call) (owns : call.phase.MayOwnEntry)
    (buf : Bytes) : CallValid source { call with slot := some buf } := by
  refine ⟨valid.built, fun allocated => ?_, fun n filled returned => ?_⟩
  · rw [show call.phase = .allocated from allocated] at owns
    exact owns.elim
  · rw [show call.phase = _ from returned] at owns
    cases owns

/-- A call that checks the reply in its slot is valid: an `Ok` comes from a
reply that passed the checks and carries the request's target as its source. -/
theorem CallValid.receive (valid : CallValid source call) (waiting : call.phase = .waiting)
    {reply : Bytes} (filled : call.slot = some reply) :
    CallValid source { call with
      phase := .returned (communicateReply call.cmd call.invokeId call.request reply call.dataOut) } := by
  refine ⟨fun pending => False.elim pending, fun allocated => (by cases allocated),
    fun n out returned => ⟨reply, filled, ?_⟩⟩
  have accepted := communicateReply_accepted (Phase.returned.inj returned)
  have destination := (buildRequest_destination (valid.built (by rw [waiting]; trivial))).1
  exact ⟨accepted, accepted.source.trans destination⟩

end Calls

/-! ## One step -/

section Step

variable {s s' : Mux} {c : Nat}

theorem Mux.Consistent.deliver (hi : s.Consistent) (k : Nat) (buf : Bytes) :
    (s.deliver k buf).Consistent := by
  unfold Mux.deliver
  split
  · exact hi
  · rename_i owner registered
    split
    · rename_i call found
      obtain ⟨key, -, owns⟩ := hi.owned found registered
      refine (hi.setEntry_none k).setCall ((hi.calls owner call found).fill owns buf) ?_
      intro k' entry
      simp only [Mux.setEntry_registry, Function.update_apply] at entry
      split_ifs at entry with same
      exact absurd ((hi.owned found entry).1.symm.trans key) same
    · exact hi.setEntry_none k

theorem Mux.Consistent.step (hi : s.Consistent) {action : Action}
    (stepped : step s action = some s') : s'.Consistent := by
  cases action with
  | start c cmd target dataIn dataOut =>
    obtain ⟨absent, rfl⟩ := step_start stepped
    refine Mux.Consistent.setCall (@Mux.Consistent.of_eq s { s with nextId := s.nextId + 1 } hi rfl rfl rfl)
      (startCall_valid s cmd target dataIn dataOut) ?_
    intro k entry
    obtain ⟨call, found, -⟩ := hi.owner k c entry
    rw [absent] at found
    cases found
  | register c =>
    obtain ⟨call, found, allocated, rfl⟩ := step_register stepped
    have valid := hi.calls c call found
    have owned : ∀ k, s.registry k = some c → False := fun k entry => by
      have owns := (hi.owned found entry).2.2
      rw [allocated] at owns
      exact owns
    exact @Mux.Consistent.setEntry_some _ c
      (hi.setCall (valid.advance (by rw [allocated]; trivial) (.inl rfl))
        fun k entry => (owned k entry).elim)
      { call with phase := .registered } (by simp) (valid.fresh allocated) trivial
  | write c =>
    obtain ⟨call, found, registered, rfl⟩ := step_write stepped
    refine Mux.Consistent.of_eq
      (hi.setCall ((hi.calls c call found).advance (by rw [registered]; trivial) (.inr rfl))
        fun k entry => ⟨(hi.owned found entry).1, (hi.owned found entry).2.1, trivial⟩)
      rfl rfl rfl
  | writeFail c =>
    obtain ⟨call, found, registered, rfl⟩ := step_writeFail stepped
    exact hi.setCall (CallValid.fail .transport) fun k entry =>
      ⟨(hi.owned found entry).1, (hi.owned found entry).2.1, rfl⟩
  | receive c =>
    obtain ⟨call, reply, found, waiting, filled, rfl⟩ := step_receive stepped
    refine hi.setCall ((hi.calls c call found).receive waiting filled) fun k entry => ?_
    have empty := (hi.owned found entry).2.1
    rw [filled] at empty
    cases empty
  | timeout c =>
    obtain ⟨call, found, waiting, empty, rfl⟩ := step_timeout stepped
    refine (hi.setEntry_none call.invokeId.toNat).setCall (CallValid.fail .timeout) fun k entry => ?_
    simp only [Mux.setEntry_registry, Function.update_apply] at entry
    split_ifs at entry with same
    exact absurd (hi.owned found entry).1.symm same
  | send bytes =>
    cases stepped
    exact hi.of_eq rfl rfl rfl
  | read =>
    obtain ⟨buf, packetLength, rest, -, handed | ⟨registry, calls, source, -⟩⟩ :=
      readStep_cases stepped
    · obtain ⟨invokeId, handedBuf, -, rfl⟩ := handed
      exact (@Mux.Consistent.of_eq s { s with socket := rest } hi rfl rfl rfl).deliver invokeId handedBuf
    · exact hi.of_eq calls registry source

/-- A call after the reader's delivery is the call before it, with the buffer
in its slot when it owned the entry. -/
theorem Mux.deliver_calls_eq_some {k : Nat} {buf : Bytes} {call' : Call}
    (found : (s.deliver k buf).calls c = some call') :
    ∃ call, s.calls c = some call ∧ call'.invokeId = call.invokeId ∧
      (call'.slot = some buf ∨ s.registry k ≠ some c ∧ call' = call) := by
  rw [Mux.deliver_calls] at found
  split_ifs at found with owned
  · obtain ⟨call, old, rfl⟩ := Option.map_eq_some'.mp found
    exact ⟨call, old, rfl, .inl rfl⟩
  · exact ⟨call', found, rfl, .inr ⟨owned, rfl⟩⟩

theorem Mux.Waiting.deliver (hw : s.Waiting) (k : Nat) (buf : Bytes) :
    (s.deliver k buf).Waiting := fun c call' found outstanding empty => by
  obtain ⟨call, old, -, filled | ⟨unowned, rfl⟩⟩ := Mux.deliver_calls_eq_some found
  · rw [filled] at empty
    cases empty
  · have entry := hw c call' old outstanding empty
    rw [Mux.deliver_registry,
      Function.update_noteq fun (same : call'.invokeId.toNat = k) => unowned (same ▸ entry)]
    exact entry

theorem Mux.Distinct.deliver (hd : s.Distinct) (k : Nat) (buf : Bytes) :
    (s.deliver k buf).Distinct := by
  refine ⟨fun c call' found => ?_, fun c₁ c₂ call₁' call₂' found₁ found₂ equal => ?_,
    hd.waiting.deliver k buf⟩
  · obtain ⟨call, old, sameId, -⟩ := Mux.deliver_calls_eq_some found
    rw [sameId, Mux.deliver_nextId]
    exact hd.below c call old
  · obtain ⟨call₁, old₁, sameId₁, -⟩ := Mux.deliver_calls_eq_some found₁
    obtain ⟨call₂, old₂, sameId₂, -⟩ := Mux.deliver_calls_eq_some found₂
    exact hd.injective c₁ c₂ call₁ call₂ old₁ old₂ (sameId₁.symm.trans (equal.trans sameId₂))

/-- The call `start` adds has the counter's value as its invoke id, which no
earlier call has while the counter has not wrapped. -/
theorem Mux.Distinct.start (hd : s.Distinct) {cmd : Command} {target : AmsAddr}
    {dataIn dataOut : List Bytes} (fits : s.nextId < 2 ^ 32) :
    ({ s with nextId := s.nextId + 1 }.setCall c (startCall s cmd target dataIn dataOut)).Distinct := by
  have fresh : (startCall s cmd target dataIn dataOut).invokeId.toNat = s.nextId := by
    rw [startCall_invokeId, UInt32.toNat_ofNat_of_lt fits]
  refine ⟨fun c' call found => ?_, fun c₁ c₂ call₁ call₂ found₁ found₂ equal => ?_,
    fun c' call found outstanding empty => ?_⟩
  · simp only [Mux.setCall_calls, Function.update_apply, Mux.setCall_nextId] at found ⊢
    split_ifs at found
    · cases found
      omega
    · have := hd.below c' call found
      omega
  · simp only [Mux.setCall_calls, Function.update_apply] at found₁ found₂
    have differ : ∀ c' call, s.calls c' = some call →
        call.invokeId ≠ (startCall s cmd target dataIn dataOut).invokeId := fun c' call found same => by
      have := hd.below c' call found
      rw [same, fresh] at this
      omega
    split_ifs at found₁ found₂ with same₁ same₂ same₂
    · rw [same₁, same₂]
    · cases found₁
      exact absurd equal.symm (differ c₂ call₂ found₂)
    · cases found₂
      exact absurd equal (differ c₁ call₁ found₁)
    · exact hd.injective c₁ c₂ call₁ call₂ found₁ found₂ equal
  · simp only [Mux.setCall_calls, Function.update_apply] at found
    split_ifs at found with same
    · cases found
      exact absurd outstanding (startCall_not_outstanding s cmd target dataIn dataOut)
    · exact hd.waiting c' call found outstanding empty

theorem Mux.Distinct.step (hd : s.Distinct) {action : Action} (stepped : step s action = some s')
    (bound : s'.nextId ≤ 2 ^ 32) : s'.Distinct := by
  cases action with
  | start c cmd target dataIn dataOut =>
    obtain ⟨-, rfl⟩ := step_start stepped
    exact hd.start (by simp only [Mux.setCall_nextId] at bound; omega)
  | register c =>
    obtain ⟨call, found, allocated, rfl⟩ := step_register stepped
    exact @Mux.Distinct.setCall _ c (hd.setEntry_some found) call { call with phase := .registered }
      found rfl fun _ _ => by simp
  | write c =>
    obtain ⟨call, found, registered, rfl⟩ := step_write stepped
    exact (@Mux.Distinct.setCall s c hd call { call with phase := .waiting } found rfl fun _ empty =>
      hd.waiting c call found (by rw [registered]; trivial) empty).of_eq rfl rfl le_rfl
  | writeFail c =>
    obtain ⟨call, found, -, rfl⟩ := step_writeFail stepped
    exact hd.setCall found rfl fun outstanding => False.elim outstanding
  | receive c =>
    obtain ⟨call, reply, found, -, -, rfl⟩ := step_receive stepped
    exact hd.setCall found rfl fun outstanding => False.elim outstanding
  | timeout c =>
    obtain ⟨call, found, -, -, rfl⟩ := step_timeout stepped
    have returned := @Mux.Distinct.setCall s c hd call
      { call with phase := .returned (.ok (.error .timeout)) } found rfl
      fun outstanding => False.elim outstanding
    refine returned.setEntry_none fun c' call' found' outstanding _ same => ?_
    by_cases owned : c' = c
    · subst owned
      simp only [Mux.setCall_calls, Function.update_same, Option.some.injEq] at found'
      rw [← found'] at outstanding
      exact outstanding
    · simp only [Mux.setCall_calls, Function.update_noteq owned] at found'
      exact owned (hd.injective c' c call' call found' found (UInt32.toNat.inj same))
  | send bytes =>
    cases stepped
    exact hd.of_eq rfl rfl le_rfl
  | read =>
    obtain ⟨buf, packetLength, rest, -, handed | ⟨registry, calls, -, nextId⟩⟩ :=
      readStep_cases stepped
    · obtain ⟨invokeId, handedBuf, -, rfl⟩ := handed
      exact (@Mux.Distinct.of_eq s { s with socket := rest } hd rfl rfl le_rfl).deliver invokeId handedBuf
    · exact hd.of_eq calls registry nextId.ge

/-- One step keeps calls waiting when no two calls in progress share an invoke
id before the step and after it: a call that registers takes over no entry of
another call in progress, and a call that times out clears no other's. -/
theorem Mux.Waiting.step (hw : s.Waiting) (before : s.LiveDistinct) (after : s'.LiveDistinct)
    {action : Action} (stepped : step s action = some s') : s'.Waiting := by
  cases action with
  | start c cmd target dataIn dataOut =>
    obtain ⟨-, rfl⟩ := step_start stepped
    exact @Mux.Waiting.setCall { s with nextId := s.nextId + 1 } c hw _
      fun outstanding => absurd outstanding (startCall_not_outstanding s cmd target dataIn dataOut)
  | register c =>
    obtain ⟨call, found, -, rfl⟩ := step_register stepped
    show ((s.setEntry call.invokeId.toNat (some c)).setCall c { call with phase := .registered }).Waiting
    refine (hw.setEntry_some fun c' call' found' outstanding _ same => ?_).setCall fun _ _ => by simp
    by_cases owned : c' = c
    · exact owned
    · exact after c' c call' { call with phase := .registered }
        (by simp [Function.update_noteq owned, found']) (by simp) outstanding trivial
        (UInt32.toNat.inj same)
  | write c =>
    obtain ⟨call, found, registered, rfl⟩ := step_write stepped
    exact (@Mux.Waiting.setCall s c hw { call with phase := .waiting } fun _ empty =>
      hw c call found (by rw [registered]; trivial) empty).of_eq rfl rfl
  | writeFail c =>
    obtain ⟨call, -, -, rfl⟩ := step_writeFail stepped
    exact hw.setCall fun outstanding => by exact outstanding.elim
  | receive c =>
    obtain ⟨call, reply, -, -, -, rfl⟩ := step_receive stepped
    exact hw.setCall fun outstanding => by exact outstanding.elim
  | timeout c =>
    obtain ⟨call, found, waiting, -, rfl⟩ := step_timeout stepped
    refine (@Mux.Waiting.setCall s c hw { call with phase := .returned (.ok (.error .timeout)) }
      fun outstanding => outstanding.elim).setEntry_none
      fun c' call' found' outstanding _ same => ?_
    by_cases owned : c' = c
    · subst owned
      simp only [Mux.setCall_calls, Function.update_same, Option.some.injEq] at found'
      rw [← found'] at outstanding
      exact outstanding
    · simp only [Mux.setCall_calls, Function.update_noteq owned] at found'
      exact owned (before c' c call' call found' found outstanding (by rw [waiting]; trivial)
        (UInt32.toNat.inj same))
  | send bytes =>
    cases stepped
    exact hw.of_eq rfl rfl
  | read =>
    obtain ⟨buf, packetLength, rest, -, handed | ⟨registry, calls, -, -⟩⟩ := readStep_cases stepped
    · obtain ⟨invokeId, handedBuf, -, rfl⟩ := handed
      exact (@Mux.Waiting.of_eq s { s with socket := rest } hw rfl rfl).deliver invokeId handedBuf
    · exact hw.of_eq calls registry

theorem step_nextId_le {action : Action} (stepped : step s action = some s') :
    s.nextId ≤ s'.nextId := by
  cases action with
  | start c cmd target dataIn dataOut =>
    obtain ⟨-, rfl⟩ := step_start stepped
    simp
  | register c =>
    obtain ⟨call, -, -, rfl⟩ := step_register stepped
    simp
  | write c =>
    obtain ⟨call, -, -, rfl⟩ := step_write stepped
    simp
  | writeFail c =>
    obtain ⟨call, -, -, rfl⟩ := step_writeFail stepped
    simp
  | receive c =>
    obtain ⟨call, reply, -, -, -, rfl⟩ := step_receive stepped
    simp
  | timeout c =>
    obtain ⟨call, -, -, -, rfl⟩ := step_timeout stepped
    simp
  | send bytes =>
    cases stepped
    exact le_rfl
  | read =>
    obtain ⟨buf, packetLength, rest, -, handed | ⟨-, -, -, nextId⟩⟩ := readStep_cases stepped
    · obtain ⟨invokeId, handedBuf, -, rfl⟩ := handed
      simp
    · exact nextId.ge

end Step

/-! ## Whole runs -/

section Run

variable {s s' : Mux} {actions : List Action}

theorem run_cons {action : Action} {rest : List Action} (ran : run s (action :: rest) = some s') :
    ∃ middle, step s action = some middle ∧ run middle rest = some s' :=
  Option.bind_eq_some.mp ran

theorem run_nextId_le (ran : run s actions = some s') : s.nextId ≤ s'.nextId := by
  induction actions generalizing s with
  | nil =>
    cases ran
    exact le_rfl
  | cons action rest inductionHypothesis =>
    obtain ⟨middle, stepped, ranRest⟩ := run_cons ran
    exact (step_nextId_le stepped).trans (inductionHypothesis ranRest)

theorem Mux.Consistent.run (hi : s.Consistent) (ran : run s actions = some s') : s'.Consistent := by
  induction actions generalizing s with
  | nil =>
    cases ran
    exact hi
  | cons action rest inductionHypothesis =>
    obtain ⟨middle, stepped, ranRest⟩ := run_cons ran
    exact inductionHypothesis (hi.step stepped) ranRest

theorem Mux.Distinct.run (hd : s.Distinct) (ran : run s actions = some s')
    (bound : s'.nextId ≤ 2 ^ 32) : s'.Distinct := by
  induction actions generalizing s with
  | nil =>
    cases ran
    exact hd
  | cons action rest inductionHypothesis =>
    obtain ⟨middle, stepped, ranRest⟩ := run_cons ran
    exact inductionHypothesis
      (hd.step stepped ((run_nextId_le ranRest).trans bound)) ranRest

/-- The invoke ids of the calls in progress are distinct at every state of a run. -/
def LiveDistinctRun : Mux → List Action → Prop
  | s, [] => s.LiveDistinct
  | s, action :: rest => s.LiveDistinct ∧ ∀ next ∈ step s action, LiveDistinctRun next rest

theorem LiveDistinctRun.head : ∀ {actions : List Action}, LiveDistinctRun s actions → s.LiveDistinct
  | [], distinct => distinct
  | _ :: _, distinct => distinct.1

theorem Mux.Waiting.run (hw : s.Waiting) (distinct : LiveDistinctRun s actions)
    (ran : run s actions = some s') : s'.Waiting := by
  induction actions generalizing s with
  | nil =>
    cases ran
    exact hw
  | cons action rest inductionHypothesis =>
    obtain ⟨middle, stepped, ranRest⟩ := run_cons ran
    have later := distinct.2 middle stepped
    exact inductionHypothesis (hw.step distinct.1 later.head stepped) later ranRest

theorem Mux.Distinct.liveDistinct (hd : s.Distinct) : s.LiveDistinct :=
  fun c c' call call' found found' _ _ same => hd.injective c c' call call' found found' same

/-- While the counter has not wrapped, the invoke ids of the calls in progress
are distinct all along the run. -/
theorem Mux.Distinct.liveDistinctRun (hd : s.Distinct) (ran : AdsClient.run s actions = some s')
    (bound : s'.nextId ≤ 2 ^ 32) : LiveDistinctRun s actions := by
  induction actions generalizing s with
  | nil => exact hd.liveDistinct
  | cons action rest inductionHypothesis =>
    obtain ⟨middle, stepped, ranRest⟩ := run_cons ran
    refine ⟨hd.liveDistinct, fun next stepped' => ?_⟩
    obtain rfl : middle = next := Option.some.inj (stepped.symm.trans stepped')
    exact inductionHypothesis (hd.step stepped ((run_nextId_le ranRest).trans bound)) ranRest

theorem Mux.Waiting.init (source : AmsAddr) : (Mux.init source).Waiting :=
  fun _ _ found => (by cases found)

theorem Mux.Consistent.init (source : AmsAddr) : (Mux.init source).Consistent :=
  ⟨fun _ _ found => (by cases found), fun _ _ entry => (by cases entry)⟩

theorem Mux.Distinct.init (source : AmsAddr) : (Mux.init source).Distinct :=
  ⟨fun _ _ found => (by cases found), fun _ _ _ _ found => (by cases found),
    fun _ _ found => (by cases found)⟩

theorem Reachable.consistent (reach : Reachable s) : s.Consistent := by
  obtain ⟨source, actions, ran⟩ := reach
  exact (Mux.Consistent.init source).run ran

theorem Reachable.distinct (reach : Reachable s) (bound : s.nextId ≤ 2 ^ 32) : s.Distinct := by
  obtain ⟨source, actions, ran⟩ := reach
  exact (Mux.Distinct.init source).run ran bound

end Run

end AdsClient
