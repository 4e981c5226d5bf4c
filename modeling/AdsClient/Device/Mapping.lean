import AdsClient.Device.Read

/-!
# The symbol mapping and its handle cache

`AdsMapping` (`mapping.rs`) reads and writes one symbol by handle.  It caches
the handle with the session id it was made under, and on each call
`get_handle` asks the client for its session id and makes a new handle with
`Handle::new` when there is none or the session id differs.  A failing
`Handle::new` returns through `?` before the cache is written.

A call's world is what `client.session_id()` returns and what `Handle::new`
returns (`Observation`); `AdsMapping.run` performs calls in order and records
what each did with the cache (`Step`).  The main result is
`mapping_handle_provenance`: every handle a call uses was returned by the last
successful `Handle::new`, in a call that observed the same session id, and
when the observed session ids never decrease no call in between observed
another one.  `stale_handle_reused` shows that with a session id that changes
and comes back, a handle outlives the change.
-/

namespace AdsClient

/-- `index::RW_SYMVAL_BYHANDLE`.

Modelled from the spec: `index.rs` is not under `src/`; the spec's §6 names
this index group, and its value is that of Beckhoff's ADS index group for a
symbol's value by handle. -/
def RW_SYMVAL_BYHANDLE : Nat := 0xF005

def Device.write (communicate : Exchange) (indexGroup indexOffset : UInt32) (data : Bytes) :
    Except Panic (Except AdsError Unit) :=
  match toU32 data.length with
  | .error error => pure (.error error)
  | .ok length => do
    let result ← communicate [indexLength indexGroup.toNat indexOffset.toNat length.toNat, data] []
    pure (result.map fun _ => ())

/-- `Device::write_value`: `write` of the value's bytes. -/
def Device.writeValue (communicate : Exchange) (indexGroup indexOffset : UInt32) (value : Bytes) :
    Except Panic (Except AdsError Unit) :=
  Device.write communicate indexGroup indexOffset value

/-- `AdsMapping`: the reusable buffer, the session id of the cached handle, and
the handle, by its raw `u32`. -/
structure AdsMapping where
  buf : Bytes
  sessionId : Nat
  handle : Option UInt32

def AdsMapping.new (bufSize : Nat) : AdsMapping := ⟨zeros bufSize, 0, none⟩

/-- `self.handle.is_none() || self.session_id != session_id`: there is no
cached handle, or it was made under another session id. -/
def AdsMapping.stale (m : AdsMapping) (sessionId : Nat) : Bool :=
  m.handle.isNone || m.sessionId != sessionId

/-- `get_handle`, with `sessionId` what `self.device.client.session_id()`
returns and `create` what `Handle::new(&self.device, &self.symbol)` returns
when it is called: the mapping afterwards and the handle, whose `unwrap`
panics if there is none. -/
def AdsMapping.getHandle (m : AdsMapping) (sessionId : Nat) (create : Except AdsError UInt32) :
    Except Panic (AdsMapping × Except AdsError UInt32) :=
  let refreshed : Except AdsError AdsMapping :=
    if m.stale sessionId then create.map fun handle => { m with handle := some handle, sessionId }
    else .ok m
  match refreshed with
  | .error error => pure (m, .error error)
  | .ok m =>
    match m.handle with
    | some handle => pure (m, .ok handle)
    | none => .error .expectFailed

/-- `IoMapping::read`: what `T::read_le` is given, `&self.buf[..len]`, after
`Device::read` on `(RW_SYMVAL_BYHANDLE, handle)` into the buffer, where
`communicate` answers that read.  `T::read_le` itself is left out. -/
def AdsMapping.read (m : AdsMapping) (communicate : Exchange) (sessionId : Nat)
    (create : Except AdsError UInt32) : Except Panic (AdsMapping × Except AdsError Bytes) := do
  let (m, handle) ← m.getHandle sessionId create
  match handle with
  | .error error => pure (m, .error error)
  | .ok handle =>
    let (len, buf) ← Device.read communicate (UInt32.ofNat RW_SYMVAL_BYHANDLE) handle m.buf
    let m := { m with buf }
    match len with
    | .error error => pure (m, .error error)
    | .ok len =>
      if len > m.buf.length then pure (m, .error (.io "buffer overflow"))
      else pure (m, .ok (m.buf.take len))

/-- `IoMapping::write`, with `encoded` the bytes `value.write_le` writes through
a cursor at the start of the buffer (overwriting it, and growing it past its
end), then `Device::write` of those bytes on `(RW_SYMVAL_BYHANDLE, handle)`. -/
def AdsMapping.write (m : AdsMapping) (communicate : Exchange) (sessionId : Nat)
    (create : Except AdsError UInt32) (encoded : Bytes) :
    Except Panic (AdsMapping × Except AdsError Unit) := do
  let (m, handle) ← m.getHandle sessionId create
  match handle with
  | .error error => pure (m, .error error)
  | .ok handle =>
    let m := { m with buf := encoded ++ m.buf.drop encoded.length }
    let result ← Device.write communicate (UInt32.ofNat RW_SYMVAL_BYHANDLE) handle
      (m.buf.take encoded.length)
    pure (m, result)

/-! ## `get_handle` -/

/-- Everything `get_handle` can do.  With a stale cache it calls `Handle::new`:
an error leaves the mapping as it was, a handle is cached under the session id
it observed and returned.  Otherwise it returns the cached handle, made under
the session id it observed.  It never panics. -/
theorem getHandle_cases (m : AdsMapping) (sessionId : Nat) (create : Except AdsError UInt32) :
    (m.stale sessionId = true ∧
      ((∃ error, create = .error error ∧ m.getHandle sessionId create = .ok (m, .error error)) ∨
        ∃ handle, create = .ok handle ∧
          m.getHandle sessionId create = .ok ({ m with handle := some handle, sessionId }, .ok handle))) ∨
      (m.stale sessionId = false ∧ m.sessionId = sessionId ∧
        ∃ handle, m.handle = some handle ∧ m.getHandle sessionId create = .ok (m, .ok handle)) := by
  cases staleNow : m.stale sessionId with
  | true =>
    refine .inl ⟨rfl, ?_⟩
    rcases create with error | handle
    · exact .inl ⟨error, rfl, by simp [AdsMapping.getHandle, staleNow, Except.map]⟩
    · exact .inr ⟨handle, rfl, by simp [AdsMapping.getHandle, staleNow, Except.map]⟩
  | false =>
    simp only [AdsMapping.stale, Bool.or_eq_false_iff, bne_eq_false_iff_eq] at staleNow
    obtain ⟨present, same⟩ := staleNow
    cases cached : m.handle with
    | none => simp [cached] at present
    | some handle =>
      refine .inr ⟨by simp [AdsMapping.stale, cached, same], same, handle, rfl, ?_⟩
      simp [AdsMapping.getHandle, AdsMapping.stale, cached, same]

def AdsMapping.cache (m : AdsMapping) : Nat × Option UInt32 := (m.sessionId, m.handle)

theorem read_cache {m next : AdsMapping} {communicate : Exchange} {sessionId : Nat}
    {create : Except AdsError UInt32} {result : Except AdsError Bytes}
    (done : m.read communicate sessionId create = .ok (next, result)) :
    ∃ refreshed handle, m.getHandle sessionId create = .ok (refreshed, handle) ∧
      next.cache = refreshed.cache := by
  obtain ⟨⟨refreshed, handle⟩, got, rest⟩ := except_bind_eq_ok.1 done
  refine ⟨refreshed, handle, got, ?_⟩
  rcases handle with error | handle
  · cases rest
    rfl
  · obtain ⟨⟨len, buf⟩, -, finish⟩ := except_bind_eq_ok.1 rest
    dsimp only at finish
    split at finish
    · cases finish
      rfl
    · split at finish <;> cases finish <;> rfl

theorem write_cache {m next : AdsMapping} {communicate : Exchange} {sessionId : Nat}
    {create : Except AdsError UInt32} {encoded : Bytes} {result : Except AdsError Unit}
    (done : m.write communicate sessionId create encoded = .ok (next, result)) :
    ∃ refreshed handle, m.getHandle sessionId create = .ok (refreshed, handle) ∧
      next.cache = refreshed.cache := by
  obtain ⟨⟨refreshed, handle⟩, got, rest⟩ := except_bind_eq_ok.1 done
  refine ⟨refreshed, handle, got, ?_⟩
  rcases handle with error | handle
  · cases rest
    rfl
  · obtain ⟨_, -, finish⟩ := except_bind_eq_ok.1 rest
    cases finish
    rfl

theorem read_uses_handle {m refreshed : AdsMapping} {sessionId : Nat}
    {create : Except AdsError UInt32} {handle : UInt32}
    (got : m.getHandle sessionId create = .ok (refreshed, .ok handle)) :
    ∃ continuation, ∀ communicate, m.read communicate sessionId create =
      Device.read communicate (UInt32.ofNat RW_SYMVAL_BYHANDLE) handle refreshed.buf >>= continuation := by
  exact ⟨_, fun communicate => by rw [AdsMapping.read, got, except_ok_bind]⟩

theorem write_uses_handle {m refreshed : AdsMapping} {sessionId : Nat}
    {create : Except AdsError UInt32} {handle : UInt32} {encoded : Bytes}
    (got : m.getHandle sessionId create = .ok (refreshed, .ok handle)) :
    ∃ continuation, ∀ communicate, m.write communicate sessionId create encoded =
      Device.write communicate (UInt32.ofNat RW_SYMVAL_BYHANDLE) handle encoded >>= continuation := by
  exact ⟨_, fun communicate => by
    rw [AdsMapping.write, got, except_ok_bind]
    simp only [List.take_left]
    rfl⟩

theorem getHandle_ok_cached {m refreshed : AdsMapping} {sessionId : Nat}
    {create : Except AdsError UInt32} {handle : UInt32}
    (got : m.getHandle sessionId create = .ok (refreshed, .ok handle)) :
    refreshed.handle = some handle ∧ refreshed.sessionId = sessionId := by
  rcases getHandle_cases m sessionId create with
    ⟨-, ⟨error, -, failed⟩ | ⟨made, -, created⟩⟩ | ⟨-, same, cached, present, reused⟩
  · rw [got] at failed
    cases failed
  · rw [got] at created
    cases created
    exact ⟨rfl, rfl⟩
  · rw [got] at reused
    cases reused
    exact ⟨present, same⟩

/-! ## Runs of calls -/

/-- What a call observes: the session id `client.session_id()` returns, and
what `Handle::new` returns if the call makes one. -/
structure Observation where
  sessionId : Nat
  create : Except AdsError UInt32

/-- One access through the mapping: `read`, with the exchange that answers its
`Device::read`, or `write`, with the exchange that answers its
`Device::write` and the bytes the value serializes to. -/
inductive Access where
  | read (seen : Observation) (communicate : Exchange)
  | write (seen : Observation) (communicate : Exchange) (encoded : Bytes)

def Access.seen : Access → Observation
  | read seen _ | write seen _ _ => seen

def AdsMapping.perform (m : AdsMapping) : Access → Except Panic AdsMapping
  | .read seen communicate => Prod.fst <$> m.read communicate seen.sessionId seen.create
  | .write seen communicate encoded =>
    Prod.fst <$> m.write communicate seen.sessionId seen.create encoded

theorem perform_cache {m next : AdsMapping} {call : Access} (done : m.perform call = .ok next) :
    ∃ refreshed handle, m.getHandle call.seen.sessionId call.seen.create = .ok (refreshed, handle) ∧
      next.cache = refreshed.cache := by
  cases call with
  | read seen communicate =>
    cases performed : m.read communicate seen.sessionId seen.create with
    | error panic =>
      rw [AdsMapping.perform, performed] at done
      cases done
    | ok result =>
      rw [AdsMapping.perform, performed] at done
      cases done
      exact read_cache performed
  | write seen communicate encoded =>
    cases performed : m.write communicate seen.sessionId seen.create encoded with
    | error panic =>
      rw [AdsMapping.perform, performed] at done
      cases done
    | ok result =>
      rw [AdsMapping.perform, performed] at done
      cases done
      exact write_cache performed

/-- A call whose `Handle::new` fails leaves the cache as it was, whether or not
the call made one. -/
theorem perform_of_error {m next : AdsMapping} {call : Access} {error : AdsError}
    (failing : call.seen.create = .error error) (done : m.perform call = .ok next) :
    next.cache = m.cache := by
  obtain ⟨refreshed, handle, got, cached⟩ := perform_cache done
  rw [cached]
  rcases getHandle_cases m call.seen.sessionId call.seen.create with
    ⟨-, ⟨_, -, failed⟩ | ⟨_, created, -⟩⟩ | ⟨-, -, _, -, reused⟩
  · rw [got] at failed
    cases failed
    rfl
  · rw [failing] at created
    cases created
  · rw [got] at reused
    cases reused
    rfl

/-- What one call did with the cache: what it observed, whether its
`get_handle` called `Handle::new`, and the handle its device operation used,
if `get_handle` returned one. -/
structure Step where
  seen : Observation
  made : Bool
  used : Option UInt32

/-- The calls in order, each on the mapping the one before left: the mapping
after them and what each did with the cache.  The first panic ends the run. -/
def AdsMapping.run (m : AdsMapping) : List Access → Except Panic (AdsMapping × List Step)
  | [] => pure (m, [])
  | call :: rest => do
    let next ← m.perform call
    let (_, handle) ← m.getHandle call.seen.sessionId call.seen.create
    let (last, steps) ← next.run rest
    pure (last, ⟨call.seen, m.stale call.seen.sessionId, handle.toOption⟩ :: steps)

theorem run_seen : ∀ (calls : List Access) (m last : AdsMapping) (steps : List Step),
    m.run calls = .ok (last, steps) → steps.map (·.seen) = calls.map (·.seen) := by
  intro calls
  induction calls with
  | nil =>
    intro m last steps ran
    cases ran
    rfl
  | cons call rest inductionHypothesis =>
    intro m last steps ran
    obtain ⟨next, -, ran⟩ := except_bind_eq_ok.1 ran
    obtain ⟨⟨_, handle⟩, -, ran⟩ := except_bind_eq_ok.1 ran
    obtain ⟨⟨last', steps'⟩, restRan, made⟩ := except_bind_eq_ok.1 ran
    cases made
    simp only [List.map_cons, inductionHypothesis next _ _ restRan]

/-! ## Where a used handle comes from -/

/-- The call made no new handle: it did not call `Handle::new`, or that failed. -/
def Step.NoNewHandle (step : Step) : Prop :=
  step.made = true → ∃ error, step.seen.create = .error error

/-- The cache against the calls so far: a cached handle is the one that the
last call to make a new handle got from `Handle::new`, cached under the
session id that call observed; with no cached handle, no call made one. -/
structure Provenance (history : List Step) (m : AdsMapping) : Prop where
  empty : m.handle = none → ∀ step ∈ history, step.NoNewHandle
  held : ∀ handle, m.handle = some handle → ∃ before origin after,
    history = before ++ origin :: after ∧ origin.made = true ∧ origin.seen.create = .ok handle ∧
      origin.seen.sessionId = m.sessionId ∧ ∀ step ∈ after, step.NoNewHandle

theorem Provenance.init (bufSize : Nat) : Provenance [] (AdsMapping.new bufSize) :=
  ⟨fun _ _ member => absurd member (List.not_mem_nil _), fun _ held => by cases held⟩

theorem Provenance.of_cache {history : List Step} {m next : AdsMapping}
    (provenance : Provenance history m) (cached : next.cache = m.cache) : Provenance history next := by
  simp only [AdsMapping.cache, Prod.mk.injEq] at cached
  obtain ⟨session, handle⟩ := cached
  exact ⟨handle ▸ provenance.empty, session ▸ handle ▸ provenance.held⟩

theorem Provenance.extend {history : List Step} {m : AdsMapping} {step : Step}
    (provenance : Provenance history m) (nothing : step.NoNewHandle) :
    Provenance (history ++ [step]) m := by
  refine ⟨fun absent other member => ?_, fun handle present => ?_⟩
  · rcases List.mem_append.1 member with earlier | last
    · exact provenance.empty absent other earlier
    · rw [List.mem_singleton.1 last]
      exact nothing
  · obtain ⟨before, origin, after, layout, made, created, session, since⟩ :=
      provenance.held handle present
    refine ⟨before, origin, after ++ [step], by simp [layout], made, created, session,
      fun other member => ?_⟩
    rcases List.mem_append.1 member with earlier | last
    · exact since other earlier
    · rw [List.mem_singleton.1 last]
      exact nothing

theorem Provenance.getHandle {history : List Step} {m refreshed : AdsMapping} {seen : Observation}
    {handle : Except AdsError UInt32} (provenance : Provenance history m)
    (got : m.getHandle seen.sessionId seen.create = .ok (refreshed, handle)) :
    Provenance (history ++ [⟨seen, m.stale seen.sessionId, handle.toOption⟩]) refreshed := by
  rcases getHandle_cases m seen.sessionId seen.create with
    ⟨stale, ⟨error, failing, failed⟩ | ⟨made, creating, created⟩⟩ | ⟨fresh, -, _, -, reused⟩
  · rw [got] at failed
    cases failed
    exact provenance.extend fun _ => ⟨error, failing⟩
  · rw [got] at created
    cases created
    refine ⟨(fun absent => by cases absent), fun cached present => ?_⟩
    cases present
    exact ⟨history, _, [], rfl, stale, creating, rfl, fun _ member => absurd member (List.not_mem_nil _)⟩
  · rw [got] at reused
    cases reused
    exact provenance.extend fun made => by rw [fresh] at made; cases made

/-- Over a run, the cache keeps its provenance, and every handle a call uses
was made by the last call to make a new handle, which observed the same
session id as the call that uses it. -/
theorem Provenance.run : ∀ (calls : List Access) (history : List Step) (m last : AdsMapping)
    (steps : List Step), Provenance history m → m.run calls = .ok (last, steps) →
    Provenance (history ++ steps) last ∧
      ∀ pre step post used, steps = pre ++ step :: post → step.used = some used →
        ∃ before origin between, history ++ pre ++ [step] = before ++ origin :: between ∧
          origin.made = true ∧ origin.seen.create = .ok used ∧
          origin.seen.sessionId = step.seen.sessionId ∧ ∀ other ∈ between, other.NoNewHandle := by
  intro calls
  induction calls with
  | nil =>
    intro history m last steps provenance ran
    cases ran
    refine ⟨by simpa using provenance, fun pre step post _ layout => ?_⟩
    cases pre <;> cases layout
  | cons call rest inductionHypothesis =>
    intro history m last steps provenance ran
    obtain ⟨next, performed, ran⟩ := except_bind_eq_ok.1 ran
    obtain ⟨⟨refreshed, handle⟩, got, ran⟩ := except_bind_eq_ok.1 ran
    obtain ⟨⟨last', steps'⟩, restRan, made⟩ := except_bind_eq_ok.1 ran
    cases made
    have cached : next.cache = refreshed.cache := by
      obtain ⟨refreshed', handle', got', cached⟩ := perform_cache performed
      rw [got, Except.ok.injEq, Prod.mk.injEq] at got'
      rw [cached, ← got'.1]
    have stepped := provenance.getHandle got
    obtain ⟨kept, uses⟩ := inductionHypothesis _ next _ _ (stepped.of_cache cached) restRan
    refine ⟨by simpa using kept, fun pre step post used layout using' => ?_⟩
    cases pre with
    | nil =>
      cases layout
      cases handle with
      | error error => cases using'
      | ok handle =>
        obtain rfl : handle = used := Option.some.inj using'
        obtain ⟨present, session⟩ := getHandle_ok_cached got
        obtain ⟨before, origin, after, layout, made, created, origin_session, since⟩ :=
          stepped.held handle present
        exact ⟨before, origin, after, by simpa using layout, made, created,
          origin_session.trans session, since⟩
    | cons first pre =>
      cases layout
      simpa using uses pre step post used rfl using'

/-- In calls whose session ids never decrease, every call after the one that
made a handle, up to a call that uses it under the same session id, observed
that session id too. -/
theorem sessions_between {pre before between : List Step} {step origin : Step}
    (ordered : ((pre ++ [step]).map (·.seen.sessionId)).Pairwise (· ≤ ·))
    (layout : pre ++ [step] = before ++ origin :: between)
    (same : origin.seen.sessionId = step.seen.sessionId) :
    ∀ other ∈ between, other.seen.sessionId = step.seen.sessionId := by
  intro other member
  rw [List.pairwise_map] at ordered
  have fromOrigin : origin.seen.sessionId ≤ other.seen.sessionId := by
    rw [layout] at ordered
    exact (List.pairwise_cons.1 (List.pairwise_append.1 ordered).2.1).1 other member
  have toStep : other.seen.sessionId ≤ step.seen.sessionId := by
    have inside : other ∈ pre ++ [step] :=
      layout ▸ List.mem_append_right _ (List.mem_cons_of_mem _ member)
    rcases List.mem_append.1 inside with early | last
    · exact (List.pairwise_append.1 ordered).2.2 other early step (List.mem_singleton_self _)
    · rw [List.mem_singleton.1 last]
  omega

/-- Every access the mapping makes goes through `get_handle`, and its device
operation is on the handle `get_handle` returned.  An access whose
`Handle::new` fails leaves the cached session id and handle as they were.
Over any run from `AdsMapping::new`, every handle an access uses was returned
by `Handle::new` in the last access that made a new handle, which observed the
same session id, and no access in between made a new handle.  When the
observed session ids never decrease, every access in between observed that
session id too. -/
theorem mapping_handle_provenance :
    (∀ (m refreshed : AdsMapping) (sessionId : Nat) (create : Except AdsError UInt32) (handle : UInt32),
      m.getHandle sessionId create = .ok (refreshed, .ok handle) →
      (∃ continuation, ∀ communicate, m.read communicate sessionId create =
        Device.read communicate (UInt32.ofNat RW_SYMVAL_BYHANDLE) handle refreshed.buf >>= continuation) ∧
      ∀ encoded, ∃ continuation, ∀ communicate, m.write communicate sessionId create encoded =
        Device.write communicate (UInt32.ofNat RW_SYMVAL_BYHANDLE) handle encoded >>= continuation) ∧
    (∀ (m next : AdsMapping) (access : Access) (error : AdsError), access.seen.create = .error error →
      m.perform access = .ok next → next.sessionId = m.sessionId ∧ next.handle = m.handle) ∧
    (∀ (bufSize : Nat) (accesses : List Access) (last : AdsMapping) (steps : List Step),
      (AdsMapping.new bufSize).run accesses = .ok (last, steps) →
      ∀ (pre : List Step) (step : Step) (post : List Step) (handle : UInt32),
        steps = pre ++ step :: post → step.used = some handle →
        ∃ before origin between, pre ++ [step] = before ++ origin :: between ∧
          origin.made = true ∧ origin.seen.create = .ok handle ∧
          origin.seen.sessionId = step.seen.sessionId ∧
          (∀ other ∈ between, other.made = true → ∃ error, other.seen.create = .error error) ∧
          ((accesses.map (·.seen.sessionId)).Pairwise (· ≤ ·) →
            ∀ other ∈ between, other.seen.sessionId = step.seen.sessionId)) := by
  refine ⟨fun _ _ _ _ _ got => ⟨read_uses_handle got, fun _ => write_uses_handle got⟩,
    fun _ _ _ _ failing done => ?_, fun bufSize accesses last steps ran pre step post handle layout used => ?_⟩
  · simpa [AdsMapping.cache] using perform_of_error failing done
  · obtain ⟨-, uses⟩ := Provenance.run accesses [] _ last steps (Provenance.init bufSize) ran
    obtain ⟨before, origin, between, prefixLayout, made, created, session, since⟩ :=
      uses pre step post handle layout used
    rw [List.nil_append] at prefixLayout
    refine ⟨before, origin, between, prefixLayout, made, created, session, since, fun ordered => ?_⟩
    have sessions : steps.map (·.seen.sessionId) = accesses.map (·.seen.sessionId) := by
      simpa [List.map_map] using congrArg (List.map (·.sessionId)) (run_seen accesses _ last steps ran)
    rw [← sessions, layout, List.append_cons, List.map_append] at ordered
    exact sessions_between (List.pairwise_append.1 ordered).1 prefixLayout session

/-- An exchange that answers every request with success, a `read_len` of 0
and the read buffers as they were. -/
def quietExchange : Exchange := fun _ dataOut => pure (.ok (0, dataOut))

/-- Three reads: under session id 1 `Handle::new` gives handle 7, under
session id 2 the connection is gone and it fails, and back under session id 1
it would give handle 8. -/
def sessionRoundTrip : List Access :=
  [.read ⟨1, .ok 7⟩ quietExchange, .read ⟨2, .error .transport⟩ quietExchange,
    .read ⟨1, .ok 8⟩ quietExchange]

/-- The third read uses handle 7, made under session id 1, after an access
observed session id 2: the handle outlives a change of the session id. -/
theorem stale_handle_reused :
    ∃ last steps, (AdsMapping.new 4).run sessionRoundTrip = .ok (last, steps) ∧
      steps.map (·.seen.sessionId) = [1, 2, 1] ∧ steps.map (·.made) = [true, true, false] ∧
      steps.map (·.used) = [some 7, none, some 7] :=
  ⟨_, _, rfl, rfl, rfl, rfl⟩

end AdsClient
