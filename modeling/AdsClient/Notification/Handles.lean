import AdsClient.Device.SumUp

/-!
# The set of open notification handles

`notif_handles` is the client's record of the notifications it must delete on
shutdown.  A call that adds or deletes notifications first has the server
process its request, which the server does atomically, and then, once the
reply is back, takes the set's lock once for every handle the reply
confirmed, to insert it (adds) or remove it (deletes).  A reply that comes
back after the read timeout makes `communicate` return `Err`, and the call
then changes nothing, whatever the server did.  `Client::purge` and the first
step of `Client::shutdown` empty the set under the lock; the deletes
`shutdown` then makes are calls like any other.

`World` runs these steps from any number of threads in any order: `serve` is
the server processing one call, `lose` the server processing a call whose
reply comes too late, `update` one lock-protected update, `drain` a purge.
Beside the server's live handles and `notif_handles` it keeps `expected`, the
pairs the server confirmed added and has not since confirmed deleted, less
those a purge drained, and `lost`, the updates no thread will make.

The two sides need not agree once calls overlap: the server may give a
deleted handle to a new notification before the deleting thread has removed
it from the set (`handle_reuse_race`).  In every run in which the server
confirms nothing about a pair whose earlier confirmed update the client has
still to make or has lost, `expected` is, whenever no call is in progress,
`notif_handles` with the lost updates made: a lost add leaves a live pair
out of the set for good (`notifHandles_quiet`).
-/

namespace AdsClient

/-- One lock-protected update of `notif_handles`. -/
inductive Update where
  | insert (entry : AmsAddr × Nat)
  | erase (entry : AmsAddr × Nat)
  deriving DecidableEq

def Update.entry : Update → AmsAddr × Nat
  | insert entry | erase entry => entry

/-- `notif_handles.lock().insert(..)` or `.remove(..)`. -/
def Update.apply : Update → HandleSet → HandleSet
  | insert entry, handles => Insert.insert entry handles
  | erase entry, handles => handles.erase entry

def applyAll (updates : List Update) (handles : HandleSet) : HandleSet :=
  updates.foldl (fun handles update => update.apply handles) handles

@[simp] theorem applyAll_nil (handles : HandleSet) : applyAll [] handles = handles := rfl

@[simp] theorem applyAll_cons (update : Update) (rest : List Update) (handles : HandleSet) :
    applyAll (update :: rest) handles = applyAll rest (update.apply handles) := rfl

theorem applyAll_append (first second : List Update) (handles : HandleSet) :
    applyAll (first ++ second) handles = applyAll second (applyAll first handles) :=
  List.foldl_append _ _ _ _

/-! ## The updates each call makes -/

/-- The updates of the loop after `add_notification_multi`'s exchange, one for
each request whose `handle()` is `Ok`. -/
def addUpdates (addr : AmsAddr) (after : List AddNotifRequest) : List Update :=
  after.filterMap fun r =>
    match r.handle with
    | .ok (.ok handle) => some (.insert (addr, handle))
    | _ => none

/-- The updates of the loop after `delete_notification_multi`'s exchange, one
for each request whose `ensure()` is `Ok`. -/
def dropUpdates (addr : AmsAddr) (after : List DelNotifRequest) : List Update :=
  after.filterMap fun r =>
    match r.ensure with
    | .ok (.ok ()) => some (.erase (addr, leValue r.req))
    | _ => none

theorem recordHandles_eq_applyAll (addr : AmsAddr) :
    ∀ (after : List AddNotifRequest) (handles : HandleSet),
      recordHandles addr handles after = applyAll (addUpdates addr after) handles := by
  intro after
  induction after with
  | nil => intro handles; rfl
  | cons r rest inductionHypothesis =>
    intro handles
    unfold recordHandles
    split <;> rename_i returned <;>
      simp only [addUpdates, List.filterMap_cons, returned] <;> exact inductionHypothesis _

theorem dropHandles_eq_applyAll (addr : AmsAddr) :
    ∀ (after : List DelNotifRequest) (handles : HandleSet),
      dropHandles addr handles after = applyAll (dropUpdates addr after) handles := by
  intro after
  induction after with
  | nil => intro handles; rfl
  | cons r rest inductionHypothesis =>
    intro handles
    unfold dropHandles
    split <;> rename_i returned <;>
      simp only [dropUpdates, List.filterMap_cons, returned] <;> exact inductionHypothesis _

/-- A call that changes notifications, as its reply came back: the updates
its thread then makes.  `add` and `delete` are the single calls, whose reply
carried the handle or was `Ok`; `addMulti` and `deleteMulti` the sum-up calls,
with their requests as the reply filled them. -/
inductive HandleCall where
  | add (addr : AmsAddr) (handle : Nat)
  | addMulti (addr : AmsAddr) (after : List AddNotifRequest)
  | delete (addr : AmsAddr) (handle : Nat)
  | deleteMulti (addr : AmsAddr) (after : List DelNotifRequest)

/-- The updates a call makes after its reply, in order. -/
def HandleCall.updates : HandleCall → List Update
  | add addr handle => [.insert (addr, handle)]
  | addMulti addr after => addUpdates addr after
  | delete addr handle => [.erase (addr, handle)]
  | deleteMulti addr after => dropUpdates addr after

/-- Whether a server with live handles `server` can confirm an update: an add
gets a handle that is not live (it may be one deleted before), and a delete
removes a live one. -/
def Update.confirmable (server : HandleSet) : Update → Bool
  | insert entry => decide (entry ∉ server)
  | erase entry => decide (entry ∈ server)

/-- What a server confirms for one call: each update confirmable, each pair once. -/
def Confirmable (server : HandleSet) (updates : List Update) : Prop :=
  (updates.map Update.entry).Nodup ∧ ∀ update ∈ updates, update.confirmable server = true

instance (server : HandleSet) (updates : List Update) : Decidable (Confirmable server updates) :=
  instDecidableAnd

/-! ## The system -/

/-- The server's live handles, the client's `notif_handles`, the pairs the
server confirmed and nobody drained (`expected`), the updates the threads
have still to make, in the order the server confirmed them, each with its
call, and the updates of the calls whose thread will never make them
(`lost`). -/
structure World where
  server : HandleSet
  notifHandles : HandleSet
  expected : HandleSet
  pending : List (Nat × Update)
  lost : List Update

def World.init : World := ⟨∅, ∅, ∅, [], []⟩

/-- The first update call `call` has still to make, and the others. -/
def popFirst (call : Nat) : List (Nat × Update) → Option (Update × List (Nat × Update))
  | [] => none
  | (other, update) :: rest =>
    if other = call then some (update, rest)
    else (popFirst call rest).map fun (next, rest') => (next, (other, update) :: rest')

/-- The steps of the system: the server processes a call whose thread then
waits on the lock (`serve`), or one whose reply comes back after the read
timeout, so that `communicate` returns `Err` and the thread makes no update
(`lose`); a call makes its next update under the lock (`update`); and
`Client::purge` or the first step of `Client::shutdown` (`drain`). -/
inductive HandleAction where
  | serve (call : Nat) (request : HandleCall)
  | lose (request : HandleCall)
  | update (call : Nat)
  | drain

def World.step (w : World) : HandleAction → Option World
  | .serve call request =>
    if w.pending.all (·.1 ≠ call) ∧ Confirmable w.server request.updates then
      some { w with
        server := applyAll request.updates w.server
        expected := applyAll request.updates w.expected
        pending := w.pending ++ request.updates.map (call, ·) }
    else none
  | .lose request =>
    if Confirmable w.server request.updates then
      some { w with
        server := applyAll request.updates w.server
        expected := applyAll request.updates w.expected
        lost := w.lost ++ request.updates }
    else none
  | .update call =>
    match popFirst call w.pending with
    | some (update, rest) => some { w with notifHandles := update.apply w.notifHandles, pending := rest }
    | none => none
  | .drain => some { w with expected := w.expected \ w.notifHandles, notifHandles := ∅ }

def World.run (w : World) : List HandleAction → Option World
  | [] => some w
  | action :: rest => (w.step action).bind (·.run rest)

/-- No call is between the server's processing and its last update. -/
def World.Quiet (w : World) : Prop := w.pending = []

theorem World.step_serve {w next : World} {call : Nat} {request : HandleCall}
    (stepped : w.step (.serve call request) = some next) :
    (w.pending.all (·.1 ≠ call) ∧ Confirmable w.server request.updates) ∧
      next = { w with
        server := applyAll request.updates w.server
        expected := applyAll request.updates w.expected
        pending := w.pending ++ request.updates.map (call, ·) } := by
  simp only [World.step] at stepped
  split_ifs at stepped with allowed
  exact ⟨allowed, (Option.some.inj stepped).symm⟩

theorem World.step_lose {w next : World} {request : HandleCall}
    (stepped : w.step (.lose request) = some next) :
    Confirmable w.server request.updates ∧
      next = { w with
        server := applyAll request.updates w.server
        expected := applyAll request.updates w.expected
        lost := w.lost ++ request.updates } := by
  simp only [World.step] at stepped
  split_ifs at stepped with allowed
  exact ⟨allowed, (Option.some.inj stepped).symm⟩

theorem World.step_update {w next : World} {call : Nat} (stepped : w.step (.update call) = some next) :
    ∃ update rest, popFirst call w.pending = some (update, rest) ∧
      next = { w with notifHandles := update.apply w.notifHandles, pending := rest } := by
  simp only [World.step] at stepped
  split at stepped
  · exact ⟨_, _, ‹_›, (Option.some.inj stepped).symm⟩
  · cases stepped

/-! ## Overlapping calls on one handle -/

def sampleNotifDevice : AmsAddr := sampleDevice

/-- Three calls on one handle: an add that completes, then a delete whose
update waits while the server gives the same handle to a new add. -/
def reuseRace : List HandleAction :=
  [.serve 0 (.add sampleNotifDevice 7), .update 0, .serve 1 (.delete sampleNotifDevice 7),
    .serve 2 (.add sampleNotifDevice 7), .update 2, .update 1]

theorem handle_reuse_race :
    ∃ w, World.init.run reuseRace = some w ∧ w.Quiet ∧ w.notifHandles ≠ w.expected ∧
      w.notifHandles = ∅ ∧ w.expected = {(sampleNotifDevice, 7)} ∧
      w.server = {(sampleNotifDevice, 7)} := by
  refine ⟨_, rfl, rfl, ?_, rfl, rfl, rfl⟩
  decide

/-! ## Updates on different pairs -/

def Update.inserts : Update → Bool
  | insert _ => true
  | erase _ => false

theorem Update.mem_apply_of_ne {update : Update} {entry : AmsAddr × Nat} (other : entry ≠ update.entry)
    (handles : HandleSet) : entry ∈ update.apply handles ↔ entry ∈ handles := by
  cases update <;> simp_all [Update.apply, Update.entry]

theorem Update.mem_apply_self (update : Update) (handles : HandleSet) :
    update.entry ∈ update.apply handles ↔ update.inserts = true := by
  cases update <;> simp [Update.apply, Update.entry, Update.inserts]

/-- Updates on different pairs commute. -/
theorem Update.apply_comm {first second : Update} (different : first.entry ≠ second.entry)
    (handles : HandleSet) :
    first.apply (second.apply handles) = second.apply (first.apply handles) := by
  ext entry
  by_cases onFirst : entry = first.entry
  · subst onFirst
    rw [Update.mem_apply_self, Update.mem_apply_of_ne different, Update.mem_apply_self]
  · by_cases onSecond : entry = second.entry
    · subst onSecond
      rw [Update.mem_apply_of_ne (Ne.symm different), Update.mem_apply_self, Update.mem_apply_self]
    · simp only [Update.mem_apply_of_ne onFirst, Update.mem_apply_of_ne onSecond]

theorem mem_applyAll_of_not_mem {entry : AmsAddr × Nat} {updates : List Update}
    (absent : entry ∉ updates.map Update.entry) (handles : HandleSet) :
    entry ∈ applyAll updates handles ↔ entry ∈ handles := by
  induction updates generalizing handles with
  | nil => rfl
  | cons first rest inductionHypothesis =>
    simp only [List.map_cons, List.mem_cons, not_or] at absent
    rw [applyAll_cons, inductionHypothesis absent.2, Update.mem_apply_of_ne absent.1]

/-- Among updates on different pairs, the one on a pair decides whether the
pair is in the set afterwards. -/
theorem mem_applyAll_of_mem {update : Update} {updates : List Update}
    (distinct : (updates.map Update.entry).Nodup) (member : update ∈ updates) (handles : HandleSet) :
    update.entry ∈ applyAll updates handles ↔ update.inserts = true := by
  induction updates generalizing handles with
  | nil => cases member
  | cons first rest inductionHypothesis =>
    rw [List.map_cons, List.nodup_cons] at distinct
    rw [applyAll_cons]
    rcases List.mem_cons.mp member with rfl | later
    · rw [mem_applyAll_of_not_mem distinct.1, Update.mem_apply_self]
    · exact inductionHypothesis distinct.2 later _

/-- The updates still pending, made on an empty set, give what they give on the
set less the set, when none of them inserts a pair already there. -/
theorem applyAll_empty {updates : List Update} (distinct : (updates.map Update.entry).Nodup)
    {handles : HandleSet} (fresh : ∀ update ∈ updates, update.inserts = true → update.entry ∉ handles) :
    applyAll updates ∅ = applyAll updates handles \ handles := by
  ext entry
  rw [Finset.mem_sdiff]
  by_cases onUpdate : entry ∈ updates.map Update.entry
  · obtain ⟨update, member, rfl⟩ := List.mem_map.mp onUpdate
    rw [mem_applyAll_of_mem distinct member, mem_applyAll_of_mem distinct member]
    constructor
    · exact fun inserted => ⟨inserted, fresh update member inserted⟩
    · exact And.left
  · rw [mem_applyAll_of_not_mem onUpdate, mem_applyAll_of_not_mem onUpdate]
    simp

theorem popFirst_eq_some {call : Nat} {update : Update} {pending rest : List (Nat × Update)}
    (popped : popFirst call pending = some (update, rest)) :
    ∃ front back, pending = front ++ (call, update) :: back ∧ rest = front ++ back := by
  induction pending generalizing rest with
  | nil => cases popped
  | cons first others inductionHypothesis =>
    obtain ⟨other, value⟩ := first
    unfold popFirst at popped
    split_ifs at popped with same
    · cases popped
      subst same
      exact ⟨[], others, rfl, rfl⟩
    · obtain ⟨⟨next, rest'⟩, found, popped⟩ := Option.map_eq_some'.mp popped
      cases popped
      obtain ⟨front, back, rfl, rfl⟩ := inductionHypothesis found
      exact ⟨(other, value) :: front, back, rfl, rfl⟩

/-- Updates on different pairs may be made in any order. -/
theorem applyAll_perm {first second : List Update} (perm : first.Perm second)
    (distinct : (first.map Update.entry).Nodup) (handles : HandleSet) :
    applyAll first handles = applyAll second handles := by
  induction perm generalizing handles with
  | nil => rfl
  | cons update _ inductionHypothesis =>
    rw [List.map_cons, List.nodup_cons] at distinct
    exact inductionHypothesis distinct.2 _
  | swap first second rest =>
    rw [List.map_cons, List.map_cons, List.nodup_cons, List.mem_cons, not_or] at distinct
    rw [applyAll_cons, applyAll_cons, applyAll_cons, applyAll_cons, Update.apply_comm distinct.1.1]
  | trans firstPerm _ firstHypothesis secondHypothesis =>
    rw [firstHypothesis distinct, secondHypothesis ((firstPerm.map _).nodup_iff.mp distinct)]

/-! ## Runs in which calls on one pair do not overlap -/

/-- The updates the server confirmed that the client has not made: the
pending ones, then those of the lost calls. -/
def World.unmade (w : World) : List Update := w.pending.map Prod.snd ++ w.lost

/-- The server confirms nothing about a pair whose earlier confirmed update
the client has still to make, or will never make. -/
def World.Orderly (w : World) : HandleAction → Prop
  | .serve _ request | .lose request =>
    ∀ update ∈ request.updates, update.entry ∉ w.unmade.map Update.entry
  | _ => True

instance World.instDecidableOrderly (w : World) : (action : HandleAction) → Decidable (w.Orderly action)
  | .serve _ request | .lose request => inferInstanceAs (Decidable
      (∀ update ∈ request.updates, update.entry ∉ w.unmade.map Update.entry))
  | .update _ => instDecidableTrue
  | .drain => instDecidableTrue

def World.OrderlyRun : World → List HandleAction → Prop
  | _, [] => True
  | w, action :: rest => w.Orderly action ∧ ∀ next ∈ w.step action, next.OrderlyRun rest

instance World.instDecidableOrderlyRun : (w : World) → (actions : List HandleAction) →
    Decidable (w.OrderlyRun actions)
  | _, [] => instDecidableTrue
  | w, action :: rest =>
    have : ∀ next : World, Decidable (next.OrderlyRun rest) := fun next =>
      World.instDecidableOrderlyRun next rest
    inferInstanceAs (Decidable (w.Orderly action ∧ ∀ next ∈ w.step action, next.OrderlyRun rest))

/-- How `notif_handles` stands to `expected`: the updates not made are on
different pairs and make up the difference; an insert not made is of a live
pair not in the set, an erase not made of a pair no longer live; and every
pair in the set is live unless its erase is not made. -/
structure World.Agrees (w : World) : Prop where
  distinct : (w.unmade.map Update.entry).Nodup
  expected : w.expected = applyAll w.unmade w.notifHandles
  inserting : ∀ entry, Update.insert entry ∈ w.unmade → entry ∉ w.notifHandles ∧ entry ∈ w.server
  erasing : ∀ entry, Update.erase entry ∈ w.unmade → entry ∉ w.server
  recorded : ∀ entry ∈ w.notifHandles, entry ∈ w.server ∨ Update.erase entry ∈ w.unmade

theorem World.Agrees.init : World.init.Agrees :=
  ⟨List.nodup_nil, rfl, fun _ => nofun, fun _ => nofun,
    fun _ member => absurd member (Finset.not_mem_empty _)⟩

/-- A purge keeps the agreement: the inserts not made are of pairs not in the
drained set, so they give on the empty set what they add to `expected`. -/
theorem World.Agrees.drain {w next : World} (agrees : w.Agrees) (stepped : w.step .drain = some next) :
    next.Agrees := by
  cases stepped
  refine ⟨agrees.distinct, ?_, fun entry member => ⟨Finset.not_mem_empty _, ?_⟩,
    agrees.erasing, fun _ member => absurd member (Finset.not_mem_empty _)⟩
  · show w.expected \ w.notifHandles = applyAll w.unmade ∅
    rw [agrees.expected, applyAll_empty agrees.distinct]
    intro update member inserted
    cases update with
    | insert entry => exact (agrees.inserting entry member).1
    | erase entry => cases inserted
  · exact (agrees.inserting entry member).2

/-- Taking out the first pending update of a call leaves the updates not made
a reordering of it and the rest. -/
theorem World.unmade_perm_of_popFirst {w : World} {call : Nat} {update : Update}
    {rest : List (Nat × Update)} (popped : popFirst call w.pending = some (update, rest)) :
    w.unmade.Perm (update :: (rest.map Prod.snd ++ w.lost)) := by
  obtain ⟨front, back, split, rfl⟩ := popFirst_eq_some popped
  rw [World.unmade, split, List.map_append, List.map_cons, List.append_assoc, List.cons_append,
    List.map_append, List.append_assoc]
  exact List.perm_middle

/-- One update under the lock keeps the agreement: it is on a pair no other
update not made is about, so it may be made first. -/
theorem World.Agrees.update {w next : World} (agrees : w.Agrees) {call : Nat}
    (stepped : w.step (.update call) = some next) : next.Agrees := by
  obtain ⟨update, rest, popped, rfl⟩ := World.step_update stepped
  have perm := World.unmade_perm_of_popFirst popped
  have distinct := (perm.map Update.entry).nodup_iff.mp agrees.distinct
  rw [List.map_cons, List.nodup_cons] at distinct
  have other : ∀ entry, entry ∈ (rest.map Prod.snd ++ w.lost).map Update.entry → entry ≠ update.entry :=
    fun entry onRest same => distinct.1 (same ▸ onRest)
  have inUnmade : ∀ u ∈ rest.map Prod.snd ++ w.lost, u ∈ w.unmade := fun u member =>
    perm.mem_iff.mpr (List.mem_cons_of_mem _ member)
  refine ⟨distinct.2, ?_, fun entry member => ?_, fun entry member =>
    agrees.erasing entry (inUnmade _ member), fun entry member => ?_⟩
  · show w.expected = applyAll (rest.map Prod.snd ++ w.lost) (update.apply w.notifHandles)
    rw [agrees.expected, applyAll_perm perm agrees.distinct, applyAll_cons]
  · rw [Update.mem_apply_of_ne (other entry (List.mem_map.mpr ⟨_, member, rfl⟩))]
    exact agrees.inserting entry (inUnmade _ member)
  · by_cases same : entry = update.entry
    · subst same
      cases update with
      | insert entry => exact .inl (agrees.inserting entry (perm.mem_iff.mpr (List.mem_cons_self _ _))).2
      | erase entry => simp [Update.apply, Update.entry] at member
    · rw [Update.mem_apply_of_ne same] at member
      rcases agrees.recorded entry member with live | erasing
      · exact .inl live
      · rcases List.mem_cons.mp (perm.mem_iff.mp erasing) with popped | later
        · exact absurd (congrArg Update.entry popped) same
        · exact .inr later

/-- The server confirming updates on pairs no update not made is about keeps
the agreement, whether the call's thread will make them or not. -/
theorem World.Agrees.confirm {w next : World} (agrees : w.Agrees) {updates : List Update}
    (orderly : ∀ update ∈ updates, update.entry ∉ w.unmade.map Update.entry)
    (confirmable : Confirmable w.server updates)
    (server : next.server = applyAll updates w.server) (expected : next.expected = applyAll updates w.expected)
    (notifHandles : next.notifHandles = w.notifHandles) (unmade : next.unmade.Perm (w.unmade ++ updates)) :
    next.Agrees := by
  obtain ⟨distinct, confirmed⟩ := confirmable
  have untouched : ∀ update ∈ w.unmade, update.entry ∉ updates.map Update.entry :=
    fun update member onUpdates => by
      obtain ⟨other, otherMember, same⟩ := List.mem_map.mp onUpdates
      exact orderly other otherMember (same ▸ List.mem_map.mpr ⟨update, member, rfl⟩)
  have notLive : ∀ entry, Update.insert entry ∈ updates → entry ∉ w.server :=
    fun entry member => by simpa [Update.confirmable] using confirmed _ member
  have inNext : ∀ {update}, update ∈ next.unmade ↔ update ∈ w.unmade ∨ update ∈ updates := fun {_} =>
    unmade.mem_iff.trans List.mem_append
  have distinctAll : ((w.unmade ++ updates).map Update.entry).Nodup := by
    rw [List.map_append]
    refine List.nodup_append.mpr ⟨agrees.distinct, distinct, fun entry onUnmade onUpdates => ?_⟩
    obtain ⟨update, member, rfl⟩ := List.mem_map.mp onUnmade
    exact untouched update member onUpdates
  refine ⟨(unmade.map Update.entry).nodup_iff.mpr distinctAll, ?_, fun entry member => ?_,
    fun entry member => ?_, fun entry member => ?_⟩
  · rw [expected, notifHandles, agrees.expected, ← applyAll_append,
      applyAll_perm unmade.symm distinctAll]
  · rw [notifHandles, server]
    rcases inNext.mp member with old | new
    · exact ⟨(agrees.inserting entry old).1,
        (mem_applyAll_of_not_mem (untouched _ old) _).mpr (agrees.inserting entry old).2⟩
    · refine ⟨fun inSet => ?_, (mem_applyAll_of_mem distinct new _).mpr rfl⟩
      rcases agrees.recorded entry inSet with live | erasing
      · exact notLive entry new live
      · exact orderly _ new (List.mem_map.mpr ⟨_, erasing, rfl⟩)
  · rw [server]
    rcases inNext.mp member with old | new
    · exact fun live => agrees.erasing entry old ((mem_applyAll_of_not_mem (untouched _ old) _).mp live)
    · exact fun live => Bool.false_ne_true ((mem_applyAll_of_mem distinct new _).mp live)
  · rw [notifHandles] at member
    rw [server]
    rcases agrees.recorded entry member with live | erasing
    · by_cases onUpdate : entry ∈ updates.map Update.entry
      · obtain ⟨update, updateMember, rfl⟩ := List.mem_map.mp onUpdate
        cases update with
        | insert entry => exact absurd live (notLive entry updateMember)
        | erase entry => exact .inr (inNext.mpr (.inr updateMember))
      · exact .inl ((mem_applyAll_of_not_mem onUpdate _).mpr live)
    · exact .inr (inNext.mpr (.inl erasing))

/-- A served call's updates join the pending ones: the updates not made are
reordered with the lost ones last. -/
theorem World.unmade_perm_serve (w : World) (call : Nat) (updates : List Update) :
    ({ w with pending := w.pending ++ updates.map (call, ·) } : World).unmade.Perm (w.unmade ++ updates) := by
  simp only [World.unmade, List.map_append, List.map_map, Function.comp_def, List.map_id',
    List.append_assoc]
  exact List.perm_append_comm.append_left _

theorem World.Agrees.step {w next : World} (agrees : w.Agrees) {action : HandleAction}
    (orderly : w.Orderly action) (stepped : w.step action = some next) : next.Agrees := by
  cases action with
  | serve call request =>
    obtain ⟨⟨-, confirmable⟩, rfl⟩ := World.step_serve stepped
    exact agrees.confirm orderly confirmable rfl rfl rfl (World.unmade_perm_serve w call _)
  | lose request =>
    obtain ⟨confirmable, rfl⟩ := World.step_lose stepped
    exact agrees.confirm orderly confirmable rfl rfl rfl (by simp [World.unmade])
  | update call => exact agrees.update stepped
  | drain => exact agrees.drain stepped

theorem World.Agrees.run {actions : List HandleAction} {w next : World} (agrees : w.Agrees)
    (orderly : w.OrderlyRun actions) (ran : w.run actions = some next) : next.Agrees := by
  induction actions generalizing w with
  | nil =>
    cases ran
    exact agrees
  | cons action rest inductionHypothesis =>
    obtain ⟨middle, stepped, ran⟩ := Option.bind_eq_some.mp ran
    exact inductionHypothesis (agrees.step orderly.1 stepped) (orderly.2 middle stepped) ran

/-- In every run in which the server confirms nothing about a pair while an
update of it is pending or lost, whenever no call is in progress, `expected`
is `notif_handles` with the lost calls' updates made: each pair a lost add got
is live on the server and missing from `notif_handles`, so shutdown never
deletes it, and each pair a lost delete removed is no longer live. -/
theorem notifHandles_quiet (actions : List HandleAction) (w : World)
    (ran : World.init.run actions = some w) (orderly : World.init.OrderlyRun actions)
    (quiet : w.Quiet) :
    w.expected = applyAll w.lost w.notifHandles ∧
      (∀ entry, Update.insert entry ∈ w.lost → entry ∈ w.server ∧ entry ∉ w.notifHandles) ∧
      (∀ entry, Update.erase entry ∈ w.lost → entry ∉ w.server) := by
  have agrees := World.Agrees.init.run orderly ran
  have unmade : w.unmade = w.lost := by rw [World.unmade, quiet]; rfl
  refine ⟨by rw [agrees.expected, unmade], fun entry member => ?_, fun entry member => ?_⟩
  · rw [← unmade] at member
    exact (agrees.inserting entry member).symm
  · rw [← unmade] at member
    exact agrees.erasing entry member

/-- A run in which the reply to an add comes back after the read timeout,
beside an add and a delete that complete. -/
def lostAdd : List HandleAction :=
  [.serve 0 (.add sampleNotifDevice 7), .update 0, .lose (.add sampleNotifDevice 8),
    .serve 1 (.delete sampleNotifDevice 7), .update 1]

theorem notifHandles_quiet_lostAdd :
    ∃ w, World.init.run lostAdd = some w ∧ World.init.OrderlyRun lostAdd ∧ w.Quiet ∧
      w.lost = [.insert (sampleNotifDevice, 8)] ∧ w.notifHandles = ∅ ∧
      (sampleNotifDevice, 8) ∈ w.server ∧ (sampleNotifDevice, 8) ∉ w.notifHandles := by
  have orderly : World.init.OrderlyRun lostAdd := by decide
  obtain ⟨-, leaked, -⟩ := notifHandles_quiet lostAdd _ rfl orderly rfl
  exact ⟨_, rfl, orderly, rfl, rfl, rfl, leaked _ (List.mem_singleton_self _)⟩

end AdsClient
