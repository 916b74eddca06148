import Ghostlink.Relay.Requests

/-! What requests do to one another's waiters. In an orderly client every request that waits has
its own waiter registered, and every registered waiter is that of a request under way. The reader
keeps a client orderly; so do the requests, as long as no two of them overlap under one key. -/

namespace Ghostlink.Requests
open Collections Runs List Option Request
open Option (some)

/-- The keys that an ERROR packet refuses. A group creation in flight fails with every error of
a group operation. -/
def ErrorPacket.concerns (e : ErrorPacket) : Key → Prop
  | .attach channel => e.channel = some channel
  | .invite inviteId => e.invite = some inviteId
  | .group key => RelayClient.groupFault e ≠ none ∧
      ∃ group, e.group = some group ∧ ∃ type, key = futureKey type group
  | .create => RelayClient.groupFault e ≠ none
  | .event key => RelayClient.groupFault e ≠ none ∧ e.group = some key.1

/-- The keys of the operations on what an ERROR packet names. A group creation waits for a group
that has no name yet. -/
def ErrorPacket.names (e : ErrorPacket) : Key → Prop
  | .attach channel => e.channel = some channel
  | .invite inviteId => e.invite = some inviteId
  | .group key => ∃ group, e.group = some group ∧ ∃ type, key = futureKey type group
  | .create => False
  | .event key => e.group = some key.1

def Packet.answers : Packet → Key → Prop
  | .attached channel _, key => key = .attach channel
  | .inviteAnswer _ invite, key => key = .invite invite
  | .groupGranted _, key => key = .create
  | .groupAttested group, key => key = .group (futureKey .groupAttest group)
  | .groupRoster group, key => key = .group (futureKey .groupState group)
  | .groupEvent group kind subject, key => key = .event (group, kind, subject)
  | .error e, key => RelayClient.isForwardError e = false ∧ e.concerns key

def Event.actor : Event → Option ℕ
  | .resume i _ => some i
  | .expire i => some i
  | .cancel i => some i
  | _ => none

lemma Request.complete_none (r : Request) : r.complete none = r := by
  obtain ⟨call, future, place⟩ := r
  cases future <;> rfl

lemma Request.complete_complete (r : Request) (x y) :
    (r.complete x).complete y = r.complete (x <|> y) := by
  obtain ⟨call, future, place⟩ := r
  cases future <;> rfl

lemma Request.future_complete (r : Request) (x) :
    (r.complete x).future = none ↔ r.future = none ∧ x = none := by
  obtain ⟨call, future, place⟩ := r
  cases future <;> simp [complete]

namespace RelayClient
variable {c c' c'' : RelayClient}

def Waits (c : RelayClient) (i : ℕ) (key : Key) : Prop :=
  ∃ r, c.requests[i]? = some r ∧ r.call.key = key ∧ r.place.live ∧ r.future = none

structure Undisturbed (repr : String → String) (c : RelayClient) (e : Event) : Prop where
  own : ∀ i key, (c.step repr e).Waits i key → (c.step repr e).registered key = some i
  /-- What a request does, its end and its timeout included, leaves the waiters of the others. -/
  others : ∀ i, e.actor = some i → ∀ j key, j ≠ i → c.registered key = some j →
    (c.step repr e).registered key = some j
  completed : ∀ packet, e = .receive packet → ∀ key, packet.answers key →
    (∃ i, c.Waits i key) →
    ∃ i r, c.Waits i key ∧ (c.step repr e).requests[i]? = some r ∧ r.future ≠ none

/-- A request that starts finds no other waiting under its key, and one that ends finds no other's
waiter there. A group creation needs no such care: it is refused while another's waiter is
registered, and removes only its own. -/
def Apart (repr : String → String) (c : RelayClient) : Event → Prop
  | .call call => c.refusal repr call = none → ∀ j, ¬ c.Waits j call.key
  | .resume i wake => ∀ r, c.requests[i]? = some r → r.conclusion wake ≠ none →
      r.call ≠ .groupCreate → ∀ j, c.registered r.call.key = some j → j = i
  | _ => True

/-- A request starts when all earlier ones under its key have ended. -/
def Spaced (repr : String → String) (c : RelayClient) : Event → Prop
  | .call call => c.refusal repr call = none → call ≠ .groupCreate →
      ∀ r ∈ c.requests, r.call.key = call.key → r.place.live = false
  | _ => True

structure Orderly (c : RelayClient) : Prop where
  live : ∀ i key, c.registered key = some i →
    ∃ r, c.requests[i]? = some r ∧ r.call.key = key ∧ r.place.live
  own : ∀ i key, c.Waits i key → c.registered key = some i

lemma orderly_start : start.Orderly where
  live := by
    intro i key found
    cases key <;> exact absurd found (some_ne_none i).symm
  own := by
    rintro i key ⟨r, found, -⟩
    exact absurd found (some_ne_none r).symm

section
variable (c)

lemma registered_register (key i key') :
    (c.register key i).registered key' = if key' = key then some i else c.registered key' := by
  cases key <;> cases key' <;> simp [register, registered, Dict.get?_set]

lemma registered_pop (key key') :
    (c.pop key).registered key' = if key' = key then none else c.registered key' := by
  cases key <;> cases key' <;> simp [pop, registered, Dict.get?_erase]

lemma requests_register (key i) : (c.register key i).requests = c.requests := by
  cases key <;> rfl

lemma requests_pop (key) : (c.pop key).requests = c.requests := by
  cases key <;> rfl

@[simp]
lemma registered_settle (i x) : (c.settle i x).registered = c.registered := by
  funext key
  cases key <;> rfl

lemma registered_of_requests (rs : List Request) :
    ({ c with requests := rs } : RelayClient).registered = c.registered := by
  funext key
  cases key <;> rfl

end

/-- From `c` to `c'` futures have been completed, all those waited for under the keys `ks` among
them, and an orderly client has stayed so. -/
structure Settles (c c' : RelayClient) (ks : Key → Prop) : Prop where
  requests : ∀ i : ℕ, ∃ x, c'.requests[i]? = c.requests[i]?.map fun r => r.complete x
  orderly : c.Orderly → c'.Orderly
  done : c.Orderly → ∀ key, ks key → ∀ i, ¬ c'.Waits i key

variable {i j : ℕ} {ks : Key → Prop} {r : Request} {call : Call} {e : Event}

lemma Waits.of_complete {key x}
    (same : c'.requests[i]? = c.requests[i]?.map fun r => r.complete x) (waits : c'.Waits i key) :
    c.Waits i key ∧ x = none := by
  obtain ⟨r', found', keyed, live, pending⟩ := waits
  rw [same, map_eq_some_iff] at found'
  obtain ⟨r, found, rfl⟩ := found'
  obtain ⟨pending, nothing⟩ := (r.future_complete x).mp pending
  exact ⟨⟨r, found, keyed, live, pending⟩, nothing⟩

lemma Settles.waits (settles : Settles c c' ks) {key} (waits : c'.Waits i key) : c.Waits i key := by
  obtain ⟨x, same⟩ := settles.requests i
  exact (Waits.of_complete same waits).1

lemma Settles.refl (c) : Settles c c fun _ => False where
  requests := fun i => ⟨none, by simp [complete_none]⟩
  orderly := id
  done := fun _ _ never => never.elim

variable {ks' : Key → Prop} (repr : String → String)

lemma Settles.trans (first : Settles c c' ks) (second : Settles c' c'' ks') :
    Settles c c'' fun key => ks key ∨ ks' key where
  requests := by
    intro i
    obtain ⟨x, same⟩ := first.requests i
    obtain ⟨y, same'⟩ := second.requests i
    refine ⟨x <|> y, ?_⟩
    rw [same', same, Option.map_map]
    congr 1
    funext r
    exact r.complete_complete x y
  orderly := fun ordered => second.orderly (first.orderly ordered)
  done := by
    rintro ordered key (now | later) i waits
    · exact first.done ordered key now i (second.waits waits)
    · exact second.done (first.orderly ordered) key later i waits

lemma Settles.mono (settles : Settles c c' ks)
    (fewer : ∀ key, ks' key → ks key) : Settles c c' ks' :=
  { settles with done := fun ordered key mem => settles.done ordered key (fewer key mem) }

lemma requests_settle (c : RelayClient) (i j : ℕ) (x : Completion) : (c.settle i x).requests[j]? =
      c.requests[j]?.map fun r => r.complete (if i = j then some x else none) := by
  rw [settle, getElem?_modify]
  by_cases same : i = j
  · simp only [if_pos same]
    rfl
  · simp [if_neg same, complete_none]

lemma Orderly.nobody (ordered : c.Orderly) {key} (nothing : c.registered key = none)
    (i) : ¬ c.Waits i key := by
  intro waits
  rw [ordered.own i key waits] at nothing
  exact some_ne_none i nothing

lemma settles_of_registered {key : Key} {x : Completion}
    (requests : ∀ j : ℕ, c'.requests[j]? = (c.settle i x).requests[j]?)
    (found : c.registered key = some i)
    (registered : ∀ key', c'.registered key' = c.registered key' ∨
      key' = key ∧ c'.registered key' = none) : Settles c c' (· = key) where
  requests := fun j => ⟨_, (requests j).trans (requests_settle c i j x)⟩
  orderly := by
    intro ordered
    constructor
    · intro j key' found'
      have before : c.registered key' = some j := by
        rcases registered key' with same | ⟨-, gone⟩
        · exact same ▸ found'
        · rw [gone] at found'
          exact absurd found' (some_ne_none j).symm
      obtain ⟨r, foundRequest, keyed, live⟩ := ordered.live j key' before
      refine ⟨r.complete (if i = j then some x else none), ?_, keyed, live⟩
      simp [requests j, requests_settle, foundRequest]
    · intro j key' waits
      obtain ⟨before, other⟩ := Waits.of_complete ((requests j).trans (requests_settle c i j x)) waits
      have ne : i ≠ j := by
        rintro rfl
        simp at other
      have own := ordered.own j key' before
      rcases registered key' with same | ⟨rfl, -⟩
      · exact same.trans own
      · exact absurd (some.inj (found.symm.trans own)) ne
  done := by
    rintro ordered key' rfl j waits
    obtain ⟨before, other⟩ := Waits.of_complete ((requests j).trans (requests_settle c i j x)) waits
    have own := ordered.own j key' before
    have same : i = j := some.inj (found.symm.trans own)
    simp [same] at other

section
variable (c)

lemma settles_unregistered {key} (nothing : c.registered key = none) : Settles c c (· = key) := by
  refine ⟨(Settles.refl c).requests, id, ?_⟩
  rintro ordered key' rfl i
  exact ordered.nobody nothing i

lemma settles_answer (key x) : Settles c (c.answer key x) (· = key) := by
  unfold answer
  split
  next nothing => exact settles_unregistered c nothing
  next i found =>
    apply settles_of_registered (fun _ => rfl) found
    intro key'
    left
    rw [registered_settle]

lemma settles_reject (key fault) :
    Settles c (c.reject key fault) (· = key) := by
  unfold reject
  split
  next nothing => exact settles_unregistered c nothing
  next i found =>
    refine settles_of_registered (x := .exception fault) (fun j => ?_) found ?_
    · rw [requests_settle, requests_settle, requests_pop]
    · intro key'
      rw [registered_settle, registered_pop]
      by_cases same : key' = key
      · exact .inr ⟨same, if_pos same⟩
      · exact .inl (if_neg same)

lemma settles_rejectEach (keys fault) :
    Settles c (c.rejectEach keys fault) (· ∈ keys) := by
  induction keys generalizing c with
  | nil => exact (Settles.refl c).mono (fun key mem => (not_mem_nil mem).elim)
  | cons key keys ih =>
    apply ((settles_reject c key fault).trans (ih (c.reject key fault))).mono
    intro key' mem
    exact mem_cons.mp mem

lemma settles_rejectGroupWaiters (group fault) :
    Settles c (c.rejectGroupWaiters group fault) fun key =>
      (∃ type, key = .group (futureKey type group)) ∨ ∃ event, key = .event event ∧ event.1 = group := by
  unfold rejectGroupWaiters
  extract_lets halfway
  have answers : Settles c halfway _ := settles_rejectEach c _ fault
  have waiters := settles_rejectEach halfway
    ((halfway.pendingGroupEvents.keys.filter (·.1 = group)).map .event) fault
  have both := answers.trans waiters
  refine ⟨both.requests, both.orderly, ?_⟩
  rintro ordered key (⟨type, rfl⟩ | ⟨event, rfl, ofGroup⟩) i waits
  · refine both.done ordered _ (.inl ?_) i waits
    cases type <;> simp
  · by_cases there : event ∈ halfway.pendingGroupEvents.keys
    · refine both.done ordered _ (.inr ?_) i waits
      exact mem_map_of_mem (mem_filter.mpr ⟨there, decide_eq_true ofGroup⟩)
    · -- nobody waited for an event that is not in the collection
      have nothing : halfway.registered (.event event) = none :=
        (Dict.get?_eq_none_iff _ event).mpr there
      exact (answers.orderly ordered).nobody nothing i (waiters.waits waits)

lemma settles_rejectPendingAttach (e : ErrorPacket) :
    Settles c (c.rejectPendingAttach e) fun key =>
      ∃ channel, key = .attach channel ∧ e.channel = some channel := by
  unfold rejectPendingAttach
  split
  next none_ => exact (Settles.refl c).mono (by simp [none_])
  next channel some_ =>
    apply (settles_reject c (.attach channel) _).mono
    rintro key ⟨channel', rfl, same⟩
    rw [some.inj (some_.symm.trans same)]

lemma settles_rejectPendingInvite (e : ErrorPacket) :
    Settles c (c.rejectPendingInvite e) fun key =>
      ∃ invite, key = .invite invite ∧ e.invite = some invite := by
  unfold rejectPendingInvite
  split
  next none_ => exact (Settles.refl c).mono (by simp [none_])
  next invite some_ =>
    apply (settles_reject c (.invite invite) _).mono
    rintro key ⟨invite', rfl, same⟩
    rw [some.inj (some_.symm.trans same)]

lemma settles_rejectPendingGroup (e : ErrorPacket) :
    Settles c (c.rejectPendingGroup e) fun key => groupFault e ≠ none ∧
      (key = .create ∨ ∃ group, e.group = some group ∧
        ((∃ type, key = .group (futureKey type group)) ∨
          ∃ event, key = .event event ∧ event.1 = group)) := by
  unfold rejectPendingGroup
  split
  next none_ => exact (Settles.refl c).mono (fun key mem => absurd none_ mem.1)
  next fault some_ =>
    split
    next ungrouped =>
      apply (settles_answer c .create _).mono
      rintro key ⟨-, creates | ⟨group, grouped, -⟩⟩
      · exact creates
      · rw [ungrouped] at grouped
        exact absurd grouped (some_ne_none group).symm
    next group grouped =>
      apply ((settles_rejectGroupWaiters c group fault).trans (settles_answer _ .create _)).mono
      rintro key ⟨-, creates | ⟨group', grouped', concerned⟩⟩
      · exact .inr creates
      · rw [some.inj (grouped.symm.trans grouped')]
        exact .inl concerned

lemma settles_receive (packet : Packet) :
    Settles c (c.receive packet) packet.answers := by
  cases packet with
  | attached | inviteAnswer | groupGranted | groupAttested => exact settles_answer c _ _
  | groupRoster => exact settles_answer c _ _
  | groupEvent => exact settles_answer c _ _
  | error e =>
    rw [receive]
    by_cases forward : isForwardError e
    · rw [if_pos forward]
      apply (Settles.refl c).mono
      rintro key ⟨unforwarded, -⟩
      rw [forward] at unforwarded
      exact Bool.noConfusion unforwarded
    · rw [if_neg forward]
      have attach := settles_rejectPendingAttach c e
      have invite := settles_rejectPendingInvite (c.rejectPendingAttach e) e
      have group := settles_rejectPendingGroup ((c.rejectPendingAttach e).rejectPendingInvite e) e
      apply ((attach.trans invite).trans group).mono
      rintro key ⟨-, concerned⟩
      cases key with
      | attach channel => exact .inl (.inl ⟨channel, rfl, concerned⟩)
      | invite inviteId => exact .inl (.inr ⟨inviteId, rfl, concerned⟩)
      | group =>
        obtain ⟨refused, g, grouped, type, same⟩ := concerned
        exact .inr ⟨refused, .inr ⟨g, grouped, .inl ⟨type, congrArg Key.group same⟩⟩⟩
      | create => exact .inr ⟨concerned, .inl rfl⟩
      | event key => exact .inr ⟨concerned.1, .inr ⟨key.1, concerned.2, .inr ⟨key, rfl, rfl⟩⟩⟩

end

lemma completed_receive (ordered : c.Orderly) {packet : Packet} {key}
    (answers : packet.answers key) (waits : c.Waits i key) :
    ∃ r, (c.receive packet).requests[i]? = some r ∧ r.future ≠ none := by
  have settles := settles_receive c packet
  have done := settles.done ordered key answers i
  obtain ⟨r, found, keyed, live, -⟩ := waits
  obtain ⟨x, same⟩ := settles.requests i
  rw [found] at same
  refine ⟨r.complete x, same, fun pending => done ?_⟩
  exact ⟨r.complete x, same, keyed, live, pending⟩

section
variable (c)

lemma requests_settleEach (is : List ℕ) (j) :
    ∃ x, (is.foldl (fun c i => c.settle i .cancelled) c).requests[j]? =
      c.requests[j]?.map (fun r => r.complete x) ∧ (j ∈ is → x ≠ none) := by
  induction is generalizing c with
  | nil => exact ⟨none, by simp [complete_none], by simp⟩
  | cons i is ih =>
    obtain ⟨x, same, cancelled⟩ := ih (c.settle i .cancelled)
    refine ⟨(if i = j then some .cancelled else none) <|> x, ?_, ?_⟩
    · rw [List.foldl_cons, same, requests_settle, Option.map_map]
      congr 1
      funext r
      exact r.complete_complete _ x
    · intro mem
      by_cases first : i = j
      · simp [first]
      · rw [if_neg first]
        exact cancelled ((mem_cons.mp mem).resolve_left (Ne.symm first))

lemma registered_settleEach (is : List ℕ) :
    (is.foldl (fun c i => c.settle i .cancelled) c).registered = c.registered := by
  induction is generalizing c with
  | nil => rfl
  | cons i is ih => rw [foldl_cons, ih, registered_settle]

lemma registered_disconnect (key) :
    c.disconnect.registered key = c.registered key ∨
      c.disconnect.registered key = none ∧ ∀ i, c.registered key = some i → i ∈ c.discarded := by
  have kept := congrFun (registered_settleEach c c.discarded) key
  cases key with
  | attach => exact .inl kept
  | create =>
    refine .inr ⟨rfl, fun i found => ?_⟩
    have value : i ∈ c.pendingGroupCreate.toList := mem_toList.mpr found
    simp [discarded, value]
  | invite key | group key | event key =>
    refine .inr ⟨rfl, fun i found => ?_⟩
    have value := (Dict.mem_values _ i).mpr ⟨key, found⟩
    simp [discarded, value]

end

lemma orderly_disconnect (ordered : c.Orderly) : c.disconnect.Orderly where
  live := by
    intro i key found
    have before : c.registered key = some i := by
      rcases registered_disconnect c key with same | ⟨gone, -⟩
      · exact same ▸ found
      · rw [gone] at found
        exact absurd found (some_ne_none i).symm
    obtain ⟨r, foundRequest, keyed, live⟩ := ordered.live i key before
    obtain ⟨x, same, -⟩ := requests_settleEach c c.discarded i
    rw [foundRequest] at same
    exact ⟨r.complete x, same, keyed, live⟩
  own := by
    intro i key waits
    obtain ⟨x, same, cancelled⟩ := requests_settleEach c c.discarded i
    have before : c.Waits i key ∧ x = none := Waits.of_complete same waits
    obtain ⟨before, pending⟩ := before
    have own := ordered.own i key before
    rcases registered_disconnect c key with kept | ⟨-, all⟩
    · exact kept.trans own
    · exact absurd pending (cancelled (all i own))

lemma requests_put (c : RelayClient) (found : c.requests[i]? = some r) (r' j) :
    (c.put i r').requests[j]? = if j = i then some r' else c.requests[j]? := by
  have bound := (List.getElem?_eq_some_iff.mp found).1
  rw [put, getElem?_set]
  by_cases same : i = j
  · subst same
    simp [bound]
  · rw [if_neg same, if_neg (Ne.symm same)]

lemma orderly_put (ordered : c.Orderly) {r' : Request}
    (found : c.requests[i]? = some r) (call : r'.call = r.call)
    (live : r'.place.live) (underWay : r.place.live)
    (future : r'.future = none → r.future = none) : (c.put i r').Orderly where
  live := by
    intro j key registered
    rw [put, registered_of_requests] at registered
    obtain ⟨q, foundRequest, keyed, qLive⟩ := ordered.live j key registered
    rw [requests_put c found]
    by_cases same : j = i
    · subst same
      cases found.symm.trans foundRequest
      exact ⟨r', if_pos rfl, call ▸ keyed, live⟩
    · exact ⟨q, (if_neg same).trans foundRequest, keyed, qLive⟩
  own := by
    rintro j key ⟨q, foundRequest, keyed, qLive, pending⟩
    rw [requests_put c found] at foundRequest
    rw [put, registered_of_requests]
    by_cases same : j = i
    · subst same
      cases (if_pos rfl).symm.trans foundRequest
      exact ordered.own j key ⟨r, found, call ▸ keyed, underWay, future pending⟩
    · exact ordered.own j key ⟨q, (if_neg same).symm.trans foundRequest, keyed, qLive, pending⟩

lemma orderly_interrupt (ordered : c.Orderly)
    (found : c.requests[i]? = some r) (cause) : (c.interrupt i r cause).Orderly := by
  unfold interrupt
  split
  next earlier waiting =>
    split
    · exact ordered
    · refine orderly_put ordered found ?_ ?_ ?_ ?_
      · rfl
      · rfl
      · rw [waiting]
        rfl
      · intro pending
        exact ((r.future_complete _).mp pending).1
  next => exact ordered

section
variable (c)

lemma registered_interrupt (i : ℕ) (r : Request) (cause : Interrupt) :
    (c.interrupt i r cause).registered = c.registered := by
  unfold interrupt
  split
  · split
    · rfl
    · exact registered_of_requests c _
  · rfl

lemma registered_recordAttachment (call outcome) :
    (c.recordAttachment call outcome).registered = c.registered := by
  unfold recordAttachment
  split
  · funext key
    cases key <;> rfl
  · rfl

lemma requests_recordAttachment (call outcome) :
    (c.recordAttachment call outcome).requests = c.requests := by
  unfold recordAttachment
  split <;> rfl

lemma requests_unregister (i call) :
    (c.unregister i call).requests = c.requests := by
  unfold unregister
  split
  · rfl
  · exact requests_pop c call.key

lemma registered_unregister_ne (i) {key}
    (other : key ≠ call.key) : (c.unregister i call).registered key = c.registered key := by
  unfold unregister
  split
  · rfl
  · rw [registered_pop, if_neg other]

lemma registered_unregister (i) (call : Call) :
    (c.unregister i call).registered call.key = none ∨
      call = .groupCreate ∧ c.registered call.key ≠ some i ∧
        (c.unregister i call).registered call.key = c.registered call.key := by
  unfold unregister
  split
  next foreign =>
    obtain ⟨rfl, another⟩ := foreign
    exact .inr ⟨rfl, another, rfl⟩
  next =>
    left
    rw [registered_pop, if_pos rfl]

lemma registered_finish (i : ℕ) (r : Request) (outcome : Outcome) :
    (c.finish i r outcome).registered = (c.unregister i r.call).registered := by
  rw [finish, put, registered_of_requests, registered_recordAttachment]

lemma requests_finish (found : c.requests[i]? = some r) (outcome j) :
    (c.finish i r outcome).requests[j]? =
      if j = i then some { r with place := .ended outcome } else c.requests[j]? := by
  have same : ((c.unregister i r.call).recordAttachment r.call outcome).requests = c.requests := by
    rw [requests_recordAttachment, requests_unregister]
  rw [finish, requests_put _ (same ▸ found), same]

end

lemma registered_finish_of_ne (outcome)
    (apart : r.call ≠ .groupCreate → ∀ j, c.registered r.call.key = some j → j = i)
    {j key} (other : j ≠ i) (found : c.registered key = some j) :
    (c.finish i r outcome).registered key = some j := by
  rw [registered_finish]
  by_cases same : key = r.call.key
  · subst same
    -- only a group creation finds another's waiter
    have creates : r.call = .groupCreate := by
      by_contra notCreate
      exact other (apart notCreate j found)
    have foreign : c.pendingGroupCreate ≠ some i := by
      intro own
      rw [creates] at found
      exact other (some.inj (found.symm.trans own))
    rwa [unregister, if_pos ⟨creates, foreign⟩]
  · rwa [registered_unregister_ne c i same]

lemma orderly_finish (ordered : c.Orderly) (found : c.requests[i]? = some r) (outcome)
    (apart : r.call ≠ .groupCreate → ∀ j, c.registered r.call.key = some j → j = i) :
    (c.finish i r outcome).Orderly where
  live := by
    intro j key registered
    rw [registered_finish] at registered
    have before : c.registered key = some j ∧ j ≠ i := by
      by_cases same : key = r.call.key
      · subst same
        rcases registered_unregister c i r.call with gone | ⟨-, foreign, kept⟩
        · rw [gone] at registered
          exact absurd registered (some_ne_none j).symm
        · rw [kept] at registered
          refine ⟨registered, ?_⟩
          rintro rfl
          exact foreign registered
      · rw [registered_unregister_ne c i same] at registered
        refine ⟨registered, ?_⟩
        -- the request's own waiter is under its own key
        rintro rfl
        obtain ⟨q, foundRequest, keyed, -⟩ := ordered.live j key registered
        rw [some.inj (found.symm.trans foundRequest)] at same
        exact same keyed.symm
    obtain ⟨q, foundRequest, keyed, live⟩ := ordered.live j key before.1
    exact ⟨q, by rw [requests_finish c found, if_neg before.2, foundRequest], keyed, live⟩
  own := by
    rintro j key ⟨q, foundRequest, keyed, live, pending⟩
    rw [requests_finish c found] at foundRequest
    by_cases same : j = i
    · rw [if_pos same] at foundRequest
      cases foundRequest
      exact Bool.noConfusion live
    · rw [if_neg same] at foundRequest
      have own := ordered.own j key ⟨q, foundRequest, keyed, live, pending⟩
      exact registered_finish_of_ne outcome apart same own

lemma orderly_proceed (ordered : c.Orderly) (found : c.requests[i]? = some r) {wake}
    (apart : r.conclusion wake ≠ none → r.call ≠ .groupCreate →
      ∀ j, c.registered r.call.key = some j → j = i) : (c.proceed i r wake).Orderly := by
  unfold proceed
  split
  next outcome ends =>
    exact orderly_finish ordered found outcome (apart (by simp [ends]))
  next =>
    split
    next sent =>
      refine orderly_put ordered found ?_ ?_ ?_ id
      · rfl
      · rfl
      · rw [sent.1]
        rfl
    next => exact ordered

lemma getElem?_concat (rs : List Request) (r i) :
    (rs ++ [r])[i]? = if i = rs.length then some r else rs[i]? := by
  by_cases last : i = rs.length
  · subst last
    simp
  · rw [if_neg last]
    rcases Nat.lt_or_gt_of_ne last with before | after
    · exact getElem?_append_left before
    · rw [getElem?_eq_none (by simp; omega), getElem?_eq_none after.le]

lemma Orderly.lt_length (ordered : c.Orderly) {key}
    (registered : c.registered key = some i) : i < c.requests.length := by
  obtain ⟨r, found, -⟩ := ordered.live i key registered
  exact (List.getElem?_eq_some_iff.mp found).1

lemma Waits.lt_length {key} (waits : c.Waits i key) : i < c.requests.length := by
  obtain ⟨r, found, -⟩ := waits
  exact (List.getElem?_eq_some_iff.mp found).1

lemma registered_begin (c : RelayClient) (accepted : c.refusal repr call = none) (key : Key) :
    (c.begin repr call).registered key =
      if key = call.key then some c.requests.length else c.registered key := by
  rw [begin, accepted]
  exact (registered_register _ call.key _ key).trans (by rw [registered_of_requests])

lemma requests_begin (c : RelayClient) (accepted : c.refusal repr call = none) :
    (c.begin repr call).requests = c.requests ++ [⟨call, none, firstPlace call⟩] := by
  rw [begin, accepted]
  exact requests_register _ call.key _

lemma waits_begin (call) {key} (waits : c.Waits i key) : (c.begin repr call).Waits i key := by
  have bound := waits.lt_length
  obtain ⟨r, found, rest⟩ := waits
  refine ⟨r, ?_, rest⟩
  cases asked : c.refusal repr call with
  | none => rw [requests_begin repr c asked, getElem?_append_left bound, found]
  | some =>
    rw [begin, asked]
    exact (getElem?_append_left bound).trans found

lemma orderly_begin (ordered : c.Orderly)
    (apart : c.refusal repr call = none → ∀ j, ¬ c.Waits j call.key) :
    (c.begin repr call).Orderly := by
  cases asked : c.refusal repr call with
  | some =>
    rw [begin, asked]
    constructor
    · intro i key registered
      rw [registered_of_requests] at registered
      obtain ⟨r, found, keyed, live⟩ := ordered.live i key registered
      exact ⟨r, (getElem?_append_left (ordered.lt_length registered)).trans found, keyed, live⟩
    · rintro i key ⟨r, found, keyed, live, pending⟩
      rw [registered_of_requests]
      rw [getElem?_concat] at found
      by_cases last : i = c.requests.length
      · rw [if_pos last] at found
        cases found
        exact Bool.noConfusion live
      · rw [if_neg last] at found
        exact ordered.own i key ⟨r, found, keyed, live, pending⟩
  | none =>
    constructor
    · intro i key registered
      rw [registered_begin repr c asked] at registered
      rw [requests_begin repr c asked, getElem?_concat]
      by_cases same : key = call.key
      · rw [if_pos same] at registered
        refine ⟨_, if_pos (some.inj registered).symm, same.symm, ?_⟩
        cases call <;> rfl
      · rw [if_neg same] at registered
        obtain ⟨r, found, keyed, live⟩ := ordered.live i key registered
        exact ⟨r, (if_neg (ordered.lt_length registered).ne).trans found, keyed, live⟩
    · rintro i key ⟨r, found, keyed, live, pending⟩
      rw [requests_begin repr c asked, getElem?_concat] at found
      rw [registered_begin repr c asked]
      by_cases last : i = c.requests.length
      · rw [if_pos last] at found
        cases found
        rw [if_pos keyed.symm, last]
      · rw [if_neg last] at found
        have waits : c.Waits i key := ⟨r, found, keyed, live, pending⟩
        have other : key ≠ call.key := by
          rintro rfl
          exact apart asked i waits
        rw [if_neg other]
        exact ordered.own i key waits

lemma registered_link (c : RelayClient) (state : Connection.ConnectionState) (usable : Bool) :
    ({ c with state, isUsable := usable } : RelayClient).registered = c.registered := by
  funext key
  cases key <;> rfl

lemma orderly_step (ordered : c.Orderly) (apart : Apart repr c e) : (c.step repr e).Orderly := by
  cases e with
  | call => exact orderly_begin repr ordered apart
  | resume i =>
    rw [step]
    cases found : c.requests[i]? with
    | none => exact ordered
    | some r => exact orderly_proceed ordered found (apart r found)
  | expire i | cancel i =>
    rw [step]
    cases found : c.requests[i]? with
    | none => exact ordered
    | some => exact orderly_interrupt ordered found _
  | receive packet => exact (settles_receive c packet).orderly ordered
  | disconnect => exact orderly_disconnect ordered
  | link state usable =>
    have same := registered_link c state usable
    refine ⟨fun i key registered => ordered.live i key ?_, fun i key waits => ?_⟩
    · exact (congrFun same key).symm.trans registered
    · exact (congrFun same key).trans (ordered.own i key waits)

lemma others_step (apart : Apart repr c e)
    (acts : e.actor = some i) {j : ℕ} {key : Key} (other : j ≠ i)
    (registered : c.registered key = some j) : (c.step repr e).registered key = some j := by
  cases e with
  | resume k wake =>
    obtain rfl := some.inj acts
    rw [step]
    cases found : c.requests[k]? with
    | none => exact registered
    | some r =>
      change (c.proceed k r wake).registered key = some j
      unfold proceed
      split
      next outcome ends =>
        exact registered_finish_of_ne outcome (apart r found (by simp [ends])) other registered
      next =>
        split
        · rwa [put, registered_of_requests]
        · exact registered
  | expire k | cancel k =>
    rw [step]
    cases found : c.requests[k]? with
    | none => exact registered
    | some r => exact (congrFun (registered_interrupt c k r _) key).trans registered
  | call | receive | disconnect | link => exact absurd acts (some_ne_none i).symm

lemma undisturbed_of_apart (ordered : c.Orderly)
    (apart : Apart repr c e) : Undisturbed repr c e where
  own := (orderly_step repr ordered apart).own
  others := fun _ acts _ _ other registered => others_step repr apart acts other registered
  completed := by
    rintro packet rfl key answers ⟨i, waits⟩
    obtain ⟨r, found, done⟩ := completed_receive ordered answers waits
    exact ⟨i, r, waits, found, done⟩

lemma apart_of_undisturbed (undisturbed : Undisturbed repr c e) : Apart repr c e := by
  cases e with
  | call call =>
    -- a waiter that the new one has replaced would still be waited for
    intro accepted j waits
    have own := undisturbed.own j call.key (waits_begin repr call waits)
    have new := (registered_begin repr c accepted call.key).trans (if_pos rfl)
    have same := some.inj (new.symm.trans own)
    exact absurd same waits.lt_length.ne'
  | resume i wake =>
    intro r found ends notCreate j registered
    by_contra other
    have kept := undisturbed.others i rfl j r.call.key other registered
    rw [step, found] at kept
    obtain ⟨outcome, ends⟩ := ne_none_iff_exists'.mp ends
    change (c.proceed i r wake).registered r.call.key = some j at kept
    rw [proceed, ends] at kept
    rw [registered_finish] at kept
    rcases registered_unregister c i r.call with gone | ⟨creates, -⟩
    · exact some_ne_none j (kept.symm.trans gone)
    · exact notCreate creates
  | expire | cancel | receive | disconnect | link => trivial

def Live (c : RelayClient) (i : ℕ) (call : Call) : Prop :=
  ∃ r, c.requests[i]? = some r ∧ r.call = call ∧ r.place.live

lemma live_of_put {k} {q q' : Request} (held : c.requests[k]? = some q)
    (live : (c.put k q').Live i call) (same : q'.call = q.call)
    (before : q'.place.live → q.place.live) : c.Live i call := by
  obtain ⟨r, found, calls, live⟩ := live
  rw [requests_put c held] at found
  split_ifs at found with here
  · cases found
    exact ⟨q, here ▸ held, same.symm.trans calls, before live⟩
  · exact ⟨r, found, calls, live⟩

lemma live_of_complete {x} (same : c'.requests[i]? = c.requests[i]?.map fun r => r.complete x)
    (live : c'.Live i call) : c.Live i call := by
  obtain ⟨r, found, calls, live⟩ := live
  obtain ⟨q, held, rfl⟩ := map_eq_some_iff.mp (same.symm.trans found)
  exact ⟨q, held, calls, live⟩

lemma live_of_proceed (held : c.requests[j]? = some r) {wake}
    (live : (c.proceed j r wake).Live i call) : c.Live i call := by
  unfold proceed at live
  split at live
  · obtain ⟨q, found, calls, live⟩ := live
    rw [requests_finish c held] at found
    split_ifs at found
    · cases found
      exact Bool.noConfusion live
    · exact ⟨q, found, calls, live⟩
  · split at live
    next sent => exact live_of_put held live rfl fun _ => by rw [sent.1]; rfl
    next => exact live

lemma live_of_interrupt (held : c.requests[j]? = some r) {cause}
    (live : (c.interrupt j r cause).Live i call) : c.Live i call := by
  unfold interrupt at live
  split at live
  next waiting =>
    split at live
    · exact live
    · exact live_of_put held live rfl fun _ => by rw [waiting]; rfl
  next => exact live

lemma live_of_begin {call'} (live : (c.begin repr call').Live i call) : c.Live i call ∨
      i = c.requests.length ∧ call' = call ∧ c.refusal repr call' = none := by
  obtain ⟨r, found, calls, live⟩ := live
  unfold begin at found
  split at found
  · rw [getElem?_concat] at found
    split_ifs at found
    · cases found
      exact Bool.noConfusion live
    · exact .inl ⟨r, found, calls, live⟩
  next accepted =>
    rw [requests_register, getElem?_concat] at found
    split_ifs at found with last
    · cases found
      exact .inr ⟨last, calls, accepted⟩
    · exact .inl ⟨r, found, calls, live⟩

lemma live_of_step (live : (c.step repr e).Live i call) : c.Live i call ∨
      i = c.requests.length ∧ e = .call call ∧ c.refusal repr call = none := by
  cases e with
  | call =>
    refine (live_of_begin repr live).imp_right ?_
    rintro ⟨last, rfl, accepted⟩
    exact ⟨last, rfl, accepted⟩
  | resume k wake =>
    rw [step] at live
    cases held : c.requests[k]? with
    | none => exact .inl (by rwa [held] at live)
    | some r => exact .inl (live_of_proceed held (by rwa [held] at live))
  | expire k | cancel k =>
    rw [step] at live
    cases held : c.requests[k]? with
    | none => exact .inl (by rwa [held] at live)
    | some r => exact .inl (live_of_interrupt held (by rwa [held] at live))
  | receive packet =>
    obtain ⟨x, same⟩ := (settles_receive c packet).requests i
    exact .inl (live_of_complete same live)
  | disconnect =>
    obtain ⟨x, same, -⟩ := requests_settleEach c c.discarded i
    exact .inl (live_of_complete same live)
  | link => exact .inl live

/-- No two requests under way share a key, group creations apart. -/
def Alone (c : RelayClient) : Prop :=
  ∀ i j call call', c.Live i call → c.Live j call' → call ≠ .groupCreate →
    call.key = call'.key → i = j

lemma Spaced.not_live (spaced : Spaced repr c (.call call)) (accepted : c.refusal repr call = none)
    (other : call ≠ .groupCreate) {call'} (same : call'.key = call.key) (j) : ¬ c.Live j call' := by
  rintro ⟨q, held, rfl, live⟩
  have ended := spaced accepted other q (mem_of_getElem? held) same
  exact absurd (ended.symm.trans live) Bool.false_ne_true

lemma Alone.step (alone : c.Alone) (spaced : Spaced repr c e) : (c.step repr e).Alone := by
  intro i j call call' live live' other same
  have other' : call' ≠ .groupCreate := by
    rintro rfl
    cases call <;> first | exact other rfl | cases same
  rcases live_of_step repr live with before | ⟨last, rfl, accepted⟩ <;>
    rcases live_of_step repr live' with before' | ⟨last', new, accepted'⟩
  · exact alone i j call call' before before' other same
  · subst new
    exact (spaced.not_live repr accepted' other' same i before).elim
  · exact (spaced.not_live repr accepted other same.symm j before').elim
  · rw [last, last']

lemma live_of_conclusion {wake} (h : r.conclusion wake ≠ none) : r.place.live := by
  unfold conclusion at h
  cases place : r.place with
  | ended => simp [place] at h
  | sending | waiting => rfl

lemma apart_of_spaced (ordered : c.Orderly) (alone : c.Alone) (spaced : Spaced repr c e) :
    Apart repr c e := by
  cases e with
  | call call =>
    intro accepted j waits
    by_cases creates : call = .groupCreate
    · -- a creation is refused while another's waiter is registered
      subst creates
      have own : c.pendingGroupCreate = some j := ordered.own j _ waits
      simp only [refusal, own, isSome_some, if_true] at accepted
      split_ifs at accepted
    · obtain ⟨q, held, same, live, -⟩ := waits
      exact spaced.not_live repr accepted creates same j ⟨q, held, rfl, live⟩
  | resume i wake =>
    intro r found ends other j registered
    obtain ⟨q, held, keyed, live⟩ := ordered.live j _ registered
    exact (alone i j r.call q.call ⟨r, found, rfl, live_of_conclusion ends⟩ ⟨q, held, rfl, live⟩
      other keyed.symm).symm
  | expire | cancel | receive | disconnect | link => trivial

/-- Requests do not disturb each other exactly as long as no two of them overlap under one key: a
request starts when none waits there, and ends when no other's waiter is registered there. That
is so if every request, group creations apart, starts when the earlier ones under its key have
ended. -/
theorem requests_undisturbed_iff (repr : String → String) (events : List Event) :
    ((∀ past e, past ++ [e] <+: events → Undisturbed repr (run repr past) e) ↔
      Along (step repr) (Apart repr) start events) ∧
    (Along (step repr) (Spaced repr) start events →
      Along (step repr) (Apart repr) start events) := by
  have agree (c : RelayClient) (e : Event) (ordered : c.Orderly) :
      Apart repr c e ↔ Undisturbed repr c e :=
    ⟨undisturbed_of_apart repr ordered, apart_of_undisturbed repr⟩
  have keep (c : RelayClient) (e : Event) (ordered : c.Orderly) (apart : Apart repr c e) :
      (c.step repr e).Orderly := orderly_step repr ordered apart
  refine ⟨?_, fun spaced => ?_⟩
  · rw [along_congr orderly_start keep agree]
    exact (along_iff_forall_step events).symm
  · have both : Along (step repr) (fun c e => Spaced repr c e ∧ Apart repr c e) start events := by
      refine (along_congr (J := fun c => c.Orderly ∧ c.Alone)
        ⟨orderly_start, by rintro i j _ _ ⟨r, ⟨⟩, -⟩⟩ ?_ ?_).mp spaced
      · exact fun c e kept spaced =>
          ⟨keep c e kept.1 (apart_of_spaced repr kept.1 kept.2 spaced), kept.2.step repr spaced⟩
      · exact fun c e kept =>
          ⟨fun spaced => ⟨spaced, apart_of_spaced repr kept.1 kept.2 spaced⟩, And.left⟩
    exact both.mono fun _ _ => And.right

def room : String := "gl-room-AAAA-BBBB-CCCC"

def sharedRoom : List Event :=
  [.link .connected true, .call (.attach room "host"), .call (.attach room "host"),
    .resume 0 .sent, .resume 1 .sent, .expire 0, .resume 0 .woken]

/-- The end of the first attach takes the second's waiter away: the relay's answer is lost. -/
theorem sharedRoom_disturbed :
    ((run id sharedRoom).requests[1]? = some ⟨.attach room "host", none, .waiting none⟩ ∧
      (run id sharedRoom).registered (.attach room) = none ∧
      (run id (sharedRoom ++ [.receive (.attached room 0)])).requests[1]? =
        some ⟨.attach room "host", none, .waiting none⟩) ∧
    ¬ ∀ past e, past ++ [e] <+: sharedRoom → Undisturbed id (run id past) e := by
  have facts : (run id sharedRoom).requests[1]? = some ⟨.attach room "host", none, .waiting none⟩ ∧
      (run id sharedRoom).registered (.attach room) = none ∧
      (run id (sharedRoom ++ [.receive (.attached room 0)])).requests[1]? =
        some ⟨.attach room "host", none, .waiting none⟩ := by
    decide +kernel
  refine ⟨facts, fun undisturbed => ?_⟩
  have last := undisturbed (sharedRoom.take 6) (.resume 0 .woken) (prefix_refl sharedRoom)
  have own := last.own 1 (.attach room) ⟨_, facts.1, rfl, rfl, rfl⟩
  exact some_ne_none 1 (own.symm.trans facts.2.1)

def Pending (c : RelayClient) (i : ℕ) (key : Key) : Prop :=
  c.registered key = some i ∧ ∃ r, c.requests[i]? = some r ∧ r.future = none

/-- From `c` to `c'` waiters under the keys that `e` names may have been completed and removed,
and no others. -/
structure Spares (e : ErrorPacket) (c c' : RelayClient) : Prop where
  requests : ∀ i : ℕ, (∀ key, e.names key → c.registered key ≠ some i) →
    c'.requests[i]? = c.requests[i]?
  registered : ∀ key i, c'.registered key = some i → c.registered key = some i
  create : c'.registered .create = c.registered .create

section
variable {e : ErrorPacket} (c)

lemma Spares.refl : Spares e c c := ⟨fun _ _ => rfl, fun _ _ => id, rfl⟩

lemma Spares.trans {c} (first : Spares e c c') (second : Spares e c' c'') : Spares e c c'' where
  requests := by
    intro i apart
    rw [second.requests i fun key mem found => apart key mem (first.registered key i found)]
    exact first.requests i apart
  registered := fun key i found => first.registered key i (second.registered key i found)
  create := second.create.trans first.create

lemma spares_reject {key} (fault) (named : e.names key) : Spares e c (c.reject key fault) := by
  unfold reject
  split
  next => exact .refl c
  next i found =>
    refine ⟨fun j apart => ?_, fun key' j => ?_, ?_⟩
    · have other : i ≠ j := by
        rintro rfl
        exact apart key named found
      simp [requests_settle, if_neg other, complete_none, requests_pop]
    · rw [registered_settle, registered_pop]
      split_ifs <;> simp
    · rw [registered_settle, registered_pop, if_neg]
      rintro rfl
      exact named

lemma spares_rejectEach {keys} (fault) (named : ∀ key ∈ keys, e.names key) :
    Spares e c (c.rejectEach keys fault) := by
  induction keys generalizing c with
  | nil => exact .refl c
  | cons key keys ih =>
    exact (spares_reject c fault (named key mem_cons_self)).trans
      (ih _ fun key' later => named key' (mem_cons_of_mem _ later))

lemma spares_rejectPendingAttach : Spares e c (c.rejectPendingAttach e) := by
  unfold rejectPendingAttach
  split
  next => exact .refl c
  next named => exact spares_reject c _ named

lemma spares_rejectPendingInvite : Spares e c (c.rejectPendingInvite e) := by
  unfold rejectPendingInvite
  split
  next => exact .refl c
  next named => exact spares_reject c _ named

lemma spares_rejectGroupWaiters {group} (named : e.group = some group) (fault) :
    Spares e c (c.rejectGroupWaiters group fault) := by
  refine (spares_rejectEach c fault ?_).trans (spares_rejectEach _ fault ?_)
  · intro key mem
    simp only [mem_cons, not_mem_nil, or_false] at mem
    rcases mem with rfl | rfl <;> exact ⟨group, named, _, rfl⟩
  · intro key mem
    obtain ⟨event, listed, rfl⟩ := mem_map.mp mem
    rw [ErrorPacket.names, of_decide_eq_true (mem_filter.mp listed).2, named]

/-- Before it looks at the group creation in flight, the reader has refused what `e` names. -/
lemma spares_error : ∃ c', Spares e c c' ∧ c.receive (.error e) =
    if isForwardError e then c else
      (groupFault e).elim c' fun fault => c'.answer .create (.exception fault) := by
  have spared := (spares_rejectPendingAttach (e := e) c).trans (spares_rejectPendingInvite _)
  rw [receive]
  cases refused : groupFault e with
  | none => exact ⟨_, spared, by simp [rejectPendingGroup, refused]⟩
  | some fault =>
    cases named : e.group with
    | none => exact ⟨_, spared, by simp [rejectPendingGroup, refused, named]⟩
    | some group =>
      exact ⟨_, spared.trans (spares_rejectGroupWaiters _ named fault),
        by simp [rejectPendingGroup, refused, named]⟩

end

/-- An ERROR packet leaves every pending operation alone on nothing that it names, unless it is a
group refusal and a group creation is in flight: that fails whichever group is named. -/
theorem errors_spare_others_iff (c : RelayClient) (e : ErrorPacket) :
    (∀ i key, c.Pending i key → (∀ key, c.Pending i key → ¬ e.names key) →
      (c.receive (.error e)).requests[i]? = c.requests[i]?) ↔
    (isForwardError e = false → groupFault e ≠ none →
      ∀ i, c.Pending i .create → ∃ key, c.Pending i key ∧ e.names key) := by
  obtain ⟨c', spared, received⟩ := spares_error (e := e) c
  rw [received]
  have alone : ∀ {i key}, c.Pending i key → (∀ key, c.Pending i key → ¬ e.names key) →
      c'.requests[i]? = c.requests[i]? := by
    intro i key pending unnamed
    exact spared.requests i fun key named found => unnamed key ⟨found, pending.2⟩ named
  constructor
  · intro spares unforwarded refused i pending
    by_contra nothing
    have unnamed : ∀ key, c.Pending i key → ¬ e.names key := fun key p named => nothing ⟨key, p, named⟩
    have same := spares i .create pending unnamed
    obtain ⟨fault, refused⟩ := ne_none_iff_exists'.mp refused
    obtain ⟨found, r, held, waits⟩ := pending
    simp only [unforwarded, refused, answer, spared.create, found, elim_some] at same
    rw [if_neg Bool.false_ne_true, requests_settle, alone ⟨found, r, held, waits⟩ unnamed, held] at same
    have future := congrArg future (some.inj same)
    simp [complete, waits] at future
  · intro created i key pending unnamed
    split_ifs with forward
    · rfl
    · cases refused : groupFault e with
      | none => exact alone pending unnamed
      | some fault =>
        simp only [elim_some, answer, spared.create]
        split
        next => exact alone pending unnamed
        next j found =>
          rw [requests_settle, alone pending unnamed, if_neg]
          · simp [complete_none]
          · rintro rfl
            obtain ⟨key, p, named⟩ := created (Bool.eq_false_of_not_eq_true forward)
              (by simp [refused]) j ⟨found, pending.2⟩
            exact unnamed key p named

/-- A creation is under way when an error about another group comes in. -/
def createAmidError : List Event :=
  [.link .connected true, .call .groupCreate, .resume 0 .sent,
    .receive (.error ⟨"group/not-owner", "Only the owner may remove members.", none, none,
      some "gl-group-AAAA-BBBB-CCCC", none⟩)]

theorem createAmidError_fails : (run id createAmidError).requests[0]?.bind future =
    some (.exception ⟨.groupPermission, "Only the owner may remove members.",
      "See ghostlink group list."⟩) := by
  decide +kernel

end RelayClient
end Ghostlink.Requests
