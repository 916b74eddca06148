import Ghostlink.Transfer.Cap

/-! The temp quota. An offer is weighed by what the `.part` files hold plus what the active incoming
transfers may still write, and the two are linked transfer by transfer: an id stands for the
larger of its file and its pledge, and no event but an offer raises that. -/

namespace Ghostlink.FileTransfer
open Messaging Collections List Dict Reception Nat

lemma FileManifest.Sound.end_le {m : FileManifest} (h : m.Sound) {n} (one : 1 ≤ n)
    (last : n ≤ m.totalChunks) : (n - 1) * m.chunkSize + expectedChunkLength m n ≤ m.sizeBytes := by
  have inside := (h.inside_iff one).mp last
  have zeros : (List.replicate m.sizeBytes (0 : UInt8)).length = m.sizeBytes :=
    length_replicate
  have length := h.length_chunk one last zeros
  rw [Blocks.length_block, length_replicate] at length
  omega

namespace Reception
variable {T : TransferPrimitives} {taken : String → Bool} {r r' : Reception} {e : ReceptionEvent}

def isWriting (r : Reception) (k : ℕ) : Bool :=
  match r.tasks[k]? with
  | some (.writing _ _) => true
  | _ => false

structure WithinSize (r : Reception) : Prop where
  sound : r.manifest.Sound
  writes : ∀ n data, .writing n data ∈ r.tasks →
    (n - 1) * r.manifest.chunkSize + data.length ≤ r.manifest.sizeBytes

variable {data : Bytes}

lemma checkChunk_writes {n sealed key} (h : r.checkChunk T n sealed key = .writes data) :
    1 ≤ n ∧ n ≤ r.manifest.totalChunks ∧ data.length = expectedChunkLength r.manifest n := by
  unfold checkChunk at h
  dsimp only at h
  split_ifs at h with _ _ _ range _ _
  split at h
  · cases h
  · split at h
    · cases h
    · split_ifs at h with length
      cases h
      exact ⟨range.1, range.2, not_not.mp length⟩

lemma Next.not_writing {k t t'} (h : Next T taken r e k t t') (n data) : t' ≠ .writing n data := by
  cases h <;> rintro ⟨⟩

lemma mem_tasks_set {tasks : List Task} {k t u} (h : u ∈ tasks.set k t) : u ∈ tasks ∨ u = t :=
  mem_or_eq_of_mem_set h

lemma writing_of_change {c : Core} (change : Change T taken r e c)
    (other : ∀ n sealed key deletes, e ≠ .chunk n sealed key deletes) {n}
    (h : .writing n data ∈ c.tasks) : .writing n data ∈ r.tasks := by
  have kept {k : ℕ} {t : Task} (differs : t ≠ .writing n data)
      (mem : .writing n data ∈ r.tasks.set k t) : .writing n data ∈ r.tasks := by
    rcases mem_tasks_set mem with old | rfl
    · exact old
    · exact absurd rfl differs
  cases change with
  | still | paused | unpaused | purged => exact h
  | asked =>
    rcases mem_append.mp h with old | new
    · exact old
    · cases mem_singleton.mp new
  | received => exact absurd rfl (other _ _ _ _)
  | advanced listed next => exact kept (next.not_writing n data) h
  | began | created | accepted | refused | wrote | renamed | completed | saved =>
    exact kept (by rintro ⟨⟩) h
  | ended disturbs open_ terminal incomplete left stopped =>
    rcases stopped with rfl | ⟨k, t, -, rfl⟩
    · exact h
    · exact kept (by rintro ⟨⟩) h

lemma WithinSize.step (h : WithinSize r) (part taken)
    (e : ReceptionEvent) : WithinSize (({ r with part } : Reception).step T taken e) := by
  set r₀ : Reception := { r with part } with hr₀
  have manifest : (r₀.step T taken e).manifest = r.manifest := core_manifest r₀ e
  refine ⟨manifest ▸ h.sound, fun n data mem => ?_⟩
  rw [manifest]
  by_cases chunk : ∃ n sealed key deletes, e = .chunk n sealed key deletes
  · obtain ⟨n', sealed, key, deletes, rfl⟩ := chunk
    change _ ∈ (r₀.onChunk T n' sealed key deletes).tasks at mem
    unfold onChunk at mem
    cases verdict : r₀.checkChunk T n' sealed key with
    | fails message =>
      have settled : (r₀.failTransfer message deletes).tasks = r₀.tasks := by
        unfold failTransfer
        split_ifs
        · rfl
        · rw [settled_eq]
          split_ifs <;> rfl
      rw [verdict] at mem
      rw [settled] at mem
      exact h.writes n data mem
    | ignored =>
      rw [verdict] at mem
      exact h.writes n data mem
    | writes =>
      rw [verdict] at mem
      rcases mem_append.mp mem with old | new
      · exact h.writes n data old
      · cases mem_singleton.mp new
        obtain ⟨one, last, length⟩ := checkChunk_writes verdict
        rw [length]
        exact h.sound.end_le one last
  · have change := step_change T taken r₀ e
    refine h.writes n data (writing_of_change change (fun n sealed key deletes same => ?_) mem)
    exact chunk ⟨n, sealed, key, deletes, same⟩

lemma Later.withinSize (later : Later T r r') (h : WithinSize r) : WithinSize r' := by
  induction later with
  | refl => exact h
  | tail _ moves ih =>
    obtain ⟨part, taken, e, rfl⟩ := moves
    exact ih.step part taken e

lemma offered_withinSize {m : FileManifest} {id} (sound : m.Sound)
    (offer : offered id m = .ok r) : WithinSize r := by
  have core := offered_core offer
  have manifest : r.manifest = m := congrArg Core.manifest core
  have tasks : r.tasks = [] := congrArg Core.tasks core
  refine ⟨manifest ▸ sound, fun n data mem => ?_⟩
  rw [tasks] at mem
  simp at mem

end Reception

def TransferEvent.worker? : TransferEvent → Option (ℕ × ℕ)
  | .work i k _ _ => some (i, k)
  | _ => none

namespace TransferManager
variable {T : TransferPrimitives} {s s' : TransferManager}

def pledged (s : TransferManager) (id : String) : ℕ := s.transfers.share (fun _ ref => s.pledge ref) id

variable {i : ℕ} {r : Reception} {id : String} {m : FileManifest} {e : TransferEvent}
  (limits : TransferLimits)

lemma pledge_of_active (found : s.receiving[i]? = some r)
    (active : r.transfer.state.isActive) : s.pledge
    (.receiving i) = r.manifest.sizeBytes := by
  simp [pledge, found, active]

lemma pledge_le (found : s.receiving[i]? = some r) :
    s.pledge (.receiving i) ≤ r.manifest.sizeBytes := by
  simp only [pledge, found]
  split_ifs
  · exact le_rfl
  · exact zero_le _

lemma Quiet.pledge_le (h : Quiet T s s') (ref) : s'.pledge ref ≤ s.pledge ref := by
  cases ref with
  | sending => exact le_rfl
  | receiving i =>
    cases found' : s'.receiving[i]? with
    | none => simp [pledge, found']
    | some r' =>
      obtain ⟨r, found, later⟩ := h.receiving.each i r' found'
      by_cases active : r'.transfer.state.isActive
      · rw [pledge_of_active found' active, pledge_of_active found (later.active active),
          later.manifest]
      · simp [pledge, found', active]

lemma pledged_le_of (h : ∀ ref, s'.transfers.get? id = some ref →
      s'.pledge ref = 0 ∨ s.transfers.get? id = some ref ∧ s'.pledge ref ≤ s.pledge ref) :
    s'.pledged id ≤ s.pledged id := by
  unfold pledged
  cases found : s'.transfers.get? id with
  | none =>
    rw [share_of_none found]
    exact zero_le _
  | some ref =>
    rw [share_of_some found]
    rcases h ref found with nothing | ⟨known, le⟩
    · rw [nothing]
      exact zero_le _
    · rwa [share_of_some known]

lemma Quiet.pledged_le (h : Quiet T s s') (id) : s'.pledged id ≤ s.pledged id :=
  pledged_le_of fun ref found => .inr ⟨h.transfers id ref found, h.pledge_le ref⟩

lemma pledged_registerSend (s : TransferManager) (m bitmap now id) :
    (s.registerSend m bitmap now).pledged id ≤ s.pledged id := by
  refine pledged_le_of fun ref found => ?_
  rcases get?_of_set found with ⟨-, rfl⟩ | ⟨-, old⟩
  · exact .inl rfl
  · exact .inr ⟨old, le_rfl⟩

lemma offer_frame (s : TransferManager) (i keyed) :
    (s.offer i keyed).receiving = s.receiving ∧ (s.offer i keyed).transfers = s.transfers ∧
      (s.offer i keyed).temp = s.temp := by
  rcases offer_cases s i keyed with ⟨same, -⟩ | ⟨o, -, -, -, eq⟩
  · rw [same]
    exact ⟨rfl, rfl, rfl⟩
  · rw [eq]
    exact ⟨rfl, rfl, rfl⟩

lemma pledge_congr (h : s'.receiving = s.receiving) (ref) : s'.pledge ref = s.pledge ref := by
  cases ref with
  | sending => rfl
  | receiving => simp [pledge, h]

lemma pledged_offer (s : TransferManager) (i keyed id) :
    (s.offer i keyed).pledged id ≤ s.pledged id := by
  obtain ⟨receiving, transfers, -⟩ := offer_frame s i keyed
  refine pledged_le_of fun ref found => .inr ⟨transfers ▸ found, ?_⟩
  exact (pledge_congr receiving ref).le

lemma reserved_registerOffer (filed : Filed s) (offer : offered id m = .ok r) :
    (s.registerOffer id r).reservedIncomingBytes ≤ s.reservedIncomingBytes + m.sizeBytes := by
  have manifest : r.manifest = m := congrArg Core.manifest (offered_core offer)
  have own : (s.registerOffer id r).pledged id ≤ m.sizeBytes := by
    have found : (s.registerOffer id r).transfers.get? id = some (.receiving s.receiving.length) :=
      get?_set_self _ _ _
    rw [pledged, share_of_some found, ← manifest]
    exact TransferManager.pledge_le getElem?_concat_length
  refine (total_le_add_share id fun id' other => ?_).trans (Nat.add_le_add_left own _)
  refine pledged_le_of fun ref found => ?_
  obtain ⟨known, same⟩ := receiving_registerOffer filed other found
  refine .inr ⟨known, ?_⟩
  cases ref with
  | sending => exact le_rfl
  | receiving i => simp [pledge, same i rfl]

def demand (s : TransferManager) (id : String) : ℕ := max (s.held id) (s.pledged id)

lemma demand_le_of (held : ∀ id, s'.held id ≤ max (s.held id) (s.pledged id))
    (pledged : ∀ id, s'.pledged id ≤ s.pledged id) (id) : s'.demand id ≤ s.demand id :=
  max_le (held id) ((pledged id).trans (le_max_right _ _))

lemma held_congr (h : s'.temp = s.temp) (id) : s'.held id = s.held id := by
  rw [held, held, h]

def WritesActive (s : TransferManager) (e : TransferEvent) : Prop :=
  ∀ at_work ∈ e.worker?, ∀ r ∈ s.receiving[at_work.1]?, r.isWriting at_work.2 →
    s.transfers.get? r.transfer.transferId = some (.receiving at_work.1) ∧
      r.transfer.state.isActive

instance (s : TransferManager) (e : TransferEvent) : Decidable (s.WritesActive e) :=
  inferInstanceAs (Decidable (∀ at_work ∈ e.worker?, ∀ r ∈ s.receiving[at_work.1]?, _ → _))

lemma held_work {k taken disk} (within : ∀ r ∈ s.receiving, r.WithinSize)
    (active : s.WritesActive (.work i k taken disk)) (id) :
    (s.stepReceiving T i taken (.work k disk)).held id ≤ max (s.held id) (s.pledged id) := by
  cases found : s.receiving[i]? with
  | none =>
    rw [stepReceiving, found]
    exact le_max_left _ _
  | some r =>
    have fits := within r (mem_of_getElem? found)
    rw [stepReceiving_eq found]
    refine ((calm_afterwards (T := T) _ _ _).held id).trans ?_
    rw [held_store]
    split_ifs with same
    · subst same
      rw [held_eq]
      refine fileLength_of_change _ (step_change T taken
        { r with part := s.temp.get? r.transfer.transferId } (.work k disk)) ?_
      rintro k' disk' n data ⟨⟩ listed
      have writing : r.isWriting k := by
        rw [isWriting, listed]
      obtain ⟨known, open_⟩ := active (i, k) rfl r found writing
      rw [pledged, share_of_some known, pledge_of_active found open_]
      exact fits.writes n data (mem_of_getElem? listed)
    · exact le_max_left _ _

lemma demand_sendFile (s : TransferManager) (pathName mime content transferId keyed now id) :
    (s.sendFile T pathName mime content transferId keyed now).demand id ≤ s.demand id := by
  rcases sendFile_cases s pathName mime content transferId keyed now with same | ⟨m, b, eq⟩
  · rw [same]
  · have registered : (s.registerSend m b now).demand id ≤ s.demand id := by
      have files : ∀ id, (s.registerSend m b now).held id ≤ max (s.held id) (s.pledged id) :=
        fun id => le_max_left _ _
      exact demand_le_of files (pledged_registerSend s m b now) id
    rw [eq]
    split_ifs
    · refine le_trans (demand_le_of (fun id => ?_) (pledged_offer _ _ keyed) id) registered
      exact le_max_of_le_left (held_congr (offer_frame _ _ keyed).2.2 id).le
    · exact registered

lemma demand_runOffer (s : TransferManager) (k keyed id) :
    (s.runOffer k keyed).demand id ≤ s.demand id := by
  unfold runOffer
  split
  · exact le_rfl
  · refine demand_le_of (fun id => ?_) (fun id => ?_) id
    · exact le_max_of_le_left (held_congr (offer_frame _ _ keyed).2.2 id).le
    · exact pledged_offer { s with offers := s.offers.eraseIdx k } _ keyed id

lemma demand_step (within : ∀ r ∈ s.receiving, r.WithinSize)
    (other : ∀ id manifest, e ≠ .peerOffer id manifest) (active : s.WritesActive e) (id) :
    (s.step T e).demand id ≤ s.demand id := by
  by_cases works : ∃ i k taken disk, e = .work i k taken disk
  · obtain ⟨i, k, taken, disk, rfl⟩ := works
    exact demand_le_of (held_work within active)
      (quiet_stepReceiving s i taken (.work k disk)).pledged_le id
  · cases kind : activates e with
    | false =>
      have calm : Calm T s (s.step T e) := by
        refine calm_step s kind fun i k taken disk same => ?_
        exact works ⟨i, k, taken, disk, same⟩
      exact demand_le_of (fun id => le_max_of_le_left (calm.held id)) calm.pledged_le id
    | true =>
      cases e with
      | sendFile pathName mime content transferId keyed now =>
        exact demand_sendFile s pathName mime content transferId keyed now id
      | peerOffer id' manifest => exact absurd rfl (other id' manifest)
      | runOffer k keyed => exact demand_runOffer s k keyed id
      | _ => cases kind

def Frugal (s : TransferManager) : Prop :=
  ∀ ids : Finset String, ∑ id ∈ ids, s.demand id ≤ s.limits.tempLimitBytes

lemma Frugal.of_le (h : Frugal s) (limits : s'.limits = s.limits)
    (le : ∀ id, s'.demand id ≤ s.demand id) : Frugal s' := by
  intro ids
  rw [limits]
  exact (Finset.sum_le_sum fun id _ => le id).trans (h ids)

lemma Frugal.usage_le (h : Frugal s) : s.tempUsageBytes ≤ s.limits.tempLimitBytes := by
  rw [tempUsageBytes, total_eq_sum]
  exact (Finset.sum_le_sum fun id _ => le_max_left _ _).trans (h _)

lemma frugal_registerOffer (filed : Filed s)
    (fits : s.tempUsageBytes + (m.sizeBytes + s.reservedIncomingBytes) ≤ s.limits.tempLimitBytes)
    (offer : offered id m = .ok r) : Frugal (s.registerOffer id r) := by
  intro ids
  have files : ∑ id ∈ ids, s.held id ≤ s.tempUsageBytes := sum_share_le_total _ _ ids
  have pledges : ∑ id' ∈ ids, (s.registerOffer id r).pledged id' ≤
      (s.registerOffer id r).reservedIncomingBytes := sum_share_le_total _ _ ids
  have reserved := reserved_registerOffer filed offer
  calc ∑ id' ∈ ids, (s.registerOffer id r).demand id'
      ≤ ∑ id' ∈ ids, (s.held id' + (s.registerOffer id r).pledged id') :=
        Finset.sum_le_sum fun id' _ => max_le (le_add_right _ _) (le_add_left _ _)
    _ = ∑ id' ∈ ids, s.held id' + ∑ id' ∈ ids, (s.registerOffer id r).pledged id' :=
        Finset.sum_add_distrib
    _ ≤ s.tempUsageBytes + (s.reservedIncomingBytes + m.sizeBytes) :=
        Nat.add_le_add files (pledges.trans reserved)
    _ ≤ s.limits.tempLimitBytes := by
        rwa [add_comm s.reservedIncomingBytes]

lemma min_chunk_pos : 1 ≤ transferMinChunkKb * 1024 := by decide

lemma within_step (within : ∀ r ∈ s.receiving, r.WithinSize) (e) :
    ∀ r ∈ (s.step T e).receiving, r.WithinSize := by
  apply step_induction (J := fun s' => ∀ r ∈ s'.receiving, r.WithinSize)
  · intro s' quiet r' mem
    obtain ⟨i, found'⟩ := mem_iff_getElem?.mp mem
    obtain ⟨r, found, later⟩ := quiet.receiving.each i r' found'
    exact later.withinSize (within r (mem_of_getElem? found))
  · exact fun _ _ _ => within
  · intro s' i keyed within'
    rwa [(offer_frame s' i keyed).1]
  · intro id m r valid _ offer r' mem
    rcases mem_append.mp mem with old | new
    · exact within r' old
    · rw [mem_singleton.mp new]
      have sound := FileManifest.sound_of_validate min_chunk_pos valid
      exact offered_withinSize sound offer

lemma frugal_step (filed : Filed s) (within : ∀ r ∈ s.receiving, r.WithinSize)
    (frugal : Frugal s) (active : s.WritesActive e) : Frugal (s.step T e) := by
  by_cases offers : ∃ id manifest, e = .peerOffer id manifest
  · obtain ⟨id, manifest, rfl⟩ := offers
    change Frugal (s.unlessClosing (s.onOffer T id manifest))
    unfold unlessClosing
    split_ifs
    · exact frugal
    · rcases onOffer_cases s id manifest with same | ⟨m, r, -, -, -, fits, offer, eq⟩
      · rwa [same]
      · rw [eq]
        exact frugal_registerOffer filed fits offer
  · refine frugal.of_le (limits_step s e) (demand_step within (fun id manifest same => ?_) active)
    exact offers ⟨id, manifest, same⟩

lemma reserved_step (filed : Filed s) (e)
    (room : s.reservedIncomingBytes ≤ s.limits.tempLimitBytes) :
    (s.step T e).reservedIncomingBytes ≤ s.limits.tempLimitBytes := by
  apply step_induction (J := fun s' => s'.reservedIncomingBytes ≤ s.limits.tempLimitBytes)
  · exact fun s' quiet => (total_le_total quiet.pledged_le).trans room
  · exact fun m b now => (total_le_total (pledged_registerSend s m b now)).trans room
  · exact fun s' i keyed => (total_le_total (pledged_offer s' i keyed)).trans
  · intro id m r _ fits offer
    refine (reserved_registerOffer filed offer).trans ?_
    rw [add_comm]
    exact (le_add_left _ _).trans fits

lemma filed_run (temp events) : Filed (run T limits temp events) := by
  induction events using List.reverseRecOn with
  | nil => exact filed_start limits temp
  | append_singleton events e ih =>
    rw [run, foldl_append]
    exact filed_step ih e

lemma reserved_run (temp events) :
    (run T limits temp events).reservedIncomingBytes ≤ limits.tempLimitBytes := by
  induction events using List.reverseRecOn with
  | nil => exact zero_le _
  | append_singleton events e ih =>
    have filed : Filed (run T limits temp events) := filed_run limits temp events
    have step := reserved_step (T := T) filed e
    rw [limits_run] at step
    rw [run, foldl_append]
    exact step ih

/-- In every run an id leads to a transfer, and a chunk that is about to be written lies within
the size its manifest states. -/
theorem writes_within_size (T : TransferPrimitives) (limits : TransferLimits)
    (temp : Dict String Bytes) (events : List TransferEvent) :
    let s := run T limits temp events
    Filed s ∧ ∀ r ∈ s.receiving, r.WithinSize := by
  refine ⟨filed_run limits temp events, ?_⟩
  exact Runs.foldl_keeps (J := fun s : TransferManager => ∀ r ∈ s.receiving, r.WithinSize)
    (fun _ e within => within_step within e) events fun _ mem => absurd mem not_mem_nil

structure Thrifty (s : TransferManager) : Prop where
  filed : Filed s
  within : ∀ r ∈ s.receiving, r.WithinSize
  frugal : Frugal s

lemma thrifty_start : Thrifty (start limits Dict.empty) where
  filed := filed_start limits Dict.empty
  within r mem := absurd mem not_mem_nil
  frugal ids := by
    have nothing : ∀ id ∈ ids, (start limits Dict.empty).demand id = 0 := fun _ _ => rfl
    rw [Finset.sum_eq_zero nothing]
    exact zero_le _

lemma Thrifty.step (h : Thrifty s) (active : s.WritesActive e) : Thrifty (s.step T e) where
  filed := filed_step h.filed e
  within := within_step h.within e
  frugal := frugal_step h.filed h.within h.frugal active

/-- What active incoming transfers may write stays within the limit in every run. So do the
`.part` files, if there are none to begin with and chunks are written only to active transfers. -/
theorem temp_quota_kept (T : TransferPrimitives) (limits : TransferLimits)
    (temp : Dict String Bytes) (events : List TransferEvent) :
    (run T limits temp events).reservedIncomingBytes ≤ limits.tempLimitBytes ∧
      (temp = Dict.empty → Runs.Along (step T) WritesActive (start limits temp) events →
        (run T limits temp events).tempUsageBytes ≤ limits.tempLimitBytes) := by
  refine ⟨reserved_run limits temp events, ?_⟩
  rintro rfl active
  have thrifty : Thrifty (run T limits Dict.empty events) :=
    active.invariant (thrifty_start limits) fun s e h writes => h.step writes
  have usage := thrifty.frugal.usage_le
  rwa [limits_run] at usage

def byteManifest : FileManifest :=
  { protocol := transferProtocol, transferId := "tf_0000000a", filename := "a.bin", sizeBytes := 1
    mime := "text/plain", chunkSize := 1024, totalChunks := 1, sha256 := hashFile plainTransfer [7] }

/-- The offer is accepted, its chunk is written, and the transfer is cancelled while the disk
refuses to delete the file. -/
def leftBehind : List TransferEvent :=
  [.peerOffer "tf_0000000a" (some byteManifest), .accept "tf_0000000a",
    .work 0 0 (fun _ => false) .fine, .handle 0 0 true, .work 0 0 (fun _ => false) .fine,
    .handle 0 0 true,
    .peerChunk "tf_0000000a" 1 (List.replicate 12 0 ++ [7] ++ List.replicate 16 0)
      (some (Vector.replicate 32 0)) true,
    .work 0 1 (fun _ => false) .fine, .cancel "tf_0000000a" none false]

theorem left_behind_within_quota :
    (run plainTransfer oneAtATime Dict.empty leftBehind).tempUsageBytes = 1 ∧
      (run plainTransfer oneAtATime Dict.empty leftBehind).tempUsageBytes ≤
        oneAtATime.tempLimitBytes := by
  refine ⟨by decide +kernel, ?_⟩
  exact (temp_quota_kept plainTransfer oneAtATime Dict.empty leftBehind).2 rfl (by decide +kernel)

end TransferManager

end Ghostlink.FileTransfer
