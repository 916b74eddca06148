import Ghostlink.Groups.SenderKeyAlignment

/-! What a sender-key message on the wire can be opened with. The message is sealed once and
forwarded later, to one member after another; between the two the service keeps it in tasks,
in retry queues and in the cache of recent messages. The invariant says of all of these that
the message belongs to the chain of the group's current epoch, and of the wire that every
distribution of the current epoch handed out that same chain. -/

namespace Ghostlink.Groups
open Collections Text List Option Dict GroupMessageLedger

def Forward.handed (gid : GroupId) (e : ℕ) (f : Fingerprint) : Forward → Option Distribution
  | .sk gid' e' f' d => if gid' = gid ∧ e' = e ∧ f' = f then some d else none
  | .skmsg .. => none

def Forward.groupId : Forward → GroupId
  | .sk gid _ _ _ => gid
  | .skmsg gid _ _ _ _ _ => gid

def lastDistributed (wire : List Forward) (gid : GroupId) (e : ℕ) (f : Fingerprint) :
    Option Distribution :=
  (wire.filterMap (Forward.handed gid e f)).getLast?

def SealedUnder (X : ServicePrimitives) (me : Fingerprint) (gid : GroupId) (e gen : ℕ)
    (root : SecretKey) (seq : ℕ) (sealed : Bytes) : Prop :=
  ∃ nonce plaintext, sealed = sealMessage X.toSenderKeyPrimitives
    (messageKey X.toSenderKeyPrimitives
      { groupId := gid.val, epoch := e, sender := me.val, gen } root seq)
    nonce plaintext (groupSkMsgAad gid e me gen seq)

def Openable (X : ServicePrimitives) (me : Fingerprint) (before : List Forward) : Forward → Prop
  | .sk .. => True
  | .skmsg gid e f gen seq sealed =>
    ∃ d, lastDistributed before gid e f = some d ∧ d.gen = gen ∧
      SealedUnder X me gid e gen d.root seq sealed

variable {d : Distribution} {wire : List Forward}

lemma mem_of_lastDistributed {gid e f}
    (h : lastDistributed wire gid e f = some d) : .sk gid e f d ∈ wire := by
  obtain ⟨forward, mem, handed⟩ := mem_filterMap.mp (mem_of_getLast? h)
  cases forward with
  | skmsg => exact nomatch handed
  | sk =>
    simp only [Forward.handed] at handed
    split_ifs at handed with same
    obtain ⟨rfl, rfl, rfl⟩ := same
    cases handed
    exact mem

lemma exists_lastDistributed {gid e f} (h : .sk gid e f d ∈ wire) :
    ∃ d', lastDistributed wire gid e f = some d' := by
  have mem : d ∈ wire.filterMap (Forward.handed gid e f) :=
    mem_filterMap.mpr ⟨_, h, by simp [Forward.handed]⟩
  exact ⟨_, getLast?_eq_some_getLast (ne_nil_of_mem mem)⟩

def DeliveryState.inFlight (state : DeliveryState) : Bool :=
  state == .sending || state == .sent

def GroupMessageLedger.inFlight (l : GroupMessageLedger) : Bool :=
  l.recipients.values.any DeliveryState.inFlight

lemma GroupMessageLedger.inFlight_iff (l : GroupMessageLedger) :
    l.inFlight ↔ ∃ f state, l.recipients.get? f = some state ∧ state.inFlight := by
  simp only [inFlight, List.any_eq_true, Dict.mem_values]
  constructor
  · rintro ⟨state, ⟨f, found⟩, moving⟩
    exact ⟨f, state, found, moving⟩
  · rintro ⟨f, state, found, moving⟩
    exact ⟨state, ⟨f, found⟩, moving⟩

def SkTask.groupId : SkTask → GroupId
  | .send t _ => t.groupId
  | .drain q _ => q.groupId
  | .respond job _ => job.groupId

def SkTask.carries (gid : GroupId) : SkTask → Bool
  | .send t _ => t.groupId = gid
  | .drain q _ => q.groupId = gid
  | .respond .. => false

namespace SenderKeyService
variable {P : Primitives} {X : ServicePrimitives} {s s' : SenderKeyService}

/-- Nothing of the group is left to deliver: no send or drain is under way, the retry queues are
empty, and no message that is still on its way could be queued again. -/
def idle (s : SenderKeyService) (gid : GroupId) : Bool :=
  s.tasks.values.all (fun task => !task.carries gid) &&
  s.retry.entries.all (fun e => e.1.1 ≠ gid ||
    (s.deque { groupId := gid, member := e.1.2, serial := e.2 }).isEmpty) &&
  (s.runtime gid).ledgers.values.all fun ref => (s.ledgers.get? ref).all fun l =>
    !l.inFlight || !s.sealedCache.contains l.messageId

def handing (s : SenderKeyService) (id : ℕ) : Bool :=
  match s.tasks.get? id with
  | some (.send _ (.distributing _ .forwarding)) => true
  | some (.drain _ (.distributing _ _ .forwarding)) => true
  | _ => false

/-- Epochs change only where nothing is left to deliver, distributions are handed out, and
message ids are not drawn twice. -/
def calm (P : Primitives) (s : SenderKeyService) : Action → Bool
  | .send _ _ d => s.ledgers.values.all fun l => l.messageId ≠ d.messageId
  | .groupEvent packet now => s.groups.records.keys.all fun gid =>
      (s.onGroupEvent P packet now).epoch? gid = s.epoch? gid || s.idle gid
  | .resume id .transportError => !s.handing id
  | _ => true

variable {task : SkTask}

lemma idle_tasks {gid} (h : s.idle gid) {id}
    (found : s.tasks.get? id = some task) : task.carries gid = false := by
  simp only [idle, Bool.and_eq_true, List.all_eq_true] at h
  simpa using h.1.1 task ((Dict.mem_values _ _).mpr ⟨id, found⟩)

variable {q : QueueRef} {mid : MessageId} {ref : ℕ} {ι : Type}

lemma idle_queues (h : s.idle q.groupId)
    (found : s.retry.get? (q.groupId, q.member) = some q.serial) : s.deque q = [] := by
  simp only [idle, Bool.and_eq_true, List.all_eq_true] at h
  have empty := h.1.2 _ ((Dict.get?_eq_some_iff _ _ _).mp found)
  simpa using empty

lemma idle_ledgers {gid} (h : s.idle gid)
    {l : GroupMessageLedger} (kept : (s.runtime gid).ledgers.get? mid = some ref)
    (found : s.ledgers.get? ref = some l) (moving : l.inFlight) :
    s.sealedCache.get? l.messageId = none := by
  simp only [idle, Bool.and_eq_true, List.all_eq_true] at h
  have uncached := h.2 ref ((Dict.mem_values _ _).mpr ⟨mid, kept⟩)
  rw [found] at uncached
  simpa [moving, Dict.contains] using uncached

structure Known (X : ServicePrimitives) (s : SenderKeyService) (gid : GroupId)
    (m : SealedMessage) : Prop where
  fits : ∃ e c, s.epoch? gid = some e ∧ s.store.outgoingChain gid.val e = some c ∧
    c.gen = m.gen ∧ SealedUnder X s.me gid e m.gen c.root m.seq m.sealed
  numbered : 1 ≤ m.seq
  owned : ∃ ref l, s.ledgers.get? ref = some l ∧ l.messageId = m.messageId ∧ l.groupId = gid ∧
    l.gseq = m.seq
  cached : ∀ b, s.sealedCache.get? m.messageId = some b → b = (m.gen, m.seq, m.sealed)

/-- A distribution for an epoch not ahead of the group, and of the group's chain if that epoch
is the current one. -/
structure Handed (s : SenderKeyService) (gid : GroupId) (e : ℕ) (d : Distribution) : Prop where
  past : ∃ e', s.epoch? gid = some e' ∧ e ≤ e'
  chain : s.epoch? gid = some e → ∃ c, s.store.outgoingChain gid.val e = some c ∧
    c.gen = d.gen ∧ c.root = d.root

def OnWire (s : SenderKeyService) (gid : GroupId) (e : ℕ) (f : Fingerprint) : Prop :=
  ∃ d, .sk gid e f d ∈ s.wire

structure Serves (s : SenderKeyService) (gid : GroupId) (f : Fingerprint) (job : SkJob) :
    Prop where
  groupId : job.groupId = gid
  recipient : job.recipient = f
  current : s.epoch? gid = some job.epoch
  handed : Handed s gid job.epoch job.distribution

structure Bound (s : SenderKeyService) (gid : GroupId) (f : Fingerprint) (e : ℕ)
    (m : SealedMessage) (stage : Stage) : Prop where
  current : s.epoch? gid = some e
  distributed : OnWire s gid e f
  forwarded : stage = .forwarding → .skmsg gid e f m.gen m.seq m.sealed ∈ s.wire

def SendOk (s : SenderKeyService) (t : SendTask) : SendPoint → Prop
  | .linking => True
  | .distributing job _ => Serves s t.groupId t.member job
  | .messaging e stage => Bound s t.groupId t.member e t.message stage

def DrainOk (X : ServicePrimitives) (s : SenderKeyService) (q : QueueRef) : DrainPoint → Prop
  | .linking e => s.epoch? q.groupId = some e
  | .distributing _ job _ => Serves s q.groupId q.member job
  | .messaging e m stage => Bound s q.groupId q.member e m stage ∧ Known X s q.groupId m

def Reports (s : SenderKeyService) (t : SendTask) : Prop :=
  ∃ l, s.ledgers.get? t.ledger = some l ∧ l.messageId = t.message.messageId ∧
    l.groupId = t.groupId ∧ l.gseq = t.message.seq

def TaskOk (X : ServicePrimitives) (s : SenderKeyService) : SkTask → Prop
  | .send t point => Known X s t.groupId t.message ∧ Reports s t ∧ SendOk s t point
  | .drain q point => DrainOk X s q point
  | .respond job _ => Handed s job.groupId job.epoch job.distribution

def Reachable (s : SenderKeyService) (q : QueueRef) : Prop :=
  s.retry.get? (q.groupId, q.member) = some q.serial ∨
    ∃ id point, s.tasks.get? id = some (.drain q point)

def Kept (s : SenderKeyService) (ref : ℕ) (l : GroupMessageLedger) : Prop :=
  ∃ mid, (s.runtime l.groupId).ledgers.get? mid = some ref

/-- `c` was reached from the root of our chain `o`. -/
abbrev Moved (X : ServicePrimitives) (me : Fingerprint) (gid : GroupId) (e : ℕ)
    (o c : OutgoingChain) : Prop :=
  OutgoingChain.Follows X.toSenderKeyPrimitives
    { groupId := gid.val, epoch := e, sender := me.val, gen := o.gen } o.root c

structure Grounded (X : ServicePrimitives) (s : SenderKeyService) : Prop where
  positive : ∀ gid e, s.epoch? gid = some e → 1 ≤ e
  counted : ∀ gid, 1 ≤ (s.runtime gid).nextGseq
  chains : ∀ (gid : GroupId) e c, s.store.outgoingChain gid.val e = some c →
    1 ≤ c.gen ∧ Moved X s.me gid e c c
  past : ∀ (gid : GroupId) e c, s.store.outgoingChain gid.val e = some c →
    ∃ e', s.epoch? gid = some e' ∧ e ≤ e'
  heap : ∀ ref l, s.ledgers.get? ref = some l → ref < s.nextLedger
  unique : ∀ ref ref' l l', s.ledgers.get? ref = some l → s.ledgers.get? ref' = some l' →
    l.messageId = l'.messageId → ref = ref'
  kept : ∀ gid mid ref, (s.runtime gid).ledgers.get? mid = some ref →
    ∃ l, s.ledgers.get? ref = some l ∧ l.messageId = mid ∧ l.groupId = gid

structure Flow (X : ServicePrimitives) (s : SenderKeyService) : Prop where
  tasks : ∀ id task, s.tasks.get? id = some task → TaskOk X s task
  queues : ∀ q, Reachable s q → ∀ m ∈ s.deque q, Known X s q.groupId m
  cached : ∀ ref l b, s.ledgers.get? ref = some l → l.inFlight → Kept s ref l →
    s.sealedCache.get? l.messageId = some b →
    Known X s l.groupId ⟨l.messageId, b.1, b.2.1, b.2.2⟩
  marks : ∀ gid f v, s.distributed.get? (gid, f) = some v → OnWire s gid v.1 f
  handed : ∀ gid e f d, .sk gid e f d ∈ s.wire → Handed s gid e d
  sent : ∀ ref l f, s.ledgers.get? ref = some l → l.recipients.get? f = some .sent →
    ∃ e gen sealed, .skmsg l.groupId e f gen l.gseq sealed ∈ s.wire
  openable : ∀ before forward after, s.wire = before ++ forward :: after →
    Openable X s.me before forward

structure Ext (s s' : SenderKeyService) (gid : GroupId) : Prop where
  me : s'.me = s.me
  epoch : s'.epoch? gid = s.epoch? gid
  chains : ∀ e c, s.store.outgoingChain gid.val e = some c →
    ∃ c', s'.store.outgoingChain gid.val e = some c' ∧ c'.gen = c.gen ∧ c'.root = c.root
  ledgers : ∀ ref l, s.ledgers.get? ref = some l → ∃ l', s'.ledgers.get? ref = some l' ∧
    l'.messageId = l.messageId ∧ l'.groupId = l.groupId ∧ l'.gseq = l.gseq
  cache : ∀ ref l b, s.ledgers.get? ref = some l → s'.sealedCache.get? l.messageId = some b →
    s.sealedCache.get? l.messageId = some b
  wire : ∀ forward ∈ s.wire, forward ∈ s'.wire

section Ext
variable {gid : GroupId} {m : SealedMessage} (keeps : Ext s s' gid)
include keeps

lemma Known.ext (h : Known X s gid m) : Known X s' gid m where
  fits := by
    obtain ⟨e, c, current, hc, gen, sealed⟩ := h.fits
    obtain ⟨c', hc', gen', root'⟩ := keeps.chains e c hc
    refine ⟨e, c', keeps.epoch.trans current, hc', gen'.trans gen, ?_⟩
    rwa [keeps.me, root']
  numbered := h.numbered
  owned := by
    obtain ⟨ref, l, found, id, group, seq⟩ := h.owned
    obtain ⟨l', found', id', group', seq'⟩ := keeps.ledgers ref l found
    exact ⟨ref, l', found', id'.trans id, group'.trans group, seq'.trans seq⟩
  cached := by
    intro b hb
    obtain ⟨ref, l, found, id, -⟩ := h.owned
    rw [← id] at hb
    exact h.cached b (id ▸ keeps.cache ref l b found hb)

variable {e : ℕ}

lemma Handed.ext {d} (h : Handed s gid e d) : Handed s' gid e d where
  past := by
    rw [keeps.epoch]
    exact h.past
  chain := by
    intro current
    obtain ⟨c, hc, gen, root⟩ := h.chain (keeps.epoch.symm.trans current)
    obtain ⟨c', hc', gen', root'⟩ := keeps.chains e c hc
    exact ⟨c', hc', gen'.trans gen, root'.trans root⟩

variable {f : Fingerprint}

lemma OnWire.ext (h : OnWire s gid e f) : OnWire s' gid e f :=
  h.imp fun _ => keeps.wire _

lemma Serves.ext {job} (h : Serves s gid f job) : Serves s' gid f job :=
  ⟨h.groupId, h.recipient, keeps.epoch.trans h.current, h.handed.ext keeps⟩

lemma Bound.ext {stage} (h : Bound s gid f e m stage) : Bound s' gid f e m stage :=
  ⟨keeps.epoch.trans h.current, h.distributed.ext keeps, fun hs => keeps.wire _ (h.forwarded hs)⟩

end Ext

lemma Reports.ext {t : SendTask} (keeps : Ext s s' t.groupId) (h : Reports s t) :
    Reports s' t := by
  obtain ⟨l, found, id, group, seq⟩ := h
  obtain ⟨l', found', id', group', seq'⟩ := keeps.ledgers _ l found
  exact ⟨l', found', id'.trans id, group'.trans group, seq'.trans seq⟩

lemma TaskOk.ext (keeps : Ext s s' task.groupId) (h : TaskOk X s task) : TaskOk X s' task := by
  cases task with
  | send t point =>
    obtain ⟨known, reports, ok⟩ := h
    refine ⟨known.ext keeps, reports.ext keeps, ?_⟩
    cases point with
    | linking => trivial
    | distributing => exact Serves.ext keeps ok
    | messaging => exact Bound.ext keeps ok
  | drain q point =>
    cases point with
    | linking => exact keeps.epoch.trans h
    | distributing => exact Serves.ext keeps h
    | messaging => exact ⟨h.1.ext keeps, h.2.ext keeps⟩
  | respond => exact Handed.ext keeps h

structure Grows (X : ServicePrimitives) (s s' : SenderKeyService) : Prop where
  tasks : ∀ id task, s'.tasks.get? id = some task →
    (∃ id', s.tasks.get? id' = some task) ∨ TaskOk X s' task
  queues : ∀ q, Reachable s' q → ∀ m ∈ s'.deque q,
    (Reachable s q ∧ m ∈ s.deque q) ∨ Known X s' q.groupId m
  marks : ∀ gid f v, s'.distributed.get? (gid, f) = some v →
    s.distributed.get? (gid, f) = some v ∨ OnWire s' gid v.1 f
  wire : s'.wire = s.wire ∨ ∃ forward, s'.wire = s.wire ++ [forward] ∧
    Openable X s.me s.wire forward ∧
    ∀ gid e f d, forward = .sk gid e f d → Handed s' gid e d

lemma Flow.extend (h : Flow X s) (keeps : ∀ gid, Ext s s' gid) (grows : Grows X s s')
    (cached : ∀ ref l b, s'.ledgers.get? ref = some l → l.inFlight → Kept s' ref l →
      s'.sealedCache.get? l.messageId = some b →
      (∃ l₀, s.ledgers.get? ref = some l₀ ∧ l₀.messageId = l.messageId ∧
        l₀.groupId = l.groupId ∧ l₀.inFlight ∧ Kept s ref l₀) ∨
      Known X s' l.groupId ⟨l.messageId, b.1, b.2.1, b.2.2⟩)
    (sent : ∀ ref l f, s'.ledgers.get? ref = some l → l.recipients.get? f = some .sent →
      (∃ l₀, s.ledgers.get? ref = some l₀ ∧ l₀.groupId = l.groupId ∧ l₀.gseq = l.gseq ∧
        l₀.recipients.get? f = some .sent) ∨
      ∃ e gen sealed, .skmsg l.groupId e f gen l.gseq sealed ∈ s'.wire) : Flow X s' where
  tasks id task found := by
    rcases grows.tasks id task found with ⟨id', old⟩ | ok
    · exact (h.tasks id' task old).ext (keeps task.groupId)
    · exact ok
  queues q reachable m mem := by
    rcases grows.queues q reachable m mem with ⟨old, memOld⟩ | known
    · exact (h.queues q old m memOld).ext (keeps q.groupId)
    · exact known
  cached ref l b found moving kept hb := by
    rcases cached ref l b found moving kept hb with
      ⟨l₀, found₀, id, group, moving₀, kept₀⟩ | known
    · have hb₀ := (keeps l.groupId).cache ref l₀ b found₀ (id ▸ hb)
      have known := h.cached ref l₀ b found₀ moving₀ kept₀ hb₀
      rw [id, group] at known
      exact known.ext (keeps l.groupId)
    · exact known
  marks gid f v found := by
    rcases grows.marks gid f v found with old | on
    · exact (h.marks gid f v old).ext (keeps gid)
    · exact on
  handed gid e f d mem := by
    rcases grows.wire with same | ⟨forward, added, -, new⟩
    · exact (h.handed gid e f d (same ▸ mem)).ext (keeps gid)
    · rw [added, mem_append, mem_singleton] at mem
      rcases mem with old | rfl
      · exact (h.handed gid e f d old).ext (keeps gid)
      · exact new gid e f d rfl
  sent ref l f found hsent := by
    rcases sent ref l f found hsent with ⟨l₀, found₀, group, seq, sent₀⟩ | on
    · obtain ⟨e, gen, sealed, mem⟩ := h.sent ref l₀ f found₀ sent₀
      rw [group, seq] at mem
      exact ⟨e, gen, sealed, (keeps l.groupId).wire _ mem⟩
    · exact on
  openable before forward after split := by
    have me := (keeps forward.groupId).me
    rw [me]
    rcases grows.wire with same | ⟨added, eq, ok, -⟩
    · exact h.openable before forward after (same ▸ split)
    · -- the new forward is the last one, every other one was there before
      rw [eq] at split
      rcases eq_nil_or_concat after with rfl | ⟨init, last, rfl⟩
      · obtain ⟨rfl, last⟩ := append_inj' split rfl
        cases last
        exact ok
      · rw [concat_eq_append, ← cons_append, ← append_assoc] at split
        exact h.openable before forward init (append_inj' split rfl).1

structure Still (s s' : SenderKeyService) : Prop where
  me : s'.me = s.me
  groups : s'.groups = s.groups
  store : s'.store = s.store
  runtimes : s'.runtimes = s.runtimes
  ledgers : s'.ledgers = s.ledgers
  nextLedger : s'.nextLedger = s.nextLedger
  cache : s'.sealedCache = s.sealedCache
  wire : ∀ forward ∈ s.wire, forward ∈ s'.wire

lemma Still.epoch? (h : Still s s') : s'.epoch? = s.epoch? := by
  funext gid
  simp [SenderKeyService.epoch?, record?, h.groups]

lemma Still.runtime (h : Still s s') : s'.runtime = s.runtime := by
  funext gid
  simp [SenderKeyService.runtime, h.runtimes]

lemma Still.ext (h : Still s s') (gid) : Ext s s' gid where
  me := h.me
  epoch := by rw [h.epoch?]
  chains e c hc := ⟨c, by rwa [h.store], rfl, rfl⟩
  ledgers ref l found := ⟨l, by rwa [h.ledgers], rfl, rfl, rfl⟩
  cache ref l b _ hb := by rwa [h.cache] at hb
  wire := h.wire

structure Sound (X : ServicePrimitives) (s : SenderKeyService) : Prop where
  grounded : Grounded X s
  flow : Flow X s

lemma Grounded.still (h : Grounded X s) (same : Still s s') : Grounded X s' := by
  obtain ⟨positive, counted, chains, past, heap, unique, kept⟩ := h
  refine ⟨?_, ?_, ?_, ?_, ?_, ?_, ?_⟩
  · rwa [same.epoch?]
  · rwa [same.runtime]
  · rwa [same.store, same.me]
  · rwa [same.store, same.epoch?]
  · rwa [same.ledgers, same.nextLedger]
  · rwa [same.ledgers]
  · rwa [same.runtime, same.ledgers]

lemma Sound.still (h : Sound X s) (same : Still s s') (grows : Grows X s s') : Sound X s' := by
  refine ⟨h.grounded.still same, h.flow.extend same.ext grows ?_ ?_⟩
  · intro ref l b found moving kept _
    rw [same.ledgers] at found
    rw [Kept, same.runtime] at kept
    exact .inl ⟨l, found, rfl, rfl, moving, kept⟩
  · intro ref l f found hsent
    rw [same.ledgers] at found
    exact .inl ⟨l, found, rfl, rfl, hsent⟩

lemma Sound.suspend (h : Sound X s) (id) (ok : TaskOk X s task)
    (reachable : ∀ q point, task = .drain q point → Reachable s q) :
    Sound X (s.suspend id task) := by
  have same : Still s (s.suspend id task) :=
    ⟨rfl, rfl, rfl, rfl, rfl, rfl, rfl, fun _ mem => mem⟩
  refine h.still same ⟨?_, ?_, fun _ _ _ => .inl, .inl rfl⟩
  · exact forall_of_set (.inr (ok.ext (same.ext _))) fun id' _ found => .inl ⟨id', found⟩
  · intro q reach m mem
    refine .inl ⟨?_, mem⟩
    rcases reach with queue | ⟨id', point, found⟩
    · exact .inl queue
    · rcases get?_of_set found with ⟨-, new⟩ | ⟨-, old⟩
      · exact reachable q point new.symm
      · exact .inr ⟨id', point, old⟩

lemma still_nextTask (s) (n : ℕ) : Still s { s with nextTask := n } :=
  ⟨rfl, rfl, rfl, rfl, rfl, rfl, rfl, fun _ mem => mem⟩

lemma Sound.nextTask (h : Sound X s) (n : ℕ) : Sound X { s with nextTask := n } := by
  refine h.still (still_nextTask s n) ⟨?_, ?_, fun _ _ _ => .inl, .inl rfl⟩
  · intro id task found
    exact .inl ⟨id, found⟩
  · intro q reach m mem
    exact .inl ⟨reach, mem⟩

lemma Sound.spawn (h : Sound X s) (ok : TaskOk X s task)
    (reachable : ∀ q point, task = .drain q point → Reachable s q) : Sound X (s.spawn task) :=
  (h.suspend s.nextTask ok reachable).nextTask (s.nextTask + 1)

lemma Sound.finish (h : Sound X s) (id) : Sound X (s.finish id) := by
  have old : ∀ id' task, (s.finish id).tasks.get? id' = some task →
      s.tasks.get? id' = some task := fun _ _ => get?_of_erase
  refine h.still ⟨rfl, rfl, rfl, rfl, rfl, rfl, rfl, fun _ mem => mem⟩
    ⟨?_, ?_, fun _ _ _ => .inl, .inl rfl⟩
  · intro id' task found
    exact .inl ⟨id', old id' task found⟩
  · intro q reach m mem
    refine .inl ⟨reach.imp_right ?_, mem⟩
    rintro ⟨id', point, found⟩
    exact ⟨id', point, old id' _ found⟩

lemma deque_setDeque (s : SenderKeyService) (q q' entries) :
    (s.setDeque q entries).deque q' = if q' = q then entries else s.deque q' := by
  simp only [deque, setDeque, get?_set]
  split_ifs <;> rfl

lemma Sound.setDeque (h : Sound X s) {entries}
    (known : ∀ m ∈ entries, Known X s q.groupId m) : Sound X (s.setDeque q entries) := by
  have same : Still s (s.setDeque q entries) := ⟨rfl, rfl, rfl, rfl, rfl, rfl, rfl, fun _ mem => mem⟩
  refine h.still same ⟨fun id task found => .inl ⟨id, found⟩, ?_, fun _ _ _ => .inl, .inl rfl⟩
  intro q' reach m mem
  rw [deque_setDeque] at mem
  split_ifs at mem with own
  · subst own
    exact .inr ((known m mem).ext (same.ext _))
  · exact .inl ⟨reach, mem⟩

lemma Sound.retryQueue (h : Sound X s) (gid f) :
    Sound X (s.retryQueue gid f).2 ∧ Reachable (s.retryQueue gid f).2 (s.retryQueue gid f).1 ∧
      (s.retryQueue gid f).1.groupId = gid ∧ Still s (s.retryQueue gid f).2 := by
  unfold SenderKeyService.retryQueue
  split
  · rename_i serial found
    exact ⟨h, .inl found, rfl, rfl, rfl, rfl, rfl, rfl, rfl, rfl, fun _ mem => mem⟩
  · dsimp only
    refine ⟨?_, .inl (get?_set_self _ _ _), rfl, rfl, rfl, rfl, rfl, rfl, rfl, rfl,
      fun _ mem => mem⟩
    have opened : Sound X (s.setDeque ⟨gid, f, s.nextDeque⟩ []) :=
      h.setDeque fun m mem => absurd mem not_mem_nil
    refine opened.still ⟨rfl, rfl, rfl, rfl, rfl, rfl, rfl, fun _ mem => mem⟩
      ⟨fun id task found => .inl ⟨id, found⟩, ?_, fun _ _ _ => .inl, .inl rfl⟩
    rintro ⟨group, member, serial⟩ reach m mem
    rcases reach with queue | draining
    · rw [get?_set] at queue
      split_ifs at queue with own
      · -- the queue just opened is empty
        obtain ⟨rfl, rfl⟩ := Prod.mk.inj own
        cases queue
        have empty := deque_setDeque s ⟨group, member, s.nextDeque⟩ ⟨group, member, s.nextDeque⟩ []
        rw [if_pos rfl] at empty
        exact absurd (empty ▸ mem) not_mem_nil
      · exact .inl ⟨.inl queue, mem⟩
    · exact .inl ⟨.inr draining, mem⟩

lemma mark_eq (s : SenderKeyService) (ref f state) :
    ∃ ledgers, s.mark ref f state = { s with ledgers } ∧
      ∀ ref', ledgers.get? ref' =
        (s.ledgers.get? ref').map fun l => if ref' = ref then l.mark f state else l := by
  unfold mark
  split
  · rename_i absent
    refine ⟨s.ledgers, rfl, ?_⟩
    intro ref'
    by_cases own : ref' = ref
    · rw [own, absent, map_none]
    · simp [own, Option.map_id']
  · rename_i l found
    refine ⟨_, rfl, ?_⟩
    intro ref'
    rw [get?_set]
    by_cases own : ref' = ref
    · rw [if_pos own, own, found, map_some, if_pos rfl]
    · simp [own, Option.map_id']

lemma Ext.refl (s gid) : Ext s s gid :=
  ⟨rfl, rfl, fun _ c hc => ⟨c, hc, rfl, rfl⟩, fun _ l found => ⟨l, found, rfl, rfl, rfl⟩,
    fun _ _ _ _ hb => hb, fun _ mem => mem⟩

lemma Ext.trans {s₁ s₂ s₃ gid} (h : Ext s₁ s₂ gid) (h' : Ext s₂ s₃ gid) : Ext s₁ s₃ gid where
  me := h'.me.trans h.me
  epoch := h'.epoch.trans h.epoch
  chains e c hc := by
    obtain ⟨c', hc', gen, root⟩ := h.chains e c hc
    obtain ⟨c'', hc'', gen', root'⟩ := h'.chains e c' hc'
    exact ⟨c'', hc'', gen'.trans gen, root'.trans root⟩
  ledgers ref l found := by
    obtain ⟨l', found', id, group, seq⟩ := h.ledgers ref l found
    obtain ⟨l'', found'', id', group', seq'⟩ := h'.ledgers ref l' found'
    exact ⟨l'', found'', id'.trans id, group'.trans group, seq'.trans seq⟩
  cache ref l b found hb := by
    obtain ⟨l', found', id, -, -⟩ := h.ledgers ref l found
    rw [← id] at hb
    exact h.cache ref l b found (id ▸ h'.cache ref l' b found' hb)
  wire forward mem := h'.wire forward (h.wire forward mem)

lemma mark_ident (l : GroupMessageLedger) (f state) (own : Prop) [Decidable own] :
    (if own then l.mark f state else l).messageId = l.messageId ∧
    (if own then l.mark f state else l).groupId = l.groupId ∧
    (if own then l.mark f state else l).gseq = l.gseq := by
  split_ifs <;> exact ⟨rfl, rfl, rfl⟩

lemma ext_mark (s : SenderKeyService) (ref f state gid) : Ext s (s.mark ref f state) gid := by
  obtain ⟨ledgers, eq, lookup⟩ := mark_eq s ref f state
  rw [eq]
  refine ⟨rfl, rfl, fun e c hc => ⟨c, hc, rfl, rfl⟩, ?_, fun _ _ _ _ hb => hb, fun _ mem => mem⟩
  intro ref' l found
  exact ⟨_, by rw [lookup, found, map_some], mark_ident l f state (ref' = ref)⟩

lemma ext_markKept (s : SenderKeyService) (gid id f state gid') :
    Ext s (s.markKept gid id f state) gid' := by
  unfold markKept
  split
  · exact Ext.refl s gid'
  · split_ifs
    · exact ext_mark s _ f state gid'
    · exact Ext.refl s gid'

section
variable (h : Sound X s)
include h

lemma Sound.mark (ref f) (state : DeliveryState)
    (flying : state.inFlight → ∀ l, s.ledgers.get? ref = some l → ∀ b,
      s.sealedCache.get? l.messageId = some b →
        Known X s l.groupId ⟨l.messageId, b.1, b.2.1, b.2.2⟩)
    (forwarded : state = .sent → ∀ l, s.ledgers.get? ref = some l →
      ∃ e gen sealed, .skmsg l.groupId e f gen l.gseq sealed ∈ s.wire) :
    Sound X (s.mark ref f state) := by
  have keeps := ext_mark s ref f state
  obtain ⟨ledgers, eq, lookup⟩ := mark_eq s ref f state
  rw [eq] at keeps ⊢
  -- whatever ledger is found was there before, with the same identity
  have before : ∀ ref' l, ledgers.get? ref' = some l → ∃ l₀, s.ledgers.get? ref' = some l₀ ∧
      l = if ref' = ref then l₀.mark f state else l₀ := by
    intro ref' l found
    rw [lookup] at found
    obtain ⟨l₀, found₀, rfl⟩ := map_eq_some_iff.mp found
    exact ⟨l₀, found₀, rfl⟩
  have ident := fun (ref' : ℕ) l₀ => mark_ident l₀ f state (ref' = ref)
  refine ⟨⟨h.grounded.positive, h.grounded.counted, h.grounded.chains, h.grounded.past, ?_, ?_, ?_⟩,
    h.flow.extend keeps ⟨fun id task found => .inl ⟨id, found⟩,
      fun q reach m mem => .inl ⟨reach, mem⟩, fun _ _ _ => .inl, .inl rfl⟩ ?_ ?_⟩
  · intro ref' l found
    obtain ⟨l₀, found₀, -⟩ := before ref' l found
    exact h.grounded.heap ref' l₀ found₀
  · intro ref₁ ref₂ l₁ l₂ found₁ found₂ same
    obtain ⟨m₁, old₁, rfl⟩ := before ref₁ l₁ found₁
    obtain ⟨m₂, old₂, rfl⟩ := before ref₂ l₂ found₂
    rw [(ident ref₁ m₁).1, (ident ref₂ m₂).1] at same
    exact h.grounded.unique ref₁ ref₂ m₁ m₂ old₁ old₂ same
  · intro gid mid ref' kept
    obtain ⟨l₀, found, hid, hgroup⟩ := h.grounded.kept gid mid ref' kept
    exact ⟨_, by rw [lookup, found, map_some], (ident ref' l₀).1.trans hid,
      (ident ref' l₀).2.1.trans hgroup⟩
  · intro ref' l b found moving kept hb
    obtain ⟨l₀, found₀, rfl⟩ := before ref' l found
    by_cases own : ref' = ref
    · subst own
      rw [if_pos rfl] at moving kept hb ⊢
      obtain ⟨f', state', hstate, flies⟩ := (inFlight_iff _).mp moving
      rcases get?_of_set hstate with ⟨-, rfl⟩ | ⟨-, hstate⟩
      · exact .inr ((flying flies l₀ found₀ b hb).ext (keeps _))
      · exact .inl ⟨l₀, found₀, rfl, rfl,
          (inFlight_iff _).mpr ⟨f', state', hstate, flies⟩, kept⟩
    · rw [if_neg own] at moving kept ⊢
      exact .inl ⟨l₀, found₀, rfl, rfl, moving, kept⟩
  · intro ref' l f' found hsent
    obtain ⟨l₀, found₀, rfl⟩ := before ref' l found
    by_cases own : ref' = ref
    · subst own
      rw [if_pos rfl] at hsent ⊢
      rcases get?_of_set hsent with ⟨rfl, new⟩ | ⟨-, hsent⟩
      · exact .inr (forwarded new.symm l₀ found₀)
      · exact .inl ⟨l₀, found₀, rfl, rfl, hsent⟩
    · rw [if_neg own] at hsent ⊢
      exact .inl ⟨l₀, found₀, rfl, rfl, hsent⟩

lemma Sound.settle (ref f) {state : DeliveryState}
    (settled : state.inFlight = false) : Sound X (s.mark ref f state) := by
  refine h.mark ref f state (fun moving => ?_) (fun sent => ?_)
  · rw [settled] at moving
    exact nomatch moving
  · rw [sent] at settled
    exact nomatch settled

lemma Sound.settleKept (gid id f) {state : DeliveryState} (settled : state.inFlight = false) :
    Sound X (s.markKept gid id f state) := by
  unfold SenderKeyService.markKept
  split
  · exact h
  · split_ifs
    · exact h.settle _ f settled
    · exact h

lemma ext_skRetryAdd (gid f entry gid') : Ext s (s.skRetryAdd gid f entry) gid' := by
  obtain ⟨-, -, -, same⟩ := h.retryQueue gid f
  have stored : Still s ((s.retryQueue gid f).2.setDeque (s.retryQueue gid f).1
      (((s.retryQueue gid f).2.deque (s.retryQueue gid f).1 ++ [entry]).drop
        (((s.retryQueue gid f).2.deque (s.retryQueue gid f).1 ++ [entry]).length -
          skRetryPerMember))) :=
    { same with }
  refine Runs.foldl_keeps (J := fun t => Ext _ t gid') ?_ _ (stored.ext gid')
  intro s dropped before
  exact before.trans (ext_markKept s gid dropped.messageId f .failed gid')

lemma Sound.skRetryAdd {gid} (f) {entry}
    (known : Known X s gid entry) : Sound X (s.skRetryAdd gid f entry) := by
  obtain ⟨opened, reachable, group, same⟩ := h.retryQueue gid f
  have entries : ∀ m ∈ (s.retryQueue gid f).2.deque (s.retryQueue gid f).1 ++ [entry],
      Known X (s.retryQueue gid f).2 (s.retryQueue gid f).1.groupId m := by
    intro m mem
    rcases mem_append.mp mem with old | new
    · exact opened.flow.queues _ reachable m old
    · rw [mem_singleton.mp new, group]
      exact known.ext (same.ext gid)
  refine Runs.foldl_keeps ?_ _ (opened.setDeque fun m mem => entries m (mem_of_mem_drop mem))
  intro s dropped h
  exact h.settleKept gid dropped.messageId f rfl

lemma Sound.requeueLedger (gid f)
    (kept : (s.runtime gid).ledgers.get? mid = some ref) : Sound X (requeueLedger gid f s ref) := by
  obtain ⟨l, found, -, group⟩ := h.grounded.kept gid mid ref kept
  simp only [SenderKeyService.requeueLedger, found]
  split_ifs with moving
  · split
    · exact h.settle ref f rfl
    · rename_i gen seq sealed hb
      have flying : l.inFlight := by
        rw [inFlight_iff]
        rcases moving with sending | sent
        · exact ⟨f, _, sending, rfl⟩
        · exact ⟨f, _, sent, rfl⟩
      have known := h.flow.cached ref l _ found flying ⟨mid, group ▸ kept⟩ hb
      rw [group] at known
      exact (h.skRetryAdd f known).settle ref f rfl
  · exact h

lemma Sound.requeueLedgers (gid f) (refs : List ℕ)
    (kept : ∀ ref ∈ refs, ∃ mid, (s.runtime gid).ledgers.get? mid = some ref) :
    Sound X (refs.foldl (SenderKeyService.requeueLedger gid f) s) := by
  induction refs generalizing s with
  | nil => exact h
  | cons ref refs ih =>
    obtain ⟨mid, hmid⟩ := kept ref mem_cons_self
    apply ih (h.requeueLedger gid f hmid)
    intro ref' mem
    have same := (frame_requeueLedger gid f s ref).runtimes
    rw [runtime, same]
    exact kept ref' (mem_cons_of_mem _ mem)

lemma Sound.skOfflineRequeue (gid f) : Sound X (s.skOfflineRequeue gid f) :=
  h.requeueLedgers gid f _ fun ref mem => (mem_values _ ref).mp mem

lemma Sound.applyGack (gid f id) : Sound X (s.applyGack gid f id) := by
  unfold SenderKeyService.applyGack
  split
  · exact h
  · split
    · exact h
    · split_ifs
      · exact h.settle _ f rfl
      · exact h

end

end SenderKeyService
end Ghostlink.Groups
