import Ghostlink.Base.Runs
import Ghostlink.Groups.AuthorityInvariants

/-! The relay's group handlers and its sweeper, over the authority. Popping the queue and
promoting the next head are two calls: the authority pops, the server asks for the next
signature task afterwards. A path that pops without asking leaves a head that no timeout
covers. -/

namespace Ghostlink.Groups
open Collections Text Checks List Option Dict GroupAuthority ExpiredNotice

def groupProtocolVersion : ℕ := 4
def groupSignReofferSeconds : Seconds := 15

/-- The version gate and, for leave, remove and dissolve, the rate gate are read before the
authority is asked. `redeemed` is the invite registry's verdict, `sent` whether the answer
reached the client: a failed send raises and ends the handler. -/
inductive Request
  | create (session name publicKeyHex pop nonce handle display suite : String)
      (drawn : List GroupId)
  | redeem (groupId session inviteId : String) (redeemed : Bool)
  | attest (session groupId publicKeyHex sig nonce handle display opId : String) (sent : Bool)
  | leave (groupId session opId : String) (allowed : Bool)
  | remove (groupId session subject opId : String) (allowed : Bool)
  | dissolve (groupId session opId : String) (allowed : Bool)
  | sign (groupId session opId sig : String)

inductive Handler
  | client (version : ℕ) (request : Request)
  | disconnect (session : String)
  | sweepGroups

structure Turn where
  handler : Handler
  clock : Clock
  reach : String → Bool

def GroupAuthority.signTaskAge (a : GroupAuthority) (groupId : String) (now : Seconds) :
    Option Seconds :=
  (a.find? groupId).bind fun g => g.ops.head?.map fun head =>
    match head.awaitingSince with
    | none => 0
    | some since => now - since

/-- `lastSignDelivery` holds the operation and session each group's last request went to. -/
structure RelayServer where
  authority : GroupAuthority
  lastSignDelivery : Dict String String

namespace RelayServer
variable (P : Primitives) (s : RelayServer)

def start (joinPending signTimeout retention : Seconds) : RelayServer :=
  ⟨init joinPending signTimeout retention, Dict.empty⟩

/-- The delivery recorded for a task: nothing if the signer is away, was asked already, or
could not be reached. -/
def recordDelivery (last : Dict String String) (groupId : String) (reach : String → Bool)
    (task : Option SignTask) : Dict String String :=
  match task.bind fun t => t.signerSession.map fun session => (session, t.opId ++ ":" ++ session) with
  | none => last
  | some (session, deliveryKey) =>
    if last.get? groupId = some deliveryKey then last
    else if reach session then last.set groupId deliveryKey
    else last

def deliverSignTask (groupId : String) (clock : Clock) (reach : String → Bool) : RelayServer :=
  let (a, task) := s.authority.nextSignTask P groupId clock
  ⟨a, recordDelivery s.lastSignDelivery groupId reach task⟩

def forgetDelivery (groupId : String) : RelayServer :=
  { s with lastSignDelivery := s.lastSignDelivery.erase groupId }

def handleGroupCreate (session name publicKeyHex pop nonce handle display suite : String)
    (drawn : List GroupId) (clock : Clock) : RelayServer :=
  { s with authority := (s.authority.createGroup P session name publicKeyHex pop nonce handle
      display suite drawn clock.wall).1 }

def handleGroupRedeem (groupId session inviteId : String) (redeemed : Bool) (clock : Clock) :
    RelayServer :=
  match s.authority.beginJoinRedemption groupId session inviteId clock.mono with
  | (a, .error _) => { s with authority := a }
  | (a, .ok _) =>
    if redeemed then { s with authority := a }
    else { s with authority := a.cancelPendingJoin groupId session }

def answer {α : Type} (P : Primitives) (s : RelayServer) (groupId : String) (clock : Clock)
    (reach : String → Bool) (reply : GroupAuthority × Except GroupError α) : RelayServer :=
  match reply with
  | (a, .error _) => { s with authority := a }
  | (a, .ok _) => { s with authority := a }.deliverSignTask P groupId clock reach

def handleGroupAttest (session groupId publicKeyHex sig nonce handle display opId : String)
    (sent : Bool) (clock : Clock) (reach : String → Bool) : RelayServer :=
  let reply := s.authority.attest P session groupId publicKeyHex sig nonce handle display opId
    clock.mono
  if sent then s.answer P groupId clock reach reply else { s with authority := reply.1 }

def handleGroupLeave (groupId session opId : String) (allowed : Bool) (clock : Clock)
    (reach : String → Bool) : RelayServer :=
  if allowed then
    s.answer P groupId clock reach (s.authority.requestLeave groupId session opId clock.mono)
  else s

def handleGroupRemove (groupId session subject opId : String) (allowed : Bool) (clock : Clock)
    (reach : String → Bool) : RelayServer :=
  if allowed then
    s.answer P groupId clock reach
      (s.authority.requestRemove P groupId session subject opId clock.mono)
  else s

def handleGroupDissolve (groupId session opId : String) (allowed : Bool) (clock : Clock)
    (reach : String → Bool) : RelayServer :=
  if allowed then
    s.answer P groupId clock reach (s.authority.requestDissolve groupId session opId clock.mono)
  else s

-- the broadcast of the committed event catches every failed send, so it changes nothing here
def handleGroupSign (groupId session opId sig : String) (clock : Clock) (reach : String → Bool) :
    RelayServer :=
  match s.authority.submitSignature P groupId session opId sig clock with
  | (a, .error _) => { s with authority := a }
  | (a, .ok _) =>
    ({ s with authority := a }.forgetDelivery groupId).deliverSignTask P groupId clock reach

def detachClient (session : String) : RelayServer :=
  { s with authority := s.authority.disbindSession session }

def notify (clock : Clock) (reach : String → Bool) (s : RelayServer) (groupId : GroupId) :
    RelayServer :=
  (s.forgetDelivery groupId.val).deliverSignTask P groupId.val clock reach

def reoffer (clock : Clock) (reach : String → Bool) (s : RelayServer) (groupId : GroupId) :
    RelayServer :=
  match s.authority.signTaskAge groupId.val clock.mono with
  | none => s
  | some age => if age > groupSignReofferSeconds then s.notify P clock reach groupId else s

/-- One round of `_sweep_groups`. The source sorts the ids of the second loop; the loop treats
each group on its own. -/
def sweepRound (clock : Clock) (reach : String → Bool) : RelayServer :=
  let (a, notices) := s.authority.sweep clock.mono
  let noticed := (notices.map groupId).foldl (notify P clock reach)
    { s with authority := a }
  noticed.authority.groups.keys.foldl (reoffer P clock reach) noticed

def handleRequest (clock : Clock) (reach : String → Bool) : Request → RelayServer
  | .create session name publicKeyHex pop nonce handle display suite drawn =>
    s.handleGroupCreate P session name publicKeyHex pop nonce handle display suite drawn clock
  | .redeem groupId session inviteId redeemed =>
    s.handleGroupRedeem groupId session inviteId redeemed clock
  | .attest session groupId publicKeyHex sig nonce handle display opId sent =>
    s.handleGroupAttest P session groupId publicKeyHex sig nonce handle display opId sent clock
      reach
  | .leave groupId session opId allowed =>
    s.handleGroupLeave P groupId session opId allowed clock reach
  | .remove groupId session subject opId allowed =>
    s.handleGroupRemove P groupId session subject opId allowed clock reach
  | .dissolve groupId session opId allowed =>
    s.handleGroupDissolve P groupId session opId allowed clock reach
  | .sign groupId session opId sig => s.handleGroupSign P groupId session opId sig clock reach

def step (t : Turn) : RelayServer :=
  match t.handler with
  | .client version request =>
    if version < groupProtocolVersion then s else s.handleRequest P t.clock t.reach request
  | .disconnect session => s.detachClient session
  | .sweepGroups => s.sweepRound P t.clock t.reach

def run (turns : List Turn) : RelayServer :=
  turns.foldl (step P) s

end RelayServer

namespace Group
variable {P : Primitives}

def HeadPromoted (g : Group) : Prop :=
  ∀ op, g.ops.head? = some op → op.awaitingSince.isSome

variable {g g' : Group} {e : GroupError} {opId session : String}

lemma HeadPromoted.of_ops (h : g.HeadPromoted) (same : g'.ops = g.ops) : g'.HeadPromoted := by
  intro op head
  exact h op (same ▸ head)

lemma headPromoted_promote (g : Group) (clock) : (g.promote clock).HeadPromoted := by
  intro op head
  unfold promote at head
  split at head
  · rename_i empty
    simp [empty] at head
  · rename_i first rest queue
    split_ifs at head with waiting
    · rw [queue] at head
      cases head
      exact waiting
    · cases head
      rfl

lemma promote_eq_self (h : g.HeadPromoted) (clock) : g.promote clock = g := by
  unfold promote
  split
  · rfl
  · rename_i first rest queue
    rw [if_pos (h first (by rw [queue, head?_cons]))]

lemma promote_groupId (g : Group) (clock) : (g.promote clock).groupId = g.groupId := by
  unfold promote
  split
  · rfl
  · split_ifs <;> rfl

lemma abortHeadOp_ops (g : Group) : g.abortHeadOp.ops = g.ops.tail := by
  unfold abortHeadOp
  split
  · rename_i empty
    simp [empty]
  · rename_i op rest queue
    rw [queue]
    split <;> rfl

lemma Pinned.headPromoted_tail_iff (pinned : g.Pinned)
    (popped : g'.ops = g.ops.tail) : g'.HeadPromoted ↔ g.ops.tail = [] := by
  unfold HeadPromoted
  rw [popped]
  constructor
  · intro promoted
    cases rest : g.ops.tail with
    | nil => rfl
    | cons op =>
      have waiting := promoted op (by rw [rest, head?_cons])
      rw [pinned.tail op (by rw [rest]; exact mem_cons_self)] at waiting
      cases waiting
  · intro empty op head
    simp [empty] at head

variable {now : Seconds} {clock : Clock} {sig : String}

lemma enqueueOp_refused {action subject signer}
    (h : (g.enqueueOp action subject signer opId now).2 = .error e) :
    (g.enqueueOp action subject signer opId now).1 = g := by
  unfold enqueueOp at h ⊢
  split_ifs at h ⊢
  · rfl
  · split at h <;> cases h

lemma checked_refused_ops {α β : Type} {check} {k : β → Group × Except GroupError α}
    (h : (g.checked check k).2 = .error e)
    (passed : ∀ b, (k b).2 = .error e → (k b).1.ops = g.ops) :
    (g.checked check k).1.ops = g.ops := by
  cases hc : check with
  | error => rfl
  | ok b =>
    rw [hc] at h
    exact passed b h

lemma checked_enqueueOp_refused {β : Type} {check action} {subject signer : β → _}
    (h : (g.checked check fun b => g.enqueueOp action (subject b) (signer b) opId now).2 = .error e) :
    (g.checked check fun b => g.enqueueOp action (subject b) (signer b) opId now).1.ops = g.ops :=
  checked_refused_ops h fun _ failed => congrArg ops (enqueueOp_refused failed)

lemma attestAs_refused_ops {f key handle display tombstoned}
    (h : (g.attestAs f session key handle display tombstoned opId now).2 = .error e) :
    (g.attestAs f session key handle display tombstoned opId now).1.ops = g.ops := by
  unfold attestAs at h ⊢
  split at h
  · apply checked_refused_ops h
    intro _ _
    rfl
  · apply checked_refused_ops h
    intro _ refused
    have queued : ((g.seatCandidate f session key handle display).enqueueOp (.join g.nextRef) f
        g.ownerFingerprint opId now).2 = .error e := by
      revert refused
      dsimp only
      cases ((g.seatCandidate f session key handle display).enqueueOp (.join g.nextRef) f
        g.ownerFingerprint opId now).2 with
      | error e' => exact fun refused => congrArg Except.error (Except.error.inj refused)
      | ok op => exact fun refused => absurd refused (by rintro ⟨⟩)
    have same := congrArg Group.ops (enqueueOp_refused queued)
    exact same

lemma attestAs_headPromoted_iff (promoted : g.HeadPromoted)
    (f session key handle display opId tombstoned now) :
    (g.attestAs f session key handle display tombstoned opId now).1.HeadPromoted ↔
      (¬ g.Active f → g.admissionCheck f session tombstoned = .ok () → g.ops ≠ []) := by
  unfold attestAs
  split
  · rename_i r seat
    obtain ⟨seated, active⟩ := filter_eq_some_iff.mp seat
    refine ⟨fun _ notActive => absurd ⟨r, seated, by simpa using active⟩ notActive, fun _ => ?_⟩
    apply checked_fst promoted
    intro _ _
    exact promoted.of_ops rfl
  · rename_i unseated
    have notActive : ¬ g.Active f := by
      rintro ⟨r, seated, active⟩
      simp [seated, active] at unseated
    cases hc : g.admissionCheck f session tombstoned with
    | error =>
      refine ⟨fun _ _ passed => ?_, fun _ => promoted⟩
      cases passed
    | ok _ =>
      have cases := (g.seatCandidate f session key handle display).enqueueOp_cases
        (.join g.nextRef) f g.ownerFingerprint opId now
      simp only [checked]
      obtain ⟨same, held⟩ | ⟨appended, _⟩ := cases
      · rw [same]
        refine ⟨fun _ _ _ empty => ?_, fun _ => promoted.of_ops rfl⟩
        change groupMaxPendingOps ≤ g.ops.length ∨ ∃ o ∈ g.ops, _ at held
        rw [empty] at held
        obtain full | ⟨o, mem, _⟩ := held
        · exact absurd full (by decide)
        · cases mem
      · rw [appended]
        refine ⟨fun queued _ _ empty => ?_, fun nonempty op head => ?_⟩
        · have waiting := queued _ (by
            change (g.ops ++ _).head? = _
            rw [empty]
            rfl)
          cases waiting
        · obtain ⟨first, rest, queue⟩ := exists_cons_of_ne_nil (nonempty notActive trivial)
          change (g.ops ++ _).head? = some op at head
          rw [queue, cons_append, head?_cons] at head
          exact promoted op (by rw [queue, head?_cons, head])

def Aborts (P : Primitives) (g : Group) (session opId sig : String) : Prop :=
  ∃ op signer signature, g.settleCheck P session opId sig = .ok (op, signer, signature) ∧
    verifySignature P ((fromHex signer.publicKeyHex).getD []) signature op.canonical = false

lemma submitSignature_refused (pinned : g.Pinned) (promoted : g.HeadPromoted)
    (h : g.submitSignature P session opId sig clock = (g', .error e)) :
    g'.HeadPromoted ↔ (g.Aborts P session opId sig → g.ops.tail = []) := by
  unfold submitSignature checked at h
  cases hc : g.settleCheck P session opId sig with
  | error =>
    rw [hc] at h
    cases h
    refine ⟨?_, fun _ => promoted⟩
    rintro _ ⟨op, signer, signature, passed, _⟩
    simp [hc] at passed
  | ok t =>
    obtain ⟨op, signer, signature⟩ := t
    rw [hc] at h
    dsimp only at h
    split_ifs at h with verified
    · cases h
    · obtain rfl : g.abortHeadOp = g' := congrArg Prod.fst h
      rw [pinned.headPromoted_tail_iff g.abortHeadOp_ops]
      refine ⟨fun empty _ => empty, fun behind => behind ⟨op, signer, signature, hc, ?_⟩⟩
      exact Bool.eq_false_iff.mpr verified

lemma submitSignature_accepted {c} (h : g.submitSignature P session opId sig clock = (g', .ok c)) :
    ¬ g.Aborts P session opId sig := by
  rintro ⟨op, signer, signature, passed, unverified⟩
  unfold submitSignature checked at h
  rw [passed] at h
  dsimp only at h
  rw [if_neg (by rw [unverified]; exact Bool.false_ne_true)] at h
  cases h

lemma sweep_ops (g : Group) (joinPending signTimeout now) :
    (g.sweep joinPending signTimeout now).1.ops =
      if g.headTimedOut signTimeout now then g.ops.tail else g.ops := by
  change ((g.expireJoins joinPending now).1.expireHead signTimeout now).1.ops = _
  unfold expireHead
  change (if g.headTimedOut signTimeout now then _ else _ : Group × List ExpiredNotice).1.ops = _
  split_ifs
  · exact abortHeadOp_ops _
  · rfl

lemma sweep_headPromoted_iff (pinned : g.Pinned) (promoted : g.HeadPromoted)
    (joinPending signTimeout now) : (g.sweep joinPending signTimeout now).1.HeadPromoted ↔
      (g.headTimedOut signTimeout now → g.ops.tail = []) := by
  have ops := g.sweep_ops joinPending signTimeout now
  split_ifs at ops with late
  · rw [pinned.headPromoted_tail_iff ops]
    exact ⟨fun empty _ => empty, fun behind => behind late⟩
  · exact ⟨fun _ timedOut => absurd timedOut late, fun _ => promoted.of_ops ops⟩

lemma sweep_notice_groupId {joinPending signTimeout}
    {n : ExpiredNotice} (h : n ∈ (g.sweep joinPending signTimeout now).2) :
    n.groupId = g.groupId := by
  simp only [sweep] at h
  obtain joins | head := mem_append.mp h
  · obtain ⟨_, _, rfl⟩ := mem_map.mp joins
    rfl
  · unfold expireHead at head
    split_ifs at head
    · dsimp only at head
      split at head
      · rw [mem_singleton.mp head]
        rfl
      · cases head
    · cases head

lemma HeadPromoted.sweep_moves (promoted : g.HeadPromoted) (waiting : g.ops ≠ []) :
    ∃ since, ∀ joinPending signTimeout now : Seconds, now - since > signTimeout →
      (g.sweep joinPending signTimeout now).1.ops = g.ops.tail := by
  obtain ⟨op, rest, queue⟩ := exists_cons_of_ne_nil waiting
  obtain ⟨since, awaiting⟩ := isSome_iff_exists.mp (promoted op (by rw [queue, head?_cons]))
  refine ⟨since, fun joinPending signTimeout now late => ?_⟩
  have timedOut : g.headTimedOut signTimeout now := by
    simp only [headTimedOut, queue, head?_cons, bind_some, awaiting]
    exact decide_eq_true late
  rw [sweep_ops, if_pos timedOut]

end Group

namespace GroupAuthority
variable {P : Primitives} {a : GroupAuthority}

def Promoted (a : GroupAuthority) : Prop := ∀ gid g, a.groups.get? gid = some g → g.HeadPromoted

def PromotedExcept (a : GroupAuthority) (groupId : String) : Prop :=
  ∀ gid : GroupId, gid.val ≠ groupId → ∀ g, a.groups.get? gid = some g → g.HeadPromoted

def Reached (P : Primitives) (a : GroupAuthority) : Prop :=
  ∃ joinPending signTimeout retention calls,
    (run P (init joinPending signTimeout retention) calls).authority = a

lemma Reached.exec (h : Reached P a) (clock call) : Reached P (a.exec P clock call).1 := by
  obtain ⟨joinPending, signTimeout, retention, calls, rfl⟩ := h
  refine ⟨joinPending, signTimeout, retention, calls ++ [(clock, call)], ?_⟩
  rw [run, foldl_append]
  rfl

lemma Reached.keyed (h : Reached P a) : a.Keyed := by
  obtain ⟨joinPending, signTimeout, retention, calls, rfl⟩ := h
  exact (sound_run P joinPending signTimeout retention calls).keyed

variable {g : Group}

lemma Reached.pinned (h : Reached P a) {gid} (live : a.groups.get? gid = some g) : g.Pinned := by
  obtain ⟨joinPending, signTimeout, retention, calls, rfl⟩ := h
  obtain ⟨_, _, _, _, lived⟩ := (sound_run P joinPending signTimeout retention calls).live gid g live
  exact lived.pinned

lemma find?_val (a : GroupAuthority) (gid : GroupId) : a.find? gid.val = a.groups.get? gid := by
  rw [find?, GroupId.ofString?_val, bind_some]

lemma Promoted.put (h : a.Promoted) (promoted : g.HeadPromoted) : (a.put g).Promoted :=
  forall_of_set promoted h

lemma Promoted.put_iff (h : a.Promoted) (g : Group) : (a.put g).Promoted ↔ g.HeadPromoted :=
  ⟨fun after => after g.groupId g (get?_set_self ..), h.put⟩

variable {α : Type} {a' : GroupAuthority} {clock : Clock} {opId session sig : String}

lemma Promoted.onGroup_iff (h : a.Promoted) (groupId) (f : Group → Group × Except GroupError α) :
    (a.onGroup groupId f).1.Promoted ↔ ∀ g, a.require groupId = .ok g → (f g).1.HeadPromoted := by
  unfold onGroup
  cases required : a.require groupId with
  | error =>
    refine ⟨fun _ g found => ?_, fun _ => h⟩
    cases found
  | ok g =>
    refine (h.put_iff _).trans ⟨fun after g' found => ?_, fun all => all g rfl⟩
    cases found
    exact after

lemma Promoted.except_put (h : a.Promoted) {groupId}
    (named : g.groupId.val = groupId) : (a.put g).PromotedExcept groupId := by
  intro gid other g' live
  have ne : gid ≠ g.groupId := by
    rintro rfl
    exact other named
  rw [GroupAuthority.put, get?_set_ne _ _ ne] at live
  exact h gid g' live

lemma require_named (keyed : a.Keyed) {groupId}
    (h : a.require groupId = .ok g) : g.groupId.val = groupId := by
  obtain ⟨gid, named, live⟩ := require_ok h
  rw [keyed.live gid g live, named]

lemma Promoted.except_onGroup (h : a.Promoted) (keyed : a.Keyed) {groupId}
    {f : Group → Group × Except GroupError α} (same : ∀ g, (f g).1.groupId = g.groupId) :
    (a.onGroup groupId f).1.PromotedExcept groupId := by
  unfold onGroup
  cases required : a.require groupId with
  | error => exact fun gid _ => h gid
  | ok => exact h.except_put (by rw [same, require_named keyed required])

lemma get?_nextSignTask (keyed : a.Keyed) (groupId clock) (gid : GroupId) :
    (a.nextSignTask P groupId clock).1.groups.get? gid =
      (a.groups.get? gid).map fun g => if gid.val = groupId then g.promote clock else g := by
  unfold nextSignTask
  cases found : a.find? groupId with
  | none =>
    by_cases named : gid.val = groupId
    · rw [← named, find?_val] at found
      simp [found]
    · simp [if_neg named, Option.map_id']
  | some g =>
    obtain ⟨gid', rfl, live⟩ := find?_some found
    have filed : (g.promote clock).groupId = gid' := by
      rw [g.promote_groupId, keyed.live gid' g live]
    simp only [put, filed, get?_set]
    by_cases here : gid = gid'
    · subst here
      simp [live]
    · have other : gid.val ≠ gid'.val := fun same => here (Subtype.ext same)
      simp [if_neg here, if_neg other, Option.map_id']

lemma PromotedExcept.nextSignTask {groupId} (h : a.PromotedExcept groupId)
    (keyed : a.Keyed) (clock) : (a.nextSignTask P groupId clock).1.Promoted := by
  intro gid g live
  rw [get?_nextSignTask keyed] at live
  obtain ⟨g₀, before, rfl⟩ := map_eq_some_iff.mp live
  split_ifs with named
  · exact g₀.headPromoted_promote clock
  · exact h gid named g₀ before

section
variable (h : a.Promoted)
include h

lemma Promoted.createGroup (session name key pop nonce handle display suite drawn wall) :
    (a.createGroup P session name key pop nonce handle display suite drawn wall).1.Promoted := by
  unfold GroupAuthority.createGroup
  split
  · exact h
  · apply h.put
    intro op head
    cases head

lemma Promoted.beginJoinRedemption (groupId session inviteId now) :
    (a.beginJoinRedemption groupId session inviteId now).1.Promoted := by
  refine (h.onGroup_iff ..).mpr fun g required => ?_
  obtain ⟨gid, _, live⟩ := require_ok required
  apply Group.checked_fst (h gid g live)
  intro _ _
  exact (h gid g live).of_ops rfl

lemma Promoted.cancelPendingJoin (groupId session) :
    (a.cancelPendingJoin groupId session).Promoted := by
  unfold GroupAuthority.cancelPendingJoin
  split
  · exact h
  · rename_i g found
    obtain ⟨gid, _, live⟩ := find?_some found
    exact h.put ((h gid g live).of_ops rfl)

lemma Promoted.disbindSession (session) :
    (a.disbindSession session).Promoted := by
  intro gid g live
  simp only [GroupAuthority.disbindSession, get?_mapVals] at live
  obtain ⟨g₀, before, rfl⟩ := map_eq_some_iff.mp live
  exact (h gid g₀ before).of_ops rfl

lemma Promoted.submitSignature_refused (reached : Reached P a) {groupId e}
    (refused : a.submitSignature P groupId session opId sig clock = (a', .error e)) : a'.Promoted ↔
      ∀ g, a.require groupId = .ok g → g.Aborts P session opId sig → g.ops.tail = [] := by
  unfold submitSignature at refused
  cases required : a.require groupId with
  | error =>
    rw [required] at refused
    cases refused
    refine ⟨fun _ g found => ?_, fun _ => h⟩
    cases found
  | ok g =>
    obtain ⟨gid, _, live⟩ := require_ok required
    rw [required] at refused
    cases submitted : g.submitSignature P session opId sig clock with
    | mk g' result =>
      simp only [submitted] at refused
      cases result with
      | ok =>
        dsimp only at refused
        split_ifs at refused <;> cases refused
      | error =>
        cases refused
        rw [h.put_iff, Group.submitSignature_refused (reached.pinned live) (h gid g live) submitted]
        refine ⟨fun behind g₁ found => ?_, fun all => all g rfl⟩
        cases found
        exact behind

lemma Promoted.submitSignature_accepted (reached : Reached P a) {groupId c}
    (accepted : a.submitSignature P groupId session opId sig clock = (a', .ok c)) :
    a'.PromotedExcept groupId ∧
      ∀ g, a.require groupId = .ok g → ¬ g.Aborts P session opId sig := by
  unfold submitSignature at accepted
  cases required : a.require groupId with
  | error =>
    simp [required] at accepted
  | ok g =>
    rw [required] at accepted
    have settled : ∃ op signer signature, Group.Settles P g op signer signature ∧
        g.submitSignature P session opId sig clock =
          (g.settled op signature clock, .ok (g.settledReply op signature clock)) := by
      obtain settled | ⟨g', e, _, refused⟩ := g.submitSignature_cases session opId sig clock
      · exact settled
      · simp only [refused] at accepted
        cases accepted
    obtain ⟨op, signer, signature, settles, submitted⟩ := settled
    have named : (g.settled op signature clock).groupId.val = groupId := by
      rw [(Group.Step.settle clock settles).identity.1, require_named reached.keyed required]
    refine ⟨?_, fun g' found => ?_⟩
    · simp only [submitted] at accepted
      split_ifs at accepted with dissolves
      · cases accepted
        intro gid other g' live
        exact h gid g' (get?_of_erase live)
      · cases accepted
        exact h.except_put named
    · cases found
      exact Group.submitSignature_accepted submitted

end

end GroupAuthority

/-- An attestation whose answer cannot be sent must not open a queue, and a signature that
drops the head must drop the whole queue. Nothing else a client asks for matters. -/
def Request.KeepsMoving (P : Primitives) (a : GroupAuthority) : Request → Prop
  | .attest session groupId key sig nonce handle display opId sent =>
    sent ∨ ∀ g f,
      a.Admits P (.attest session groupId key sig nonce handle display opId) g f → g.ops ≠ []
  | .sign groupId session opId sig =>
    ∀ g, a.require groupId = .ok g → g.Aborts P session opId sig → g.ops.tail = []
  | _ => True

def Turn.KeepsMoving (P : Primitives) (s : RelayServer) (t : Turn) : Prop :=
  match t.handler with
  | .client version request =>
    version < groupProtocolVersion ∨ request.KeepsMoving P s.authority
  | .disconnect _ => True
  | .sweepGroups => ∀ gid g, s.authority.groups.get? gid = some g →
      g.headTimedOut s.authority.signTimeout t.clock.mono →
      (g.sweep s.authority.joinPending s.authority.signTimeout t.clock.mono).2 = [] →
      g.ops.tail = []

namespace RelayServer
open GroupAuthority
variable {P : Primitives} {s : RelayServer}

lemma redeem_keeps {K : GroupAuthority → Prop} {groupId session inviteId} {clock : Clock}
    (begun : K (s.authority.beginJoinRedemption groupId session inviteId clock.mono).1)
    (cancels : ∀ a, K a → K (a.cancelPendingJoin groupId session)) (redeemed) :
    K (s.handleGroupRedeem groupId session inviteId redeemed clock).authority := by
  unfold handleGroupRedeem
  split
  next reply => rwa [reply] at begun
  next reply =>
    rw [reply] at begun
    split_ifs
    · exact begun
    · exact cancels _ begun

lemma reached_deliverSignTask (h : Reached P s.authority) (groupId clock)
    (reach) : Reached P (s.deliverSignTask P groupId clock reach).authority :=
  h.exec clock (.nextSignTask groupId)

variable {α : Type}

lemma reached_answer {reply : GroupAuthority × Except GroupError α}
    (h : Reached P reply.1) (groupId clock reach) :
    Reached P (s.answer P groupId clock reach reply).authority := by
  obtain ⟨a, result⟩ := reply
  cases result with
  | error => exact h
  | ok => exact reached_deliverSignTask h groupId clock reach

section
variable (h : Reached P s.authority)
include h

lemma reached_reoffer (clock reach)
    (groupId) : Reached P (s.reoffer P clock reach groupId).authority := by
  unfold reoffer
  split
  · exact h
  · split_ifs
    · exact reached_deliverSignTask h groupId.val clock reach
    · exact h

lemma reached_sweepRound (clock reach) :
    Reached P (s.sweepRound P clock reach).authority := by
  apply List.foldlRecOn (motive := fun s => Reached P (RelayServer.authority s))
  · apply List.foldlRecOn (motive := fun s => Reached P (RelayServer.authority s))
    · exact h.exec clock .sweep
    · intro s reached groupId _
      exact reached_deliverSignTask reached groupId.val clock reach
  · intro s reached groupId _
    exact reached_reoffer reached clock reach groupId

lemma reached_handleRequest (clock reach)
    (request) : Reached P (s.handleRequest P clock reach request).authority := by
  cases request with
  | create session name key pop nonce handle display suite drawn =>
    exact h.exec clock (.createGroup session name key pop nonce handle display suite drawn)
  | redeem groupId session inviteId =>
    have begun := h.exec clock (.beginJoinRedemption groupId session inviteId)
    simp only [exec] at begun
    exact redeem_keeps begun (fun _ held => held.exec clock (.cancelPendingJoin groupId session)) _
  | attest session groupId key sig nonce handle display opId =>
    have reply := h.exec clock (.attest session groupId key sig nonce handle display opId)
    simp only [exec] at reply
    simp only [handleRequest, handleGroupAttest]
    split_ifs
    · exact reached_answer reply groupId clock reach
    · exact reply
  | leave groupId session opId =>
    simp only [handleRequest, handleGroupLeave]
    split_ifs
    · exact reached_answer (h.exec clock (.requestLeave ..)) groupId clock reach
    · exact h
  | remove groupId session subject opId =>
    simp only [handleRequest, handleGroupRemove]
    split_ifs
    · exact reached_answer (h.exec clock (.requestRemove ..)) groupId clock reach
    · exact h
  | dissolve groupId session opId =>
    simp only [handleRequest, handleGroupDissolve]
    split_ifs
    · exact reached_answer (h.exec clock (.requestDissolve ..)) groupId clock reach
    · exact h
  | sign groupId session opId sig =>
    have settled := h.exec clock (.submitSignature groupId session opId sig)
    simp only [exec] at settled
    simp only [handleRequest, handleGroupSign]
    cases reply : s.authority.submitSignature P groupId session opId sig clock with
    | mk a result =>
      rw [reply] at settled
      cases result with
      | error => exact settled
      | ok => exact reached_deliverSignTask settled groupId clock reach

lemma reached_step (t) : Reached P (s.step P t).authority := by
  obtain ⟨handler, clock, reach⟩ := t
  cases handler with
  | client version request =>
    simp only [step]
    split_ifs
    · exact h
    · exact reached_handleRequest h clock reach request
  | disconnect session => exact h.exec clock (.disbindSession session)
  | sweepGroups => exact reached_sweepRound h clock reach

end

section
variable (reached : Reached P s.authority)
include reached

section
variable (promoted : s.authority.Promoted)
include promoted

lemma promoted_answer {groupId clock reach} {f : Group → Group × Except GroupError α}
    (replied : Reached P (s.authority.onGroup groupId f).1)
    (same : ∀ g, (f g).1.groupId = g.groupId)
    (refused : ∀ g e, (f g).2 = .error e → (f g).1.ops = g.ops) :
    (s.answer P groupId clock reach (s.authority.onGroup groupId f)).authority.Promoted := by
  have others : (s.authority.onGroup groupId f).1.PromotedExcept groupId :=
    promoted.except_onGroup reached.keyed same
  have answered : ∀ e, (s.authority.onGroup groupId f).2 = .error e →
      (s.authority.onGroup groupId f).1.Promoted := by
    intro e failed
    refine (promoted.onGroup_iff groupId f).mpr fun g required => ?_
    obtain ⟨gid, _, live⟩ := require_ok required
    rw [onGroup, required] at failed
    exact (promoted gid g live).of_ops (refused g e failed)
  cases reply : s.authority.onGroup groupId f with
  | mk a result =>
    rw [reply] at others answered replied
    cases result with
    | error e => exact answered e rfl
    | ok => exact others.nextSignTask replied.keyed clock

lemma promoted_handleGroupAttest_iff (session groupId key sig nonce handle display opId sent clock)
    (reach : String → Bool) :
    (s.handleGroupAttest P session groupId key sig nonce handle display opId sent clock
        reach).authority.Promoted ↔
      (Request.attest session groupId key sig nonce handle display opId sent).KeepsMoving P
        s.authority := by
  simp only [handleGroupAttest, Request.KeepsMoving]
  cases sent with
  | true =>
    refine ⟨fun _ => .inl rfl, fun _ => ?_⟩
    have replied := reached.exec clock (.attest session groupId key sig nonce handle display opId)
    simp only [exec] at replied
    rw [if_pos rfl]
    apply promoted_answer reached promoted replied
    · intro g
      cases identity : attestedIdentity P groupId key sig nonce handle with
      | error => rfl
      | ok f =>
        obtain quiet | ⟨_, seated⟩ := g.attestAs_cases (P := P) f session key handle display
          (s.authority.dissolved.contains g.groupId) opId clock.mono
        · exact quiet.groupId
        · exact seated.identity.1
    · intro g e failed
      apply Group.checked_refused_ops failed
      intro f failed
      exact Group.attestAs_refused_ops failed
  | false =>
    rw [if_neg Bool.false_ne_true]
    refine (promoted.onGroup_iff ..).trans ?_
    constructor
    · intro queued
      right
      rintro g f ⟨required, identity, notActive, check⟩
      obtain ⟨gid, _, live⟩ := require_ok required
      have after := queued g required
      rw [identity] at after
      exact (Group.attestAs_headPromoted_iff (promoted gid g live) ..).mp after notActive check
    · rintro (⟨⟨⟩⟩ | nonempty) g required
      obtain ⟨gid, _, live⟩ := require_ok required
      apply Group.checked_fst (promoted gid g live)
      intro f identity
      refine (Group.attestAs_headPromoted_iff (promoted gid g live) ..).mpr ?_
      intro notActive check
      exact nonempty g f ⟨required, identity, notActive, check⟩

lemma promoted_handleGroupSign_iff (groupId session opId sig clock reach) :
    (s.handleGroupSign P groupId session opId sig clock reach).authority.Promoted ↔
      (Request.sign groupId session opId sig).KeepsMoving P s.authority := by
  have settled := reached.exec clock (.submitSignature groupId session opId sig)
  simp only [exec] at settled
  simp only [handleGroupSign, Request.KeepsMoving]
  cases reply : s.authority.submitSignature P groupId session opId sig clock with
  | mk a result =>
    rw [reply] at settled
    cases result with
    | error => exact promoted.submitSignature_refused reached reply
    | ok =>
      obtain ⟨others, kept⟩ := promoted.submitSignature_accepted reached reply
      refine ⟨fun _ g required aborts => absurd aborts (kept g required), fun _ => ?_⟩
      exact others.nextSignTask settled.keyed clock

lemma promoted_handleRequest_iff (clock) (reach : String → Bool) (request : Request) :
    (s.handleRequest P clock reach request).authority.Promoted ↔
      request.KeepsMoving P s.authority := by
  cases request with
  | create session name key pop nonce handle display suite drawn =>
    refine iff_of_true ?_ trivial
    simp only [handleRequest, handleGroupCreate]
    exact promoted.createGroup session name key pop nonce handle display suite drawn clock.wall
  | redeem groupId session inviteId =>
    have begun := promoted.beginJoinRedemption groupId session inviteId clock.mono
    exact iff_of_true (redeem_keeps begun (fun _ held => held.cancelPendingJoin groupId session) _)
      trivial
  | attest =>
    exact promoted_handleGroupAttest_iff reached promoted ..
  | leave groupId session opId =>
    refine iff_of_true ?_ trivial
    simp only [handleRequest, handleGroupLeave]
    split_ifs
    · refine promoted_answer reached promoted (reached.exec clock (.requestLeave ..)) ?_ ?_
      · exact fun g => (g.quiet_requestLeave (P := P) session opId clock.mono).groupId
      · exact fun g e => Group.checked_enqueueOp_refused
    · exact promoted
  | remove groupId session subject opId =>
    refine iff_of_true ?_ trivial
    simp only [handleRequest, handleGroupRemove]
    split_ifs
    · refine promoted_answer reached promoted (reached.exec clock (.requestRemove ..)) ?_ ?_
      · exact fun g => (g.quiet_requestRemove session subject opId clock.mono).groupId
      · exact fun g e => Group.checked_enqueueOp_refused
    · exact promoted
  | dissolve groupId session opId =>
    refine iff_of_true ?_ trivial
    simp only [handleRequest, handleGroupDissolve]
    split_ifs
    · refine promoted_answer reached promoted (reached.exec clock (.requestDissolve ..)) ?_ ?_
      · exact fun g => (g.quiet_requestDissolve (P := P) session opId clock.mono).groupId
      · exact fun g e => Group.checked_enqueueOp_refused
    · exact promoted
  | sign => exact promoted_handleGroupSign_iff reached promoted ..

end

lemma get?_notify (clock reach)
    (groupId gid) : (s.notify P clock reach groupId).authority.groups.get? gid =
      (s.authority.groups.get? gid).map fun g => if gid = groupId then g.promote clock else g := by
  simp only [← Subtype.val_inj]
  exact get?_nextSignTask reached.keyed groupId.val clock gid

lemma get?_foldl_notify (clock) (reach) (groupIds : List GroupId) (gid) :
    (groupIds.foldl (notify P clock reach) s).authority.groups.get? gid =
      (s.authority.groups.get? gid).map fun g =>
        if gid ∈ groupIds then g.promote clock else g := by
  induction groupIds generalizing s with
  | nil => simp
  | cons groupId rest ih =>
    have notified : Reached P (s.notify P clock reach groupId).authority :=
      reached_deliverSignTask reached groupId.val clock reach
    rw [List.foldl_cons, ih notified, get?_notify reached, Option.map_map]
    congr 1
    funext g
    by_cases here : gid = groupId
    · have again := Group.promote_eq_self (g.headPromoted_promote clock) clock
      simp [here, again]
    · simp [here]

lemma get?_reoffer (clock reach)
    (groupId gid) : (s.reoffer P clock reach groupId).authority.groups.get? gid =
      s.authority.groups.get? gid := by
  unfold reoffer
  cases aged : s.authority.signTaskAge groupId.val clock.mono with
  | none => rfl
  | some age =>
    dsimp only
    split_ifs with late
    · rw [get?_notify reached]
      by_cases here : gid = groupId
      · subst here
        simp only [signTaskAge, find?_val] at aged
        obtain ⟨g, live, aged⟩ := bind_eq_some_iff.mp aged
        obtain ⟨head, first, aged⟩ := map_eq_some_iff.mp aged
        have promoted : g.HeadPromoted := by
          intro op isHead
          cases first.symm.trans isHead
          cases awaiting : head.awaitingSince with
          | none =>
            have fresh : (0 : Seconds) = age := by rw [← aged, awaiting]
            rw [← fresh] at late
            exact absurd late (by decide)
          | some => rfl
        simp [live, Group.promote_eq_self promoted]
      · simp [if_neg here, Option.map_id']
    · rfl

lemma get?_foldl_reoffer (clock) (reach) (groupIds : List GroupId) (gid) :
    (groupIds.foldl (reoffer P clock reach) s).authority.groups.get? gid =
      s.authority.groups.get? gid := by
  induction groupIds generalizing s with
  | nil => rfl
  | cons groupId rest ih =>
    rw [foldl_cons, ih (reached_reoffer reached clock reach groupId), get?_reoffer reached]

end

lemma mem_sweep_notices_iff {a : GroupAuthority} (keyed : a.Keyed) {gid} {g : Group}
    (live : a.groups.get? gid = some g) (now) : gid ∈ (a.sweep now).2.map groupId ↔
      (g.sweep a.joinPending a.signTimeout now).2 ≠ [] := by
  simp only [sweep, List.mem_map, List.mem_flatMap, Dict.mem_values]
  constructor
  · rintro ⟨n, ⟨g', ⟨gid', live'⟩, mem⟩, rfl⟩ silent
    have filed := Group.sweep_notice_groupId mem
    rw [keyed.live gid' g' live'] at filed
    rw [filed, live'] at live
    cases live
    rw [silent] at mem
    cases mem
  · intro noticed
    obtain ⟨n, mem⟩ := exists_mem_of_ne_nil _ noticed
    refine ⟨n, ⟨g, ⟨gid, live⟩, mem⟩, ?_⟩
    rw [Group.sweep_notice_groupId mem, keyed.live gid g live]

section
variable (reached : Reached P s.authority)
include reached

lemma get?_sweepRound (clock reach gid) :
    (s.sweepRound P clock reach).authority.groups.get? gid =
      (s.authority.groups.get? gid).map fun g =>
        let swept := (g.sweep s.authority.joinPending s.authority.signTimeout clock.mono).1
        if gid ∈ (s.authority.sweep clock.mono).2.map groupId then
          swept.promote clock
        else swept := by
  have swept : Reached P (s.authority.sweep clock.mono).1 := reached.exec clock .sweep
  have noticed : Reached P (((s.authority.sweep clock.mono).2.map groupId).foldl
      (notify P clock reach) { s with authority := (s.authority.sweep clock.mono).1 }).authority := by
    apply List.foldlRecOn (motive := fun s => Reached P (RelayServer.authority s))
    · exact swept
    · intro s reached groupId _
      exact reached_deliverSignTask reached groupId.val clock reach
  unfold sweepRound
  rw [get?_foldl_reoffer noticed, get?_foldl_notify swept]
  simp only [sweep, Dict.get?_mapVals, Option.map_map]
  rfl

lemma promoted_sweepRound_iff (promoted : s.authority.Promoted) (clock reach) :
    (s.sweepRound P clock reach).authority.Promoted ↔
      Turn.KeepsMoving P s ⟨.sweepGroups, clock, reach⟩ := by
  have group {gid : GroupId} {g : Group} (live : s.authority.groups.get? gid = some g) :=
    Group.sweep_headPromoted_iff (reached.pinned live) (promoted gid g live)
      s.authority.joinPending s.authority.signTimeout clock.mono
  have noticed {gid : GroupId} {g : Group} (live : s.authority.groups.get? gid = some g) :=
    mem_sweep_notices_iff reached.keyed live clock.mono
  constructor
  · intro after gid g live timedOut silent
    have swept := after gid _ ((get?_sweepRound reached clock reach gid).trans
      (congrArg (Option.map _) live))
    dsimp only at swept
    rw [if_neg fun mem => (noticed live).mp mem silent] at swept
    exact (group live).mp swept timedOut
  · intro behind gid g' live'
    rw [get?_sweepRound reached] at live'
    obtain ⟨g, live, rfl⟩ := map_eq_some_iff.mp live'
    split_ifs with mem
    · exact Group.headPromoted_promote _ clock
    · refine (group live).mpr fun timedOut => behind gid g live timedOut ?_
      exact not_not.mp fun noisy => mem ((noticed live).mpr noisy)

lemma promoted_step_iff (promoted : s.authority.Promoted)
    (t : Turn) : (s.step P t).authority.Promoted ↔ t.KeepsMoving P s := by
  obtain ⟨handler, clock, reach⟩ := t
  cases handler with
  | client =>
    simp only [step, Turn.KeepsMoving]
    split_ifs with old
    · exact iff_of_true promoted (.inl old)
    · rw [promoted_handleRequest_iff reached promoted]
      exact ⟨.inr, fun moves => moves.resolve_left old⟩
  | disconnect session => exact iff_of_true (promoted.disbindSession session) trivial
  | sweepGroups => exact promoted_sweepRound_iff reached promoted clock reach

end

/-- Handlers and sweeper leave the authority where calls of its own lead: every group has its
owner, stays within its capacity and signs for the next epoch. -/
theorem relay_groups_sound (P : Primitives) (joinPending signTimeout retention : Seconds)
    (turns : List Turn) :
    let a := (run P (start joinPending signTimeout retention) turns).authority
    Reached P a ∧ a.Keyed ∧
      ∀ gid g, a.groups.get? gid = some g → g.Roster ∧ g.Capacity ∧ g.Pinned := by
  intro a
  have reached : Reached P a :=
    Runs.foldl_keeps (J := fun s : RelayServer => Reached P s.authority)
      (fun _ t before => reached_step before t) turns
      ⟨joinPending, signTimeout, retention, [], rfl⟩
  refine ⟨reached, reached.keyed, fun gid g live => ?_⟩
  obtain ⟨_, _, _, calls, same⟩ := reached
  rw [← same] at live
  obtain ⟨_, _, _, _, lived⟩ := (sound_run P _ _ _ calls).live gid g live
  exact ⟨lived.roster, lived.capacity, lived.pinned⟩

/-- The head of every non-empty queue is promoted after each handler and each sweeper round,
and then the signature timeout moves the queue, exactly if no handler drops a head (or opens
a queue) and returns without asking for the next task. -/
theorem queue_heads_promoted_iff (P : Primitives) (joinPending signTimeout retention : Seconds)
    (turns : List Turn) :
    ((∀ before, before <+: turns → ∀ gid g,
        (run P (start joinPending signTimeout retention) before).authority.groups.get? gid =
          some g → g.ops ≠ [] →
        (∃ head, g.ops.head? = some head ∧ head.awaitingSince.isSome) ∧
          ∃ since, ∀ now, now - since > signTimeout →
            (g.sweep joinPending signTimeout now).1.ops = g.ops.tail) ↔
      Runs.Along (step P) (fun s t => t.KeepsMoving P s)
        (start joinPending signTimeout retention) turns) := by
  have moments : Runs.Along (step P) (fun s t => t.KeepsMoving P s)
      (start joinPending signTimeout retention) turns ↔
      ∀ before, before <+: turns →
        (before.foldl (step P) (start joinPending signTimeout retention)).authority.Promoted :=
    Runs.along_iff_forall_moment (J := fun s : RelayServer => Reached P s.authority)
      (P := fun s : RelayServer => s.authority.Promoted)
      ⟨joinPending, signTimeout, retention, [], rfl⟩
      (fun gid g live => absurd live (by simp [start, init]))
      (fun s t _ reached _ _ => reached_step reached t)
      (fun s t _ reached promoted => promoted_step_iff reached promoted t)
  rw [moments]
  constructor
  · intro always before isPrefix gid g live op head
    obtain ⟨⟨head', isHead, waiting⟩, _⟩ := always before isPrefix gid g live
      (by rintro empty; rw [empty] at head; cases head)
    cases head.symm.trans isHead
    exact waiting
  · intro always before isPrefix gid g live waiting
    have promoted := always before isPrefix gid g live
    obtain ⟨head, rest, queue⟩ := exists_cons_of_ne_nil waiting
    have isHead : g.ops.head? = some head := by rw [queue, head?_cons]
    obtain ⟨since, moves⟩ := promoted.sweep_moves waiting
    exact ⟨⟨head, isHead, promoted head isHead⟩, since,
      fun now => moves joinPending signTimeout now⟩

def queue (s : RelayServer) (gid : GroupId) : Option (List (String × Bool)) :=
  (s.authority.groups.get? gid).map fun g =>
    g.ops.map fun op => (op.opId, op.awaitingSince.isSome)

def markedPrimitives : Primitives :=
  { plainPrimitives with
    b64decode := fun text => some (List.replicate 64 (if text = "bad" then 1 else 0))
    ed25519Verify := fun _ signature _ => signature.head? = some 0 }

def atNoon (request : Request) : Turn := ⟨.client 4 request, noon, fun _ => true⟩

def sweepAt (mono : Seconds) : Turn := ⟨.sweepGroups, { noon with mono }, fun _ => true⟩

def bobOnTheWayOut : List Turn :=
  [atNoon (.create "s0" "NightWatch" (plainKey '0') "" "" "GL-AAAA" "owner" "mesh-v1"
      [nightWatch]),
    atNoon (.redeem nightWatch.val "s1" "invite" true),
    atNoon (.attest "s1" nightWatch.val (plainKey '1') "" "" "GL-AAAB" "bob" "op1" true),
    atNoon (.sign nightWatch.val "s0" "op1" ""),
    atNoon (.leave nightWatch.val "s1" "op2" true),
    atNoon (.remove nightWatch.val "s0" bob.val "op3" true)]

/-- Bob's bad signature, or his silence until the timeout, takes his leave off the queue. The
removal behind it is not promoted, and the sweeper never touches it again. -/
theorem dropped_head_stalls_queue :
    (run markedPrimitives (start 300 60 86400) bobOnTheWayOut).queue nightWatch =
        some [("op2", true), ("op3", false)] ∧
      (run markedPrimitives (start 300 60 86400)
          (bobOnTheWayOut ++ [atNoon (.sign nightWatch.val "s1" "op2" "bad")])).queue nightWatch =
        some [("op3", false)] ∧
      (run plainPrimitives (start 300 60 86400)
          (bobOnTheWayOut ++ [sweepAt 61])).queue nightWatch = some [("op3", false)] ∧
      (run plainPrimitives (start 300 60 86400)
          (bobOnTheWayOut ++ [sweepAt 61, sweepAt 200, sweepAt 900])).queue nightWatch =
        some [("op3", false)] := by
  decide +kernel

end RelayServer
end Ghostlink.Groups
