import Ghostlink.Groups.LocalRosters
import Ghostlink.Groups.WireReadback

/-! Three parties check what a member says of itself: the packet validation of the relay, the
group authority and the clients that are shown the roster. What the first two let through is
compared with what the third accepts. -/

namespace Ghostlink.Groups
open Collections Text Checks LocalGroupManager LocalGroupRecord List Option Dict Function

lemma hexUpper_injective : Function.Injective hexUpper := by
  intro m n
  revert m n
  decide

lemma hexPair_injective : Function.Injective hexPair := by
  intro b b' h
  simp only [hexPair, List.cons.injEq, and_true] at h
  have high := congrArg Fin.val (hexUpper_injective h.1)
  have low := congrArg Fin.val (hexUpper_injective h.2)
  simp only [hiNibble, loNibble] at high low
  apply UInt8.toNat_inj.mp
  omega

lemma identityIdOfDigest_eq {d d'} (h : fingerprintOfDigest d = fingerprintOfDigest d') :
    identityIdOfDigest d = identityIdOfDigest d' := by
  have chars := String.ofList_injective (congrArg Subtype.val h)
  simp only [append_assoc, append_cancel_left_eq] at chars
  have pair (b b' : UInt8) (cs cs' : List Char) (h : hexPair b ++ cs = hexPair b' ++ cs') :
      b = b' ∧ cs = cs' := by
    obtain ⟨same, rest⟩ := append_inj h rfl
    exact ⟨hexPair_injective same, rest⟩
  obtain ⟨zero, chars⟩ := pair _ _ _ _ chars
  obtain ⟨one, chars⟩ := pair _ _ _ _ chars
  obtain ⟨two, -⟩ := pair _ _ _ _ (append_cancel_left chars)
  simp [identityIdOfDigest, zero, one, two]

lemma fingerprintForKeyHex_ok {P : Primitives} {key f} (h : fingerprintForKeyHex P key = .ok f) :
    ∃ bytes, fromHex key = some bytes ∧ bytes.length = 32 ∧
      fingerprintOfDigest (P.sha256 bytes) = f := by
  unfold fingerprintForKeyHex at h
  split at h
  · cases h
  · rename_i bytes decoded
    split at h
    · cases h
    · rename_i f' hashed
      cases h
      unfold identityFingerprint at hashed
      split_ifs at hashed with length
      exact ⟨bytes, decoded, not_not.mp length, Option.some.inj hashed⟩

lemma handle_of_fingerprint {P key key' f}
    (h : fingerprintForKeyHex P key = .ok f) (h' : fingerprintForKeyHex P key' = .ok f) :
    (fromHex key).bind (identityIdFor P) = (fromHex key').bind (identityIdFor P) := by
  obtain ⟨bytes, decoded, length, hashed⟩ := fingerprintForKeyHex_ok h
  obtain ⟨bytes', decoded', length', hashed'⟩ := fingerprintForKeyHex_ok h'
  simp [decoded, decoded', identityIdFor, length, length', identityIdOfDigest_eq (hashed.trans hashed'.symm)]

def NameOk (name : String) : Prop :=
  (validateGroupDisplayName name "display name").isOk

instance (name : String) : Decidable (NameOk name) :=
  inferInstanceAs (Decidable ((validateGroupDisplayName name "display name").isOk))

structure MemberView.Genuine (P : Primitives) (v : MemberView) : Prop where
  keyed : fingerprintForKeyHex P v.publicKeyHex = .ok v.fingerprint
  handled : (fromHex v.publicKeyHex).bind (identityIdFor P) = some v.handle
  joined : 1 ≤ v.joinedEpoch
  first : v.role = .owner → v.joinedEpoch = 1

variable {P : Primitives}

variable {v : MemberView} {payloads : List MemberView} {display : String}

lemma fromEventPayload_iff (joined : 1 ≤ v.joinedEpoch)
    (first : v.role = .owner → v.joinedEpoch = 1) :
    (∃ m, GroupMember.fromEventPayload v = .ok m) ↔ NameOk v.shownName := by
  have early : ¬ (v.role = .owner ∧ v.joinedEpoch ≠ 1) := by
    rintro ⟨owner, late⟩
    exact late (first owner)
  unfold GroupMember.fromEventPayload NameOk
  rw [dif_neg early, dif_neg (Nat.not_lt.mpr joined)]
  constructor
  · rintro ⟨m, h⟩
    split at h
    · cases h
    · rename_i name named
      rw [named]
      rfl
  · intro ok
    split
    · rename_i e named
      rw [named] at ok
      cases ok
    · exact ⟨_, rfl⟩

lemma fromEventPayload_handle {m : GroupMember}
    (h : GroupMember.fromEventPayload v = .ok m) : m.handle = v.handle := by
  unfold GroupMember.fromEventPayload at h
  split_ifs at h
  split at h
  · cases h
  · cases h
    rfl

lemma MemberView.Genuine.verified_iff (h : v.Genuine P) :
    (∃ m, verifiedMember P v = .ok m ∧ m.fingerprint = v.fingerprint) ↔ NameOk v.shownName := by
  rw [← fromEventPayload_iff h.joined h.first]
  constructor
  · rintro ⟨m, verified, -⟩
    simp only [verifiedMember, bind_eq_ok] at verified
    obtain ⟨m', described, -⟩ := verified
    exact ⟨m', described⟩
  · rintro ⟨m, described⟩
    obtain ⟨named, key, -⟩ := fromEventPayload_fields described
    refine ⟨m, ?_, named⟩
    simp only [verifiedMember, bind_eq_ok, refuse_eq_ok, pure_eq_ok]
    refine ⟨m, described, v.fingerprint, ?_, not_not.mpr named.symm, ?_, rfl⟩
    · rw [key]
      unfold fingerprintForKeyHex
      rw [fromHex_toLower]
      exact h.keyed
    · rw [key, fromHex_toLower, h.handled, fromEventPayload_handle described]
      exact not_not.mpr rfl

lemma size_foldlM_fileMember {members members' : Dict Fingerprint GroupMember}
    (h : payloads.foldlM (fileMember P) members = .ok members') :
    members.size ≤ members'.size ∧ members'.size ≤ members.size + payloads.length ∧
      (payloads ≠ [] → members'.size ≠ 0) := by
  induction payloads generalizing members with
  | nil =>
    cases h
    exact ⟨le_rfl, le_rfl, fun nonempty => absurd rfl nonempty⟩
  | cons v payloads ih =>
    simp only [foldlM_cons, fileMember, bind_eq_ok, pure_eq_ok] at h
    obtain ⟨_, ⟨m, verified, rfl⟩, h⟩ := h
    obtain ⟨grows, bound, -⟩ := ih h
    have upper := members.size_set_le m.fingerprint m
    have lower : members.size ≤ (members.set m.fingerprint m).size ∧
        (members.set m.fingerprint m).size ≠ 0 := by
      cases found : members.get? m.fingerprint with
      | none =>
        rw [members.size_set_of_none m found]
        exact ⟨Nat.le_succ _, Nat.succ_ne_zero _⟩
      | some =>
        rw [members.size_set_of_some m found]
        refine ⟨le_rfl, ?_⟩
        have entry := length_pos_of_mem ((members.get?_eq_some_iff _ _).mp found)
        exact Nat.ne_of_gt entry
    rw [length_cons]
    refine ⟨by omega, by omega, fun _ => by omega⟩

lemma foldlM_fileMember_iff (members) :
    (∃ members', payloads.foldlM (fileMember P) members = .ok members') ↔
      ∀ v ∈ payloads, ∃ m, verifiedMember P v = .ok m := by
  induction payloads generalizing members with
  | nil => exact ⟨fun _ _ mem => (by cases mem), fun _ => ⟨members, rfl⟩⟩
  | cons v payloads ih =>
    simp only [foldlM_cons, fileMember, bind_eq_ok, pure_eq_ok, mem_cons,
      forall_eq_or_imp]
    constructor
    · rintro ⟨members', _, ⟨m, verified, rfl⟩, rest⟩
      exact ⟨⟨m, verified⟩, (ih _).mp ⟨members', rest⟩⟩
    · rintro ⟨⟨m, verified⟩, rest⟩
      obtain ⟨members', folded⟩ := (ih (members.set m.fingerprint m)).mpr rest
      exact ⟨members', _, ⟨m, verified, rfl⟩, folded⟩

lemma verifiedMembers_iff (genuine : ∀ v ∈ payloads, v.Genuine P)
    (nonempty : payloads ≠ []) (few : payloads.length ≤ maxGroupMembers) :
    (∃ members, verifiedMembers P payloads = .ok members) ↔
      ∀ v ∈ payloads, NameOk v.shownName := by
  have each : (∀ v ∈ payloads, NameOk v.shownName) ↔
      ∀ v ∈ payloads, ∃ m, verifiedMember P v = .ok m := by
    apply forall₂_congr
    intro v mem
    rw [← (genuine v mem).verified_iff]
    constructor
    · rintro ⟨m, verified, -⟩
      exact ⟨m, verified⟩
    · rintro ⟨m, verified⟩
      refine ⟨m, verified, ?_⟩
      simp only [verifiedMember, bind_eq_ok, refuse_eq_ok, pure_eq_ok] at verified
      obtain ⟨_, described, _, _, _, _, rfl⟩ := verified
      exact (fromEventPayload_fields described).1
  rw [each, ← foldlM_fileMember_iff Dict.empty]
  simp only [verifiedMembers, bind_eq_ok, refuse_eq_ok, pure_eq_ok]
  constructor
  · rintro ⟨members, _, folded, -, rfl⟩
    exact ⟨_, folded⟩
  · rintro ⟨members, folded⟩
    refine ⟨members, members, folded, ?_, rfl⟩
    obtain ⟨-, bound, positive⟩ := size_foldlM_fileMember folded
    have zero : (Dict.empty : Dict Fingerprint GroupMember).size = 0 := rfl
    rintro (none | many)
    · exact positive nonempty none
    · omega

structure Member.Genuine (P : Primitives) (m : Member) : Prop where
  keyed : fingerprintForKeyHex P m.publicKeyHex = .ok m.fingerprint
  handled : (fromHex m.publicKeyHex).bind (identityIdFor P) = some m.handle
  joined : m.status = .active → 1 ≤ m.joinedEpoch
  first : m.role = .owner → m.joinedEpoch = 1

lemma Member.Genuine.view {m : Member} (h : m.Genuine P) (active : m.status = .active) :
    m.view.Genuine P := ⟨h.keyed, h.handled, h.joined active, h.first⟩

namespace Group
variable {g g' g'' : Group}

def Verified (P : Primitives) (g : Group) : Prop := ∀ r, (g.objects r).Genuine P

def Shows (g : Group) (v : MemberView) : Prop :=
  ∃ f r, g.members.get? f = some r ∧ (g.objects r).status = .active ∧ (g.objects r).view = v

variable {v : MemberView} {display session : String} {f : Fingerprint}

lemma mem_snapshot : v ∈ g.snapshot.members ↔ g.Shows v := by
  simp only [snapshot, List.mem_map, List.mem_filter, List.mem_mergeSort, memberValues,
    mem_values, decide_eq_true_eq]
  constructor
  · rintro ⟨_, ⟨⟨r, ⟨f, seat⟩, rfl⟩, active⟩, rfl⟩
    exact ⟨f, r, seat, active, rfl⟩
  · rintro ⟨f, r, seat, active, rfl⟩
    exact ⟨_, ⟨⟨r, ⟨f, seat⟩, rfl⟩, active⟩, rfl⟩

lemma length_snapshot (g : Group) : g.snapshot.members.length ≤ g.members.size := by
  have filtered := length_filter_le (fun m : Member => decide (m.status = .active))
    (g.memberValues.mergeSort fun a b => decide (a.joinedEpoch ≤ b.joinedEpoch))
  rw [length_mergeSort, memberValues, length_map, Dict.values, length_map] at filtered
  rwa [snapshot, length_map]

lemma Verified.shown (h : g.Verified P) (shown : g.Shows v) : v.Genuine P := by
  obtain ⟨f, r, -, active, rfl⟩ := shown
  exact (h r).view active

lemma Verified.loads_iff (h : g.Verified P) (roster : g.Roster) (capacity : g.Capacity) :
    (∃ members, verifiedMembers P g.snapshot.members = .ok members) ↔
      ∀ v, g.Shows v → NameOk v.shownName := by
  obtain ⟨r, seat, active, -⟩ := roster.owner
  have owner : (g.objects r).view ∈ g.snapshot.members := mem_snapshot.mpr ⟨_, r, seat, active, rfl⟩
  have few : g.snapshot.members.length ≤ maxGroupMembers :=
    (length_snapshot g).trans ((Nat.le_add_right _ _).trans capacity.seats)
  rw [verifiedMembers_iff (fun v mem => h.shown (mem_snapshot.mp mem)) (ne_nil_of_mem owner) few]
  simp [mem_snapshot]

structure Retains (g g' : Group) : Prop where
  records : ∀ r, ∃ session, g'.objects r = { g.objects r with sessionId := session }
  seats : ∀ f r, g'.members.get? f = some r → g.members.get? f = some r

lemma retains_of_objects (objects : g'.objects = g.objects)
    (seats : ∀ f r, g'.members.get? f = some r → g.members.get? f = some r) : g.Retains g' :=
  ⟨fun r => ⟨(g.objects r).sessionId, by rw [objects]⟩, seats⟩

lemma Retains.refl (g : Group) : g.Retains g := retains_of_objects rfl fun _ _ seat => seat

lemma Retains.trans (h : g.Retains g') (h' : g'.Retains g'') : g.Retains g'' := by
  refine ⟨?_, fun f r seat => h.seats f r (h'.seats f r seat)⟩
  intro r
  obtain ⟨session, same⟩ := h.records r
  obtain ⟨session', same'⟩ := h'.records r
  exact ⟨session', by rw [same', same]⟩

lemma Retains.verified (h : g.Retains g') (verified : g.Verified P) : g'.Verified P := by
  intro r
  obtain ⟨session, same⟩ := h.records r
  obtain ⟨keyed, handled, joined, first⟩ := verified r
  rw [same]
  exact ⟨keyed, handled, joined, first⟩

lemma Retains.shows (h : g.Retains g') (shown : g'.Shows v) : g.Shows v := by
  obtain ⟨f, r, seat, active, rfl⟩ := shown
  obtain ⟨session, same⟩ := h.records r
  rw [same] at active ⊢
  exact ⟨f, r, h.seats f r seat, active, rfl⟩

lemma retains_checked {α β : Type} {check}
    {k : β → Group × Except GroupError α} (passed : ∀ b, g.Retains (k b).1) :
    g.Retains (g.checked check k).1 := checked_fst (.refl g) fun b _ => passed b

lemma retains_beginJoinRedemption (session inviteId now) :
    g.Retains (g.beginJoinRedemption session inviteId now).1 :=
  retains_checked fun _ => retains_of_objects rfl fun _ _ seat => seat

lemma retains_enqueueOp (action subject signer opId now) :
    g.Retains (g.enqueueOp action subject signer opId now).1 := by
  obtain ⟨same, -⟩ | ⟨queued, -⟩ := g.enqueueOp_cases action subject signer opId now
  · rw [same]
    exact .refl g
  · rw [queued]
    exact retains_of_objects rfl fun _ _ seat => seat

lemma retains_promote (clock) : g.Retains (g.promote clock) := by
  unfold promote
  split
  · exact .refl g
  · split_ifs
    · exact .refl g
    · exact retains_of_objects rfl fun _ _ seat => seat

lemma retains_abortHeadOp : g.Retains g.abortHeadOp := by
  unfold abortHeadOp
  split
  · exact .refl g
  · split
    · exact retains_of_objects rfl fun _ _ => get?_of_erase
    · exact retains_of_objects rfl fun _ _ seat => seat

lemma retains_sweep (joinPending signTimeout now) :
    g.Retains (g.sweep joinPending signTimeout now).1 := by
  have joins : g.Retains (g.expireJoins joinPending now).1 :=
    retains_of_objects rfl fun _ _ seat => seat
  refine joins.trans ?_
  simp only [sweep, expireHead]
  split_ifs
  · exact retains_abortHeadOp
  · exact .refl _

lemma retains_disbindSession (session) : g.Retains (g.disbindSession session) := by
  refine ⟨?_, fun _ _ seat => seat⟩
  intro r
  simp only [disbindSession]
  split_ifs
  · exact ⟨none, rfl⟩
  · exact ⟨(g.objects r).sessionId, rfl⟩

variable {op : Op} {c : Ref}

lemma retains_settled (kind : op.kind ≠ .join) (signature clock) :
    g.Retains (g.settled op signature clock) := by
  have plain : ∀ c, op.action ≠ .join c := by
    intro c action
    exact kind (by rw [Op.kind, action]; rfl)
  refine retains_of_objects ?_ ?_
  · funext r
    rw [settled_objects, if_neg (plain r)]
  · intro f r seat
    rw [settled_members] at seat
    split_ifs at seat
    · exact get?_of_erase seat
    · exact seat

lemma verified_newGroup {gid name key handle suite wall}
    (keyed : fingerprintForKeyHex P key = .ok f)
    (handled : (fromHex key).bind (identityIdFor P) = some handle) :
    (GroupAuthority.newGroup gid f session name key handle display suite wall).Verified P := by
  intro r
  refine ⟨?_, ?_, fun _ => le_rfl, fun _ => rfl⟩
  · simp only [GroupAuthority.newGroup, fingerprintForKeyHex, fromHex_toLower]
    exact keyed
  · simp only [GroupAuthority.newGroup, fromHex_toLower]
    exact handled

lemma verified_seatCandidate (h : g.Verified P)
    {key handle} (keyed : fingerprintForKeyHex P key = .ok f)
    (handled : (fromHex key).bind (identityIdFor P) = some handle) :
    (g.seatCandidate f session key handle display).Verified P := by
  intro r
  by_cases new : r = g.nextRef
  · simp only [seatCandidate, new, update_self]
    refine ⟨?_, ?_, ?_, ?_⟩
    · simp only [fingerprintForKeyHex, fromHex_toLower]
      exact keyed
    · simp only [fromHex_toLower]
      exact handled
    · rintro ⟨⟩
    · rintro ⟨⟩
  · simp only [seatCandidate, update_of_ne new]
    exact h r

lemma shows_seatCandidate (roster : g.Roster) {key handle}
    (shown : (g.seatCandidate f session key handle display).Shows v) : g.Shows v := by
  obtain ⟨f', r, seat, active, rfl⟩ := shown
  rcases get?_of_set seat with ⟨-, rfl⟩ | ⟨-, seat⟩
  · simp [(g.seatCandidate_objects_new f session key handle display).2.1] at active
  · have old : (g.seatCandidate f session key handle display).objects r = g.objects r :=
      update_of_ne (Nat.ne_of_lt (roster.filed f' r seat).1) _ _
    rw [old] at active ⊢
    exact ⟨f', r, seat, active, rfl⟩

lemma verified_rebind (h : g.Verified P) {r key handle}
    (keyed : fingerprintForKeyHex P key = .ok (g.objects r).fingerprint)
    (handled : (fromHex key).bind (identityIdFor P) = some handle) :
    (g.rebind r session handle display).Verified P := by
  intro r'
  by_cases same : r' = r
  · obtain ⟨keyed', -, joined, first⟩ := h r
    simp only [rebind, updateObject, same, update_self]
    refine ⟨keyed', ?_, joined, first⟩
    -- the roster may hold another spelling of the key, but the handle is the fingerprint's
    exact (handle_of_fingerprint keyed' keyed).trans handled
  · simp only [rebind, updateObject, update_of_ne same]
    exact h r'

lemma shows_rebind {r} (session handle display)
    (seat : g.members.get? f = some r) (active : (g.objects r).status = .active) :
    (g.rebind r session handle display).Shows
        ((g.rebind r session handle display).objects r).view ∧
      ∀ v, (g.rebind r session handle display).Shows v →
        g.Shows v ∨ v = ((g.rebind r session handle display).objects r).view := by
  refine ⟨⟨f, r, seat, ?_, rfl⟩, ?_⟩
  · simp only [rebind, updateObject, update_self]
    exact active
  · rintro v ⟨f', r', seat', active', rfl⟩
    by_cases same : r' = r
    · exact .inr (by rw [same])
    · have old : (g.rebind r session handle display).objects r' = g.objects r' :=
        update_of_ne same _ _
      rw [old] at active' ⊢
      exact .inl ⟨f', r', seat', active', rfl⟩

lemma verified_settled_join (h : g.Verified P) (action : op.action = .join c)
    (plain : (g.objects c).role = .member) (signature clock) :
    (g.settled op signature clock).Verified P := by
  intro r
  rw [settled_objects]
  split_ifs with admitted
  · obtain ⟨keyed, handled, -, -⟩ := h r
    cases OpAction.join.inj (action.symm.trans admitted)
    refine ⟨keyed, handled, fun _ => Nat.le_add_left 1 _, fun owner => ?_⟩
    cases plain.symm.trans owner
  · exact h r

lemma shows_settled_join (action : op.action = .join c) (signature clock)
    (shown : (g.settled op signature clock).Shows v) :
    g.Shows v ∨ v = ((g.settled op signature clock).objects c).view := by
  obtain ⟨f, r, seat, active, rfl⟩ := shown
  have kept : (g.settled op signature clock).members = g.members := by
    rw [settled_members, if_neg]
    rw [Op.kind, action]
    rintro (left | removed)
    · cases left
    · cases removed
  by_cases same : r = c
  · exact .inr (by rw [same])
  · have old : (g.settled op signature clock).objects r = g.objects r := by
      rw [settled_objects, action, if_neg]
      intro h
      exact same (OpAction.join.inj h).symm
    rw [old] at active ⊢
    rw [kept] at seat
    exact .inl ⟨f, r, seat, active, rfl⟩

lemma settledReply_join (action : op.action = .join c) (signature clock) :
    (g.settledReply op signature clock).joinMember =
      some ((g.settled op signature clock).objects c).view := by
  simp [settledReply, routingFor, action]

end Group

def groupSignatureB64Max : ℕ := 128

def requireGroupField (group : String) : Except String Unit := do
  requireStr group "group" 64
  if ¬ isValidGroupId group then
    throw (packetInvalid "'group' is not a valid group identifier")

def requirePubkeyField (pubkey : String) : Except String Unit := do
  requireStr pubkey "pubkey" groupPubkeyHexLength
  if pubkey.toList.length ≠ groupPubkeyHexLength then
    throw (packetInvalid "'pubkey' must be 64 hex")

def requireSuiteField (suite : String) : Except String Unit :=
  if suite ∉ groupCryptoSuites then
    throw (packetInvalid "'suite' must be one of ['mesh-v1', 'senderkey-v1']")
  else pure ()

def validateGroupCreate (name pubkey pop handle display suite : String) :
    Except String Unit := do
  requireStr name "name" groupNameMaxLen
  requirePubkeyField pubkey
  requireStr pop "pop" groupSignatureB64Max
  requireStr handle "handle" 16
  requireStr display "display" groupDisplayNameMaxLen
  requireSuiteField suite

def validateGroupAttest (group pubkey sig handle display : String) : Except String Unit := do
  requireGroupField group
  requirePubkeyField pubkey
  requireStr sig "sig" groupSignatureB64Max
  requireStr handle "handle" 16
  requireStr display "display" groupDisplayNameMaxLen

def Call.Wired : Call → Prop
  | .createGroup _ name key pop _ handle display suite _ =>
    validateGroupCreate name key pop handle display suite = .ok ()
  | .attest _ groupId key sig _ handle display _ =>
    validateGroupAttest groupId key sig handle display = .ok ()
  | _ => True

instance : ∀ call : Call, Decidable call.Wired
  | .createGroup _ _ _ _ _ _ _ _ _ => inferInstanceAs (Decidable (_ = _))
  | .attest _ _ _ _ _ _ _ _ => inferInstanceAs (Decidable (_ = _))
  | .beginJoinRedemption .. | .cancelPendingJoin .. | .requestLeave .. | .requestRemove ..
  | .requestDissolve .. | .nextSignTask .. | .submitSignature .. | .sweep | .disbindSession .. =>
    .isTrue trivial

lemma takeChars_wired (wired : requireStr display "display" groupDisplayNameMaxLen = .ok ()) :
    display ≠ "" ∧ takeChars groupNameMaxLen display = display := by
  obtain ⟨nonempty, short⟩ := requireStr_eq_ok.mp wired
  constructor
  · rintro rfl
    exact absurd nonempty (by decide)
  · have short : display.toList.length ≤ groupNameMaxLen := short.trans (by decide)
    rw [takeChars, take_of_length_le short, String.ofList_toList]

variable {pubkey : String}

lemma validateGroupCreate_display {name pop handle suite}
    (h : validateGroupCreate name pubkey pop handle display suite = .ok ()) :
    requireStr display "display" groupDisplayNameMaxLen = .ok () := by
  simp only [validateGroupCreate, bind_eq_ok] at h
  obtain ⟨_, _, _, _, _, _, _, _, _, named, _⟩ := h
  exact named

lemma validateGroupAttest_display {group sig handle}
    (h : validateGroupAttest group pubkey sig handle display = .ok ()) :
    requireStr display "display" groupDisplayNameMaxLen = .ok () := by
  simp only [validateGroupAttest, bind_eq_ok] at h
  obtain ⟨_, _, _, _, _, _, _, _, named⟩ := h
  exact named

def CommittedOp.packet (c : CommittedOp) : EventPacket where
  group := c.event.groupId.val
  fields := some ⟨c.event.epoch, c.event.kind, c.event.subjectFingerprint.val, c.event.wallTs,
    c.event.signerFingerprint.val, c.event.signature⟩
  member := c.joinMember.map .ok

structure CommittedOp.Sound (P : Primitives) (c : CommittedOp) : Prop where
  described : c.event.kind = .join ↔ c.joinMember.isSome
  genuine : ∀ v, c.joinMember = some v →
    v.Genuine P ∧ v.fingerprint = c.event.subjectFingerprint

lemma CommittedOp.Sound.accepted_iff {c : CommittedOp} (h : c.Sound P) :
    (c.event.kind = .join → ∃ m, joinMemberFromPacket P c.packet c.event = .ok m) ↔
      ∀ v, c.joinMember = some v → NameOk v.shownName := by
  cases descriptor : c.joinMember with
  | none =>
    refine iff_of_true ?_ (by rintro _ ⟨⟩)
    intro join
    simp [h.described, descriptor] at join
  | some v =>
    obtain ⟨genuine, subject⟩ := h.genuine v descriptor
    have join : c.event.kind = .join := by
      simp [h.described, descriptor]
    simp only [join, forall_const, Option.some.injEq, forall_eq', ← genuine.verified_iff,
      joinMemberFromPacket, packet, descriptor, map_some, bind_eq_ok, refuse_eq_ok,
      pure_eq_ok]
    constructor
    · rintro ⟨m, _, ⟨⟩, m', verified, named, rfl⟩
      exact ⟨m', verified, (not_not.mp named).trans subject.symm⟩
    · rintro ⟨m, verified, named⟩
      exact ⟨m, v, rfl, m, verified, not_not.mpr (named.trans subject), rfl⟩

/-- The name of the candidate whom the operation admits. -/
def Group.admittedName (g : Group) (op : Op) : Option String :=
  match op.action with
  | .join c => some (g.objects c).view.shownName
  | _ => none

lemma Group.admittedName_eq_none {g : Group} {op : Op} (kind : op.kind ≠ .join) :
    g.admittedName op = none := by
  unfold admittedName
  split
  · next action => exact absurd (Op.kind_eq_join.mpr ⟨_, action⟩) kind
  · rfl

namespace GroupAuthority
variable {a a' : GroupAuthority} {call : Call} {c : Option CommittedOp}

/-- The call does not put a name before the clients that they refuse: it neither creates a
group with one, nor lets a member take one, nor admits a candidate who has one. -/
def Presentable (P : Primitives) (a : GroupAuthority) (clock : Clock) : Call → Prop
  | .createGroup session name key pop nonce handle display suite drawn =>
    (a.createGroup P session name key pop nonce handle display suite drawn clock.wall).2.isOk =
      true → NameOk display
  | .attest session groupId key sig nonce handle display opId =>
    ∀ outcome ∈ (a.attest P session groupId key sig nonce handle display opId
      clock.mono).2.toOption, outcome.role ≠ .candidate → NameOk display
  | .submitSignature groupId session opId sig =>
    (a.submitSignature P groupId session opId sig clock).2.isOk = true →
      ∀ g ∈ (a.require groupId).toOption, ∀ op ∈ g.ops.head?, ∀ name ∈ g.admittedName op, NameOk name
  | _ => True

instance (P : Primitives) (a : GroupAuthority) (clock : Clock) :
    ∀ call : Call, Decidable (a.Presentable P clock call)
  | .createGroup .. | .submitSignature .. => inferInstanceAs (Decidable (_ → _))
  | .attest session groupId key sig nonce handle display opId =>
    inferInstanceAs (Decidable (∀ outcome ∈ (a.attest P session groupId key sig nonce handle
      display opId clock.mono).2.toOption, outcome.role ≠ .candidate → NameOk display))
  | .beginJoinRedemption .. | .cancelPendingJoin .. | .requestLeave .. | .requestRemove ..
  | .requestDissolve .. | .nextSignTask .. | .sweep | .disbindSession .. => .isTrue trivial

def Verified (P : Primitives) (a : GroupAuthority) : Prop :=
  ∀ gid g, a.groups.get? gid = some g → g.Verified P

def Shows (a : GroupAuthority) (c : Option CommittedOp) (v : MemberView) : Prop :=
  (∃ gid g, a.groups.get? gid = some g ∧ g.Shows v) ∨ ∃ d ∈ c, d.joinMember = some v

/-- What a call shows: nothing new, or one descriptor whose name is acceptable exactly if the
call is presentable. -/
structure Reveals (P : Primitives) (a a' : GroupAuthority) (c : Option CommittedOp)
    (presentable : Prop) : Prop where
  verified : a'.Verified P
  sound : ∀ d ∈ c, d.Sound P
  shows : (presentable ∧ ∀ v, a'.Shows c v → a.Shows none v) ∨
    ∃ v₀, a'.Shows c v₀ ∧ (∀ v, a'.Shows c v → a.Shows none v ∨ v = v₀) ∧
      (presentable ↔ NameOk v₀.shownName)

variable {gid : GroupId} {g g' : Group} {presentable : Prop}

lemma verified_put (h : a.Verified P) (verified : g'.Verified P) : (a.put g').Verified P :=
  forall_of_set verified h

lemma shows_put (shown : (a.put g').Shows c v) :
    a.Shows none v ∨ g'.Shows v ∨ ∃ d ∈ c, d.joinMember = some v := by
  obtain ⟨gid, g, live, shown⟩ | described := shown
  · rcases get?_of_set live with ⟨-, rfl⟩ | ⟨-, old⟩
    · exact .inr (.inl shown)
    · exact .inl (.inl ⟨gid, g, old, shown⟩)
  · exact .inr (.inr described)

lemma put_shows (shown : g'.Shows v) : (a.put g').Shows c v :=
  .inl ⟨g'.groupId, g', get?_set_self .., shown⟩

section
variable (h : a.Verified P)
include h

lemma reveals_idle (ok : presentable) : Reveals P a a none presentable :=
  ⟨h, by rintro _ ⟨⟩, .inl ⟨ok, fun _ shown => shown⟩⟩

lemma reveals_nothing (live : a.groups.get? gid = some g)
    (verified : g'.Verified P) (shows : ∀ v, g'.Shows v → g.Shows v)
    (silent : ∀ d ∈ c, d.Sound P ∧ d.joinMember = none) (ok : presentable) :
    Reveals P a (a.put g') c presentable := by
  refine ⟨verified_put h verified, fun d mem => (silent d mem).1, .inl ⟨ok, ?_⟩⟩
  intro v shown
  obtain before | shown | ⟨d, mem, described⟩ := shows_put shown
  · exact before
  · exact .inl ⟨gid, g, live, shows v shown⟩
  · simp [(silent d mem).2] at described

lemma reveals_retained (live : a.groups.get? gid = some g)
    (retains : g.Retains g') (ok : presentable) : Reveals P a (a.put g') none presentable :=
  reveals_nothing h live (retains.verified (h gid g live)) (fun _ => retains.shows)
    (by rintro _ ⟨⟩) ok

lemma reveals_onGroup {α : Type} (groupId)
    {f : Group → Group × Except GroupError α} (retains : ∀ g : Group, g.Retains (f g).1)
    (ok : presentable) : Reveals P a (a.onGroup groupId f).1 none presentable := by
  unfold onGroup
  cases required : a.require groupId with
  | error => exact reveals_idle h ok
  | ok g =>
    obtain ⟨gid, -, live⟩ := require_ok required
    exact reveals_retained h live (retains g) ok

lemma reveals_mapVals {f : Group → Group} (retains : ∀ g, Group.Retains g (f g))
    (same : a'.groups = a.groups.mapVals fun _ g => f g) (ok : presentable) :
    Reveals P a a' none presentable := by
  have origin {gid : GroupId} {g' : Group} (live : a'.groups.get? gid = some g') :
      ∃ g, a.groups.get? gid = some g ∧ g' = f g := by
    rw [same, get?_mapVals] at live
    obtain ⟨g, before, rfl⟩ := map_eq_some_iff.mp live
    exact ⟨g, before, rfl⟩
  refine ⟨?_, by rintro _ ⟨⟩, .inl ⟨ok, ?_⟩⟩
  · intro gid g' live
    obtain ⟨g, before, rfl⟩ := origin live
    exact (retains g).verified (h gid g before)
  · rintro v (⟨gid, g', live, shown⟩ | ⟨d, ⟨⟩, -⟩)
    obtain ⟨g, before, rfl⟩ := origin live
    exact .inl ⟨gid, g, before, (retains g).shows shown⟩

end

variable {f : Fingerprint} {session : String}

lemma verifyIdentityMaterial_ok {key handle} (h : verifyIdentityMaterial P key handle = .ok f) :
    fingerprintForKeyHex P key = .ok f ∧ (fromHex key).bind (identityIdFor P) = some handle := by
  simp only [verifyIdentityMaterial, refuse_eq_ok, bind_eq_ok, pure_eq_ok, not_or, not_not] at h
  obtain ⟨-, _, keyed, ⟨-, handled⟩, rfl⟩ := h
  exact ⟨keyed, handled⟩

lemma reveals_createGroup (h : a.Verified P)
    (session name key pop nonce handle display suite drawn) (clock : Clock)
    (wired : (Call.createGroup session name key pop nonce handle display suite drawn).Wired) :
    Reveals P a (a.createGroup P session name key pop nonce handle display suite drawn
        clock.wall).1 none
      (a.Presentable P clock
        (.createGroup session name key pop nonce handle display suite drawn)) := by
  simp only [Presentable]
  unfold createGroup
  cases checked : a.createCheck P name key pop nonce handle suite drawn with
  | error => exact reveals_idle h (by rintro ⟨⟩)
  | ok created =>
    obtain ⟨clean, f, gid⟩ := created
    simp only [createCheck, bind_eq_ok, refuse_eq_ok, pure_eq_ok, Prod.mk.injEq] at checked
    obtain ⟨_, _, _, _, material, _, _, _, _, _, rfl, rfl, rfl⟩ := checked
    obtain ⟨keyed, handled⟩ := verifyIdentityMaterial_ok material
    obtain ⟨nonempty, whole⟩ := takeChars_wired (validateGroupCreate_display wired)
    refine ⟨verified_put h (Group.verified_newGroup keyed handled), by rintro _ ⟨⟩, .inr
      ⟨_, put_shows ⟨_, 0, get?_set_self .., rfl, rfl⟩, ?_, ?_⟩⟩
    · intro v shown
      obtain before | ⟨f', r, -, -, rfl⟩ | ⟨d, mem, -⟩ := shows_put shown
      · exact .inl before
      · exact .inr rfl
      · cases mem
    · simp [newGroup, Member.view, MemberView.shownName, if_neg nonempty, whole, Except.isOk, Except.toBool]

lemma reveals_rebind (h : a.Verified P) (live : a.groups.get? gid = some g) (roster : g.Roster)
    {r key handle} (seat : g.members.get? f = some r) (active : (g.objects r).status = .active)
    (keyed : fingerprintForKeyHex P key = .ok f)
    (handled : (fromHex key).bind (identityIdFor P) = some handle) (nonempty : display ≠ "")
    (ok : presentable ↔ NameOk display) :
    Reveals P a (a.put (g.rebind r session handle display)) none presentable := by
  have owns := (roster.filed f r seat).2
  have verified : (g.rebind r session handle display).Verified P :=
    Group.verified_rebind (h gid g live) (by rw [owns]; exact keyed) handled
  obtain ⟨shown, only⟩ := Group.shows_rebind session handle display seat active
  refine ⟨verified_put h verified, by rintro _ ⟨⟩, .inr ⟨_, put_shows shown, ?_, ?_⟩⟩
  · intro v shown'
    obtain before | after | ⟨d, mem, -⟩ := shows_put shown'
    · exact .inl before
    · exact (only v after).imp_left fun shown => .inl ⟨gid, g, live, shown⟩
    · cases mem
  · rw [ok]
    simp [Group.rebind, Group.updateObject, Member.view, MemberView.shownName, if_neg nonempty]

lemma reveals_attest (h : a.Verified P) (roster : ∀ gid g, a.groups.get? gid = some g → g.Roster)
    (session groupId key sig nonce handle display opId) (clock : Clock)
    (wired : (Call.attest session groupId key sig nonce handle display opId).Wired) :
    Reveals P a (a.attest P session groupId key sig nonce handle display opId clock.mono).1 none
      (a.Presentable P clock (.attest session groupId key sig nonce handle display opId)) := by
  have nonempty := (takeChars_wired (validateGroupAttest_display wired)).1
  simp only [Presentable]
  unfold attest onGroup
  cases required : a.require groupId with
  | error => exact reveals_idle h (by rintro _ ⟨⟩)
  | ok g =>
    obtain ⟨gid, -, live⟩ := require_ok required
    cases identified : attestedIdentity P groupId key sig nonce handle with
    | error => exact reveals_retained h live (.refl g) (by rintro _ ⟨⟩)
    | ok f =>
      have material : verifyIdentityMaterial P key handle = .ok f := by
        simp only [attestedIdentity, bind_eq_ok, refuse_eq_ok, pure_eq_ok] at identified
        obtain ⟨_, material, _, _, _, rfl⟩ := identified
        exact material
      obtain ⟨keyed, handled⟩ := verifyIdentityMaterial_ok material
      simp only [Group.checked, Group.attestAs]
      split
      · rename_i r seated
        obtain ⟨seat, active⟩ := filter_eq_some_iff.mp seated
        split
        · exact reveals_retained h live (.refl g) (by rintro _ ⟨⟩)
        · refine reveals_rebind h live (roster gid g live) seat (of_decide_eq_true active) keyed
            handled nonempty ?_
          constructor
          · intro accepted
            refine accepted _ rfl ?_
            dsimp only
            split_ifs
            · decide
            · decide
          · intro named outcome _ _
            exact named
      · split
        · exact reveals_retained h live (.refl g) (by rintro _ ⟨⟩)
        · have queued := Group.retains_enqueueOp (g := g.seatCandidate f session key handle display)
            (.join g.nextRef) f g.ownerFingerprint opId clock.mono
          have seated : (g.seatCandidate f session key handle display).Verified P :=
            Group.verified_seatCandidate (h gid g live) keyed handled
          refine reveals_nothing h live (queued.verified seated)
            (fun v shown => Group.shows_seatCandidate (roster gid g live) (queued.shows shown))
            (by rintro _ ⟨⟩) ?_
          intro outcome mem member
          cases answer : ((g.seatCandidate f session key handle display).enqueueOp
              (.join g.nextRef) f g.ownerFingerprint opId clock.mono).2 with
          | error e =>
            rw [answer] at mem
            cases mem
          | ok op =>
            rw [answer] at mem
            cases mem
            exact absurd rfl member

lemma retains_submitSignature {opId sig clock e}
    (refused : g.submitSignature P session opId sig clock = (g', .error e)) : g.Retains g' := by
  unfold Group.submitSignature Group.checked at refused
  split at refused
  · cases refused
    exact .refl g
  · dsimp only at refused
    split_ifs at refused
    · cases refused
    · cases refused
      exact Group.retains_abortHeadOp

lemma sound_settledReply {op} (concerns : g.Concerns op) (verified : g.Verified P)
    (signature clock) : (g.settledReply op signature clock).Sound P := by
  by_cases kind : op.kind = .join
  · obtain ⟨c, action⟩ := Op.kind_eq_join.mp kind
    have described := Group.settledReply_join (g := g) action signature clock
    unfold Group.Concerns at concerns
    rw [action] at concerns
    obtain ⟨⟨-, subject, plain⟩, -, -⟩ := concerns
    refine ⟨iff_of_true kind (by rw [described]; rfl), ?_⟩
    intro v found
    rw [described] at found
    cases found
    have after := Group.verified_settled_join verified action plain signature clock c
    have object := Group.settled_objects g op signature clock c
    rw [if_pos action] at object
    refine ⟨after.view (by rw [object]), ?_⟩
    rwa [object]
  · have silent : (g.settledReply op signature clock).joinMember = none :=
      settledReply_joinMember kind
    refine ⟨iff_of_false kind (by rw [silent]; exact Bool.false_ne_true), ?_⟩
    intro v found
    simp [silent] at found

lemma reveals_submitSignature (h : a.Verified P)
    (roster : ∀ gid g, a.groups.get? gid = some g → g.Roster) (groupId session opId sig clock) :
    Reveals P a (a.submitSignature P groupId session opId sig clock).1
      (a.submitSignature P groupId session opId sig clock).2.toOption
      (a.Presentable P clock (.submitSignature groupId session opId sig)) := by
  simp only [Presentable]
  unfold submitSignature
  cases required : a.require groupId with
  | error => exact reveals_idle h (by rintro ⟨⟩)
  | ok g =>
    obtain ⟨gid, -, live⟩ := require_ok required
    have verified := h gid g live
    obtain ⟨op, signer, signature, settles, answer⟩ | ⟨g', e, -, answer⟩ :=
      g.submitSignature_cases (P := P) session opId sig clock
    · have queued := (roster gid g live).queued op (mem_of_head? settles.head)
      have sound := sound_settledReply queued verified signature clock
      have single : ∀ d ∈ some (g.settledReply op signature clock), d.Sound P := by
        rintro d ⟨⟩
        exact sound
      have shown_none (kind : op.kind ≠ .join) (ok : Prop) : ok →
          ∀ g' ∈ some g, ∀ op ∈ g'.ops.head?, ∀ name ∈ g'.admittedName op, NameOk name := by
        rintro - _ ⟨⟩ _ head
        cases settles.head.symm.trans head
        rw [Group.admittedName_eq_none kind]
        rintro _ ⟨⟩
      simp only [answer]
      split_ifs with dissolved
      · have kind : op.kind ≠ .join := by
          have : op.kind = .dissolved := dissolved
          rw [this]
          decide
        have silent : (g.settledReply op signature clock).joinMember = none :=
          settledReply_joinMember kind
        refine ⟨?_, single, .inl ⟨?_, ?_⟩⟩
        · intro gid' g' live'
          exact h gid' g' (get?_of_erase live')
        · exact shown_none kind _
        · rintro v (⟨gid', g', live', shown⟩ | ⟨d, ⟨⟩, found⟩)
          · exact .inl ⟨gid', g', get?_of_erase live', shown⟩
          · rw [silent] at found
            cases found
      · by_cases kind : op.kind = .join
        · obtain ⟨c, action⟩ := Op.kind_eq_join.mp kind
          have described := Group.settledReply_join (g := g) action signature clock
          have plain : (g.objects c).role = .member := by
            unfold Group.Concerns at queued
            rw [action] at queued
            exact queued.1.2.2
          refine ⟨verified_put h (Group.verified_settled_join verified action plain signature clock),
            single, .inr ⟨_, .inr ⟨_, rfl, described⟩, ?_, ?_⟩⟩
          · intro v shown
            obtain before | after | ⟨d, ⟨⟩, found⟩ := shows_put shown
            · exact .inl before
            · exact (Group.shows_settled_join action signature clock after).imp_left
                fun shown => .inl ⟨gid, g, live, shown⟩
            · exact .inr (Option.some.inj (found.symm.trans described))
          · rw [Group.settled_objects, if_pos action]
            constructor
            · intro accepted
              exact accepted rfl g rfl op settles.head _ (by rw [Group.admittedName, action]; rfl)
            · rintro named - _ ⟨⟩ _ head name shown
              cases settles.head.symm.trans head
              rw [Group.admittedName, action] at shown
              cases shown
              exact named
        · have silent : (g.settledReply op signature clock).joinMember = none :=
            settledReply_joinMember kind
          have retains := Group.retains_settled (g := g) kind signature clock
          refine reveals_nothing h live (retains.verified verified) (fun v => retains.shows) ?_ ?_
          · rintro d ⟨⟩
            exact ⟨sound, silent⟩
          · exact shown_none kind _
    · simp only [answer]
      exact reveals_retained h live (retains_submitSignature answer) (by rintro ⟨⟩)

lemma reveals_exec (h : a.Verified P) (roster : ∀ gid g, a.groups.get? gid = some g → g.Roster)
    (clock) (call : Call) (wired : call.Wired) :
    Reveals P a (a.exec P clock call).1 (a.exec P clock call).2 (a.Presentable P clock call) := by
  cases call with
  | createGroup session name key pop nonce handle display suite drawn =>
    simp only [exec]
    exact reveals_createGroup h session name key pop nonce handle display suite drawn clock wired
  | attest session groupId key sig nonce handle display opId =>
    simp only [exec]
    exact reveals_attest h roster session groupId key sig nonce handle display opId clock wired
  | submitSignature groupId session opId sig =>
    simp only [exec]
    exact reveals_submitSignature h roster groupId session opId sig clock
  | beginJoinRedemption groupId session inviteId =>
    simp only [exec]
    exact reveals_onGroup h groupId (fun g => Group.retains_beginJoinRedemption session inviteId
      clock.mono) trivial
  | cancelPendingJoin groupId =>
    simp only [exec, cancelPendingJoin]
    cases found : a.find? groupId with
    | none => exact reveals_idle h trivial
    | some =>
      obtain ⟨gid, -, live⟩ := find?_some found
      exact reveals_retained h live (Group.retains_of_objects rfl fun _ _ seat => seat) trivial
  | requestLeave groupId | requestRemove groupId | requestDissolve groupId =>
    simp only [exec]
    refine reveals_onGroup h groupId (fun g => Group.retains_checked fun _ => ?_) trivial
    exact Group.retains_enqueueOp _ _ _ _ _
  | nextSignTask groupId =>
    simp only [exec, nextSignTask]
    cases found : a.find? groupId with
    | none => exact reveals_idle h trivial
    | some =>
      obtain ⟨gid, -, live⟩ := find?_some found
      exact reveals_retained h live (Group.retains_promote clock) trivial
  | sweep =>
    simp only [exec]
    exact reveals_mapVals h (fun g => Group.retains_sweep _ _ _) rfl trivial
  | disbindSession session =>
    simp only [exec]
    exact reveals_mapVals h (fun g => Group.retains_disbindSession session) rfl trivial

namespace History
variable {h : History}

def Loads (P : Primitives) (h : History) : Prop :=
  (∀ gid g, h.authority.groups.get? gid = some g →
      ∃ members, verifiedMembers P g.snapshot.members = .ok members) ∧
    ∀ c ∈ h.log, c.event.kind = .join → ∃ m, joinMemberFromPacket P c.packet c.event = .ok m

def Shows (h : History) (v : MemberView) : Prop :=
  (∃ gid g, h.authority.groups.get? gid = some g ∧ g.Shows v) ∨
    ∃ d ∈ h.log, d.joinMember = some v

structure Genuine (P : Primitives) (h : History) : Prop where
  sound : h.Sound P
  verified : h.authority.Verified P
  described : ∀ c ∈ h.log, c.Sound P

section
variable (genuine : h.Genuine P)
include genuine

lemma Genuine.roster (gid) (g : Group)
    (live : h.authority.groups.get? gid = some g) : g.Roster := by
  obtain ⟨_, _, _, _, lived⟩ := genuine.sound.live gid g live
  exact lived.roster

lemma Genuine.loads_iff :
    h.Loads P ↔ ∀ v, h.Shows v → NameOk v.shownName := by
  have rosters (gid : GroupId) (g : Group) (live : h.authority.groups.get? gid = some g) :
      (∃ members, verifiedMembers P g.snapshot.members = .ok members) ↔
        ∀ v, g.Shows v → NameOk v.shownName := by
    obtain ⟨_, _, _, _, lived⟩ := genuine.sound.live gid g live
    exact (genuine.verified gid g live).loads_iff lived.roster lived.capacity
  constructor
  · rintro ⟨loads, accepts⟩ v (⟨gid, g, live, shown⟩ | ⟨d, mem, described⟩)
    · exact (rosters gid g live).mp (loads gid g live) v shown
    · exact (genuine.described d mem).accepted_iff.mp (accepts d mem) v described
  · intro named
    refine ⟨?_, ?_⟩
    · intro gid g live
      exact (rosters gid g live).mpr fun v shown => named v (.inl ⟨gid, g, live, shown⟩)
    · intro d mem
      exact (genuine.described d mem).accepted_iff.mpr fun v described =>
        named v (.inr ⟨d, mem, described⟩)

lemma Genuine.exec (clock) (call : Call) (wired : call.Wired) :
    (h.exec P clock call).Genuine P := by
  obtain ⟨verified, sound, -⟩ := reveals_exec genuine.verified genuine.roster clock call wired
  refine ⟨genuine.sound.change (h.authority.change_exec clock call), verified, ?_⟩
  intro d mem
  obtain before | now := mem_append.mp mem
  · exact genuine.described d before
  · exact sound d (mem_toList.mp now)

lemma Genuine.exec_iff (named : ∀ v, h.Shows v → NameOk v.shownName)
    (clock) (call : Call) (wired : call.Wired) :
    (∀ v, (h.exec P clock call).Shows v → NameOk v.shownName) ↔
      h.authority.Presentable P clock call := by
  obtain ⟨-, -, shows⟩ := reveals_exec genuine.verified genuine.roster clock call wired
  have before (v : MemberView) (shown : h.authority.Shows none v) : NameOk v.shownName := by
    obtain onRoster | ⟨d, ⟨⟩, -⟩ := shown
    exact named v (.inl onRoster)
  have split (v : MemberView) (shown : (h.exec P clock call).Shows v) :
      (h.authority.exec P clock call).1.Shows (h.authority.exec P clock call).2 v ∨ h.Shows v := by
    obtain onRoster | ⟨d, mem, described⟩ := shown
    · exact .inl (.inl onRoster)
    · obtain earlier | now := mem_append.mp mem
      · exact .inr (.inr ⟨d, earlier, described⟩)
      · exact .inl (.inr ⟨d, mem_toList.mp now, described⟩)
  obtain ⟨ok, nothing⟩ | ⟨v₀, shown₀, only, ok⟩ := shows
  · refine iff_of_true ?_ ok
    intro v shown
    exact (split v shown).elim (fun now => before v (nothing v now)) (named v)
  · rw [ok]
    constructor
    · intro all
      apply all v₀
      obtain onRoster | ⟨d, mem, described⟩ := shown₀
      · exact .inl onRoster
      · exact .inr ⟨d, mem_append_right _ (mem_toList.mpr mem), described⟩
    · intro ok₀ v shown
      obtain now | earlier := split v shown
      · obtain old | rfl := only v now
        · exact before v old
        · exact ok₀
      · exact named v earlier

end

end History

/-- With packets that pass the validation, the clients can load every roster and accept every
admission exactly if no call puts a name before them that they refuse. -/
theorem admitted_rosters_load_iff (P : Primitives) (joinPending signTimeout retention : Seconds)
    (calls : List (Clock × Call)) (wired : ∀ c ∈ calls, c.2.Wired) :
    (∀ before, before <+: calls →
        (run P (init joinPending signTimeout retention) before).Loads P) ↔
      Runs.Along (fun h c => h.exec P c.1 c.2)
        (fun h c => h.authority.Presentable P c.1 c.2)
        (⟨init joinPending signTimeout retention, []⟩ : History) calls := by
  have start : History.Genuine P ⟨init joinPending signTimeout retention, []⟩ := by
    refine ⟨sound_run P joinPending signTimeout retention [], ?_, ?_⟩
    · rintro gid g ⟨⟩
    · rintro c ⟨⟩
  have genuine_run (before : List (Clock × Call)) (prior : before <+: calls) :
      (run P (init joinPending signTimeout retention) before).Genuine P := by
    induction before using List.reverseRecOn with
    | nil => exact start
    | append_singleton before c ih =>
      obtain ⟨clock, call⟩ := c
      rw [run_concat]
      have mem : (clock, call) ∈ calls := prior.subset (by simp)
      exact (ih ((prefix_append before _).trans prior)).exec clock call (wired _ mem)
  have moments : Runs.Along (fun (h : History) c => h.exec P c.1 c.2)
      (fun h c => h.authority.Presentable P c.1 c.2)
      ⟨init joinPending signTimeout retention, []⟩ calls ↔
      ∀ before, before <+: calls → ∀ v,
        (run P (init joinPending signTimeout retention) before).Shows v → NameOk v.shownName :=
    Runs.along_iff_forall_moment
      start
      (by rintro v (⟨gid, g, ⟨⟩, -⟩ | ⟨d, ⟨⟩, -⟩))
      (fun h c mem genuine _ _ => genuine.exec c.1 c.2 (wired c mem))
      (fun h c mem genuine named => genuine.exec_iff named c.1 c.2 (wired c mem))
  rw [moments]
  apply forall₂_congr
  intro before prior
  exact (genuine_run before prior).loads_iff

def presented (display : String) : List (Clock × Call) :=
  [(noon, .createGroup "s0" "NightWatch" (plainKey '0') "pop" "" "GL-AAAA" "owner" "mesh-v1"
      [nightWatch]),
    (noon, .beginJoinRedemption nightWatch.val "s1" "invite"),
    (noon, .attest "s1" nightWatch.val (plainKey '1') "sig" "" "GL-AAAB" display "op1"),
    (noon, .nextSignTask nightWatch.val),
    (noon, .submitSignature nightWatch.val "s0" "op1" "sig")]

theorem admitted_roster_loads :
    (run plainPrimitives (init 60 60 60) (presented "bob")).log.length = 1 ∧
      (run plainPrimitives (init 60 60 60) (presented "bob")).Loads plainPrimitives := by
  refine ⟨by decide +kernel, ?_⟩
  refine (admitted_rosters_load_iff plainPrimitives 60 60 60 (presented "bob")
    (by decide +kernel)).mpr ?_ _ (prefix_refl _)
  decide +kernel

/-- A name of one blank passes the validation and the authority; the other members can then
neither take in the admission nor load the roster. -/
theorem blank_name_locks_out :
    (∀ c ∈ presented " ", c.2.Wired) ∧
      (∃ g, (run plainPrimitives (init 60 60 60) (presented " ")).authority.groups.get?
          nightWatch = some g ∧
        ¬ ∃ members, verifiedMembers plainPrimitives g.snapshot.members = .ok members) ∧
      (run plainPrimitives (init 60 60 60) (presented " ")).log.map
        (fun c => (c.event.kind, (joinMemberFromPacket plainPrimitives c.packet c.event).isOk)) =
          [(.join, false)] := by
  refine ⟨by decide +kernel, ?_, by decide +kernel⟩
  have facts : ((run plainPrimitives (init 60 60 60) (presented " ")).authority.groups.get?
      nightWatch).any (fun g => (g.members.get? bob).any fun r => decide
        ((g.objects r).status = .active ∧
          (verifiedMember plainPrimitives (g.objects r).view).isOk = false)) := by
    decide +kernel
  obtain ⟨g, live, facts⟩ := (any_eq_true _ _).mp facts
  obtain ⟨r, seat, facts⟩ := (any_eq_true _ _).mp facts
  obtain ⟨active, refused⟩ := of_decide_eq_true facts
  refine ⟨g, live, ?_⟩
  rintro ⟨members, loaded⟩
  simp only [verifiedMembers, bind_eq_ok] at loaded
  obtain ⟨members', folded, -⟩ := loaded
  obtain ⟨m, verified⟩ := (foldlM_fileMember_iff Dict.empty).mp ⟨members', folded⟩
    (g.objects r).view (Group.mem_snapshot.mpr ⟨bob, r, seat, active, rfl⟩)
  rw [verified] at refused
  cases refused

end GroupAuthority
end Ghostlink.Groups
