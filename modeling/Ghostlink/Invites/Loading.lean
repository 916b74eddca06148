import Ghostlink.Invites.Records

/-! Which records load again. The constructor checks a record's fields against each other, and
loading runs it once more on what has been stored; between the two, fields are assigned without a
check. A store whose records all load stays so exactly as long as every record that is written
would pass the constructor and is stored under the key with which it is looked up. -/

namespace Ghostlink.Invites
open Collections Text Checks Runs List Dict LocalInviteRegistry

variable {S : RecordPrimitives}

namespace InviteRecord
variable {a r : InviteRecord}

structure Sound (S : RecordPrimitives) (a : InviteRecord) : Prop where
  id : isValidInviteId S.toInvitePrimitives a.inviteId
  group : a.kind = "group" → Groups.isValidGroupId a.groupId
  room : a.kind ≠ "group" → isValidRoomId a.roomId
  created : a.createdAt.aware
  expires : a.expiresAt.aware
  deadline : a.createdAt.moment < a.expiresAt.moment
  limit : 1 ≤ a.maxRedemptions
  uses : 0 ≤ a.redemptions ∧ a.redemptions ≤ a.maxRedemptions
  binding : bindingAllowed a.sessionBinding

def trimmed (a : InviteRecord) : InviteRecord :=
  { a with
    roomId := if a.kind = "group" then "" else a.roomId
    groupId := if a.kind = "group" then a.groupId else "" }

lemma trimmed_trimmed (a : InviteRecord) : a.trimmed.trimmed = a.trimmed := by
  by_cases group : a.kind = "group" <;> simp [trimmed, group]

lemma Sound.trimmed (sound : a.Sound S) : a.trimmed.Sound S :=
  { sound with
    group := by
      intro (group : a.kind = "group")
      simpa [InviteRecord.trimmed, group] using sound.group group
    room := by
      intro (other : a.kind ≠ "group")
      simpa [InviteRecord.trimmed, other] using sound.room other }

lemma init_eq_ok : a.init S = .ok r ↔ a.Sound S ∧ a.trimmed = r := by
  simp only [init, refuse_eq_ok, pure_eq_ok]
  constructor
  · rintro ⟨id, group, room, created, expires, deadline, limit, uses, binding, same⟩
    refine ⟨?_, same⟩
    constructor <;> grind
  · rintro ⟨sound, same⟩
    obtain ⟨id, group, room, created, expires, deadline, limit, uses, binding⟩ := sound
    refine ⟨?_, ?_, ?_, ?_, ?_, ?_, ?_, ?_, ?_, same⟩ <;> grind

lemma ofValue_value (state : InviteState) : InviteState.ofValue state.value = some state := by
  cases state <;> rfl

lemma fromDict_toDict (r : InviteRecord) : fromDict S (r.toDict S) =
      if r.kind ≠ "chat" ∧ r.kind ≠ "group" then
        .error (.config "A stored invite holds an unknown kind." corruptHint)
      else init S { r with
        createdAt := { r.createdAt with aware := true }
        expiresAt := { r.expiresAt with aware := true } } := by
  have missing : (expected.filter fun field => ((r.toDict S).lookup field).isNone) = [] := by
    simp [expected, toDict, lookup_cons]
  have state : readState (r.toDict S) = .ok r.state := by
    simp [readState, Document.str, toDict, lookup_cons, Value.str, ofValue_value]
  simp only [fromDict, missing, ne_eq, not_true_eq_false, if_false, state, bind, Except.bind]
  -- the other fields are read back one by one
  simp [readMoment, readInt, Document.str, toDict, lookup_cons, Value.str,
    S.fromisoformat_isoformat]
  rfl

structure LoadsBack (S : RecordPrimitives) (r : InviteRecord) : Prop where
  read : fromDict S (r.toDict S) = .ok r
  key : lookupKey S r.inviteId = r.inviteId

def KnownKind (r : InviteRecord) : Prop := r.kind = "chat" ∨ r.kind = "group"

lemma fromDict_eq_ok : fromDict S (a.toDict S) = .ok r ↔ a.KnownKind ∧ ({ a with
      createdAt := { a.createdAt with aware := true }
      expiresAt := { a.expiresAt with aware := true } } : InviteRecord).init S = .ok r := by
  rw [fromDict_toDict, KnownKind]
  by_cases known : a.kind ≠ "chat" ∧ a.kind ≠ "group"
  · rw [if_pos known]
    constructor
    · intro failed
      cases failed
    · rintro ⟨chat | group, -⟩
      · exact absurd chat known.1
      · exact absurd group known.2
  · rw [if_neg known]
    have kind : a.kind = "chat" ∨ a.kind = "group" := by
      rwa [not_and_or, not_not, not_not] at known
    exact ⟨fun loaded => ⟨kind, loaded⟩, fun both => both.2⟩

lemma inviteId_of_fromDict (loaded : fromDict S (a.toDict S) = .ok r) :
    r.inviteId = a.inviteId := by
  obtain ⟨-, built⟩ := fromDict_eq_ok.mp loaded
  obtain ⟨-, rfl⟩ := init_eq_ok.mp built
  rfl

lemma loadsBack_iff : r.LoadsBack S ↔ r.KnownKind ∧ r.Sound S ∧ r.trimmed = r ∧
    lookupKey S r.inviteId = r.inviteId := by
  constructor
  · rintro ⟨read, key⟩
    obtain ⟨kind, built⟩ := fromDict_eq_ok.mp read
    obtain ⟨sound, same⟩ := init_eq_ok.mp built
    -- what was loaded has its times in UTC, so the record had
    have created : r.createdAt = { r.createdAt with aware := true } := by
      rw [← congrArg createdAt same]
      rfl
    have expires : r.expiresAt = { r.expiresAt with aware := true } := by
      rw [← congrArg expiresAt same]
      rfl
    have aware : ({ r with
        createdAt := { r.createdAt with aware := true }
        expiresAt := { r.expiresAt with aware := true } } : InviteRecord) = r := by
      rw [← created, ← expires]
    rw [aware] at sound same
    exact ⟨kind, sound, same, key⟩
  · rintro ⟨kind, sound, same, key⟩
    refine ⟨fromDict_eq_ok.mpr ⟨kind, ?_⟩, key⟩
    have created : ({ r.createdAt with aware := true } : Datetime) = r.createdAt := by
      rw [← sound.created]
    have expires : ({ r.expiresAt with aware := true } : Datetime) = r.expiresAt := by
      rw [← sound.expires]
    rw [created, expires]
    exact init_eq_ok.mpr ⟨sound, same⟩

lemma LoadsBack.update (loads : r.LoadsBack S) (state) {redemptions}
    (uses : 0 ≤ redemptions ∧ redemptions ≤ r.maxRedemptions) (binding : String) :
    ({ r with state, redemptions, sessionBinding := binding } :
      InviteRecord).LoadsBack S ↔ bindingAllowed binding := by
  obtain ⟨kind, sound, same, key⟩ := loadsBack_iff.mp loads
  have room := congrArg roomId same
  have group := congrArg groupId same
  rw [loadsBack_iff]
  constructor
  · rintro ⟨-, changed, -⟩
    exact changed.binding
  · intro allowed
    refine ⟨kind, ?_, ?_, key⟩
    · exact { sound with uses, binding := allowed }
    · simp only [trimmed] at room group ⊢
      rw [room, group]

lemma LoadsBack.uses (loads : r.LoadsBack S) :
    0 ≤ r.redemptions ∧ r.redemptions ≤ r.maxRedemptions :=
  (loadsBack_iff.mp loads).2.1.uses

lemma LoadsBack.withState (loads : r.LoadsBack S) (state) :
    ({ r with state } : InviteRecord).LoadsBack S :=
  (loads.update state loads.uses r.sessionBinding).mpr (loadsBack_iff.mp loads).2.1.binding

lemma toDict_injective {r' : InviteRecord} (same : r.toDict S = r'.toDict S) : r = r' := by
  have states : ∀ {s t : InviteState}, s.value = t.value → s = t := by
    intro s t values
    exact Option.some.inj (((ofValue_value s).symm.trans (congrArg _ values)).trans (ofValue_value t))
  have times : ∀ {d e : Datetime}, S.isoformat d = S.isoformat e → d = e := by
    intro d e texts
    exact Option.some.inj (((S.fromisoformat_isoformat d).symm.trans (congrArg _ texts)).trans
      (S.fromisoformat_isoformat e))
  simp only [toDict, List.cons.injEq, Prod.mk.injEq, Value.text.injEq, Value.number.injEq,
    true_and, and_true] at same
  obtain ⟨id, room, hash, created, expires, limit, uses, state, binding, url, version, kind, group⟩ :=
    same
  obtain ⟨⟩ := r
  obtain ⟨⟩ := r'
  simp only [mk.injEq]
  exact ⟨id, room, hash, times created, times expires, limit, uses, states state, binding, url,
    version, kind, group⟩

lemma transition_eq_ok {target} :
    r.transition target = .ok a ↔ target ∈ r.state.transitions ∧ { r with state := target } = a := by
  unfold transition
  by_cases legal : target ∈ r.state.transitions
  · simp [legal]
  · simp [legal]

end InviteRecord

namespace LocalInviteRegistry
open InviteRecord
variable {g : LocalInviteRegistry} {r : InviteRecord}

/-- Every stored document is that of a record which `get` returns; `list_all` succeeds and returns
it too, and `refresh_expired` succeeds. -/
structure Readable (S : RecordPrimitives) (g : LocalInviteRegistry) : Prop where
  get : ∀ key document, g.backend.get? key = some document →
    ∃ r : InviteRecord, r.inviteId = key ∧ r.toDict S = document ∧ g.get S key = .ok (some r)
  listAll : ∃ records, g.listAll S = .ok records ∧
    ∀ key r, g.get S key = .ok (some r) → r ∈ records
  refreshExpired : ∀ now, ∃ result, g.refreshExpired S now = .ok result

def Clean (S : RecordPrimitives) (g : LocalInviteRegistry) : Prop :=
  ∀ key document, g.backend.get? key = some document →
    ∃ r : InviteRecord, r.inviteId = key ∧ r.toDict S = document ∧ r.LoadsBack S

lemma get_eq_some {inviteId} : g.get S inviteId = .ok (some r) ↔
    ∃ document, g.backend.get? (lookupKey S inviteId) = some document ∧
      fromDict S document = .ok r := by
  rw [get]
  cases g.backend.get? (lookupKey S inviteId) with
  | none => simp
  | some document => cases loaded : fromDict S document <;> simp [Except.map, loaded]

lemma get_of_stored (stored : g.backend.get? r.inviteId = some (r.toDict S))
    (loads : r.LoadsBack S) : g.get S r.inviteId = .ok (some r) := by
  rw [get_eq_some, loads.key]
  exact ⟨_, stored, loads.read⟩

lemma Clean.get (clean : g.Clean S) (inviteId) :
    ∃ found, g.get S inviteId = .ok found ∧ ∀ r ∈ found, r.LoadsBack S ∧
      g.backend.get? r.inviteId = some (r.toDict S) := by
  rw [LocalInviteRegistry.get]
  cases stored : g.backend.get? (lookupKey S inviteId) with
  | none => exact ⟨none, rfl, fun r found => absurd found (Option.not_mem_none r)⟩
  | some =>
    obtain ⟨r, key, rfl, loads⟩ := clean _ _ stored
    refine ⟨some r, ?_, fun r' found => ?_⟩
    · change (fromDict S (r.toDict S)).map some = .ok (some r)
      rw [loads.read]
      rfl
    · obtain rfl := Option.mem_some.mp found
      exact ⟨loads, key ▸ stored⟩

lemma Clean.listAll (clean : g.Clean S) : ∃ records, g.listAll S = .ok records ∧
    (∀ r ∈ records, r.LoadsBack S) ∧
    ∀ r : InviteRecord, g.backend.get? r.inviteId = some (r.toDict S) → r ∈ records := by
  have loaded : ∀ document ∈ g.backend.values, ∃ r : InviteRecord,
      r.toDict S = document ∧ r.LoadsBack S := by
    intro document mem
    obtain ⟨key, stored⟩ := (mem_values _ document).mp mem
    obtain ⟨r, -, same, loads⟩ := clean key document stored
    exact ⟨r, same, loads⟩
  have each : ∀ document ∈ g.backend.values, ∃ r, fromDict S document = .ok r := by
    intro document mem
    obtain ⟨r, rfl, loads⟩ := loaded document mem
    exact ⟨r, loads.read⟩
  obtain ⟨records, read, sources, complete⟩ := exists_mapM each
  refine ⟨_, bind_eq_ok.mpr ⟨records, read, rfl⟩, ?_, ?_⟩
  · intro r mem
    rw [mem_mergeSort] at mem
    obtain ⟨document, memDocument, found⟩ := sources r mem
    obtain ⟨r', rfl, loads⟩ := loaded document memDocument
    rwa [← Except.ok.inj (loads.read.symm.trans found)]
  · intro r stored
    rw [mem_mergeSort]
    have memDocument := (mem_values _ _).mpr ⟨r.inviteId, stored⟩
    obtain ⟨r', mem, found⟩ := complete _ memDocument
    obtain ⟨r'', same, loads⟩ := loaded _ memDocument
    obtain rfl := toDict_injective same
    rwa [Except.ok.inj (loads.read.symm.trans found)]

lemma clean_of_readable (readable : g.Readable S) : g.Clean S := by
  intro key document stored
  obtain ⟨r, rfl, rfl, found⟩ := readable.get key document stored
  refine ⟨r, rfl, rfl, ?_⟩
  -- what is under the looked-up key is a record of that key, and it is read as `r`
  obtain ⟨raw, lookup, read⟩ := get_eq_some.mp found
  obtain ⟨r', key, rfl, -⟩ := readable.get _ raw lookup
  have same : lookupKey S r.inviteId = r.inviteId := key.symm.trans (inviteId_of_fromDict read).symm
  rw [same, stored] at lookup
  rw [← Option.some.inj lookup] at read
  exact ⟨read, same⟩

lemma readable_of_clean (clean : g.Clean S) : g.Readable S where
  get := by
    intro key document stored
    obtain ⟨r, rfl, rfl, loads⟩ := clean key document stored
    exact ⟨r, rfl, rfl, get_of_stored stored loads⟩
  listAll := by
    obtain ⟨records, listed, -, complete⟩ := clean.listAll
    refine ⟨records, listed, fun key r found => ?_⟩
    obtain ⟨found', same, stored⟩ := clean.get key
    exact complete r (stored r (Except.ok.inj (same.symm.trans found) ▸ rfl)).2
  refreshExpired := by
    intro now
    obtain ⟨records, listed, -, -⟩ := clean.listAll
    exact ⟨_, bind_eq_ok.mpr ⟨records, listed, rfl⟩⟩

lemma readable_iff_clean : g.Readable S ↔ g.Clean S := ⟨clean_of_readable, readable_of_clean⟩

section
variable (clean : g.Clean S)
include clean

lemma Clean.save_iff (r : InviteRecord) :
    (g.save S r).Clean S ↔ r.LoadsBack S := by
  constructor
  · intro saved
    obtain ⟨r', -, same, loads⟩ := saved r.inviteId (r.toDict S) (get?_set_self _ _ _)
    rwa [← toDict_injective same]
  · intro loads key document stored
    by_cases same : key = r.inviteId
    · subst same
      rw [save, get?_set_self] at stored
      exact ⟨r, rfl, Option.some.inj stored, loads⟩
    · rw [save, get?_set_ne _ _ same] at stored
      exact clean key document stored

lemma Clean.delete (inviteId) : (g.delete S inviteId).1.Clean S := by
  unfold LocalInviteRegistry.delete
  extract_lets key
  split
  · intro key' document stored
    exact clean key' document (get?_of_erase stored)
  · exact clean

lemma Clean.expireDue (loads : r.LoadsBack S) (now) :
    (g.expireDue S r now).1.Clean S ∧ (g.expireDue S r now).2.LoadsBack S := by
  unfold LocalInviteRegistry.expireDue
  split
  · have expired := loads.withState .expired
    exact ⟨(clean.save_iff _).mpr expired, expired⟩
  · exact ⟨clean, loads⟩

lemma Clean.expireEach (now) {records}
    (loads : ∀ r ∈ records, r.LoadsBack S) : (g.expireEach S now records).1.Clean S ∧
      ∀ r ∈ (g.expireEach S now records).2, r.LoadsBack S := by
  induction records generalizing g with
  | nil => exact ⟨clean, loads⟩
  | cons r rs ih =>
    obtain ⟨first, expired⟩ := clean.expireDue (loads r mem_cons_self) now
    obtain ⟨rest, others⟩ := ih first fun r mem => loads r (mem_cons_of_mem _ mem)
    refine ⟨rest, ?_⟩
    rw [expireEach]
    split
    · intro r' mem
      rcases mem_cons.mp mem with rfl | mem
      · exact expired
      · exact others r' mem
    · exact others

lemma Clean.purgeEach (cutoff records) :
    (g.purgeEach S cutoff records).1.Clean S := by
  induction records generalizing g with
  | nil => exact clean
  | cons r rs ih =>
    rw [purgeEach]
    split
    · exact ih (clean.delete r.inviteId)
    · exact ih clean

end

end LocalInviteRegistry

namespace SecureInviteManager
open InviteRecord LocalInviteRegistry
variable {m : SecureInviteManager} {r : InviteRecord}

/-- Every record is written so that it loads: the relay's expiry is after the creation and the
kind is one of the two, a session binding is one that the constructor allows, and the invite id of
an incoming redemption is given in lower case and without white space around it. -/
def Careful (S : RecordPrimitives) (m : SecureInviteManager) : Operation → Prop
  | .registerWithRelay i client => ∀ r grant active, m.held[i]? = some r →
      m.registered r client = .ok (grant, active) →
        r.createdAt.moment < grant.expiresAt ∧ r.KnownKind
  | .markRedeemed inviteId binding now => ∀ m' r r', m.get S inviteId now = (m', .ok (some r)) →
      redeemed r = .ok r' → bindingAllowed binding
  | .noteLocalRedeemed inviteId binding now => ∀ m' r r',
      m.get S inviteId now = (m', .ok (some r)) → redeemed r = .ok r' →
        bindingAllowed binding
  | .bindSession inviteId binding now => ∀ m' r, m.get S inviteId now = (m', .ok (some r)) →
      bindingAllowed binding
  | .recordIncomingRedemption inviteId roomId expiresAt relayUrl now => ∀ r,
      incomingRecord S inviteId roomId expiresAt relayUrl now = .ok r →
        lookupKey S inviteId = inviteId
  | _ => True

def Fresh (S : RecordPrimitives) (r : InviteRecord) : Prop :=
  .active ∈ r.state.transitions →
    r.Sound S ∧ r.trimmed = r ∧ lookupKey S r.inviteId = r.inviteId

def HeldFresh (S : RecordPrimitives) (m : SecureInviteManager) : Prop := ∀ r ∈ m.held, Fresh S r

def HandsOutFresh (S : RecordPrimitives)
    (result : Outcome) : Prop :=
  result.1.HeldFresh S ∧
    ∀ reply, result.2 = .ok reply → ∀ r ∈ reply.handedOut, Fresh S r

lemma fresh_of_loadsBack (loads : r.LoadsBack S) : Fresh S r := by
  intro _
  exact (loadsBack_iff.mp loads).2

lemma plain_hexLower (n : Fin 16) :
    isSpace (hexLower n) = false ∧ (hexLower n).toNat < 128 ∧ (hexLower n).toLower = hexLower n := by
  revert n
  decide

variable {token : String} {r' : InviteRecord}

lemma lookupKey_inviteIdForToken {inviteId}
    (derived : inviteIdForToken S.toInvitePrimitives token = .ok inviteId) :
    lookupKey S inviteId = inviteId := by
  simp only [inviteIdForToken, tokenHashFor, hashToken, bind_eq_ok, pure_eq_ok] at derived
  obtain ⟨digest, ⟨normalized, -, hashed⟩, rfl⟩ := derived
  split at hashed
  · cases hashed
    have plain : ∀ c ∈ (inviteIdPrefix ++ takeChars 10
        (toHex (S.sha256 (utf8Encode normalized.toList)).toList)).toList,
        isSpace c = false ∧ c.toNat < 128 ∧ c.toLower = c := by
      intro c mem
      rw [String.toList_append, mem_append, takeChars, String.toList_ofList] at mem
      rcases mem with mem | mem
      · have chars : inviteIdPrefix.toList = ['g', 'i', '_'] := by decide
        rw [chars] at mem
        simp only [mem_cons, not_mem_nil, or_false] at mem
        rcases mem with rfl | rfl | rfl <;> decide
      · obtain ⟨n, rfl⟩ := exists_of_mem_toHex (mem_of_mem_take mem)
        exact plain_hexLower n
    rw [lookupKey, strip_of_forall fun c mem => (plain c mem).1]
    exact S.lower_plain _ fun c mem => (plain c mem).2
  · cases hashed

lemma sound_of_minted {args room created deadline}
    (minted : mintRecord S args token room created deadline = .ok r) :
    r.Sound S ∧ r.trimmed = r ∧ lookupKey S r.inviteId = r.inviteId := by
  simp only [mintRecord, bind_eq_ok, init_eq_ok] at minted
  obtain ⟨inviteId, derived, tokenHash, -, expiresAt, -, sound, rfl⟩ := minted
  refine ⟨sound.trimmed, trimmed_trimmed _, ?_⟩
  cases token' : inviteIdForToken S.toInvitePrimitives token with
  | error =>
    rw [token'] at derived
    cases derived
  | ok =>
    rw [token'] at derived
    cases derived
    exact lookupKey_inviteIdForToken token'

lemma get_of_clean (clean : m.registry.Clean S) (inviteId now) :
    ∃ m' found, m.get S inviteId now = (m', .ok found) ∧ m'.registry.Clean S ∧ m'.held = m.held ∧
      ∀ r ∈ found, r.LoadsBack S := by
  obtain ⟨found, lookup, loads⟩ := clean.get inviteId
  rw [get, lookup]
  cases found with
  | none => exact ⟨m, none, rfl, clean, rfl, fun r found => absurd found (Option.not_mem_none r)⟩
  | some r =>
    obtain ⟨folded, loaded⟩ := clean.expireDue (loads r rfl).1 now
    refine ⟨_, _, rfl, folded, rfl, fun r' found => ?_⟩
    rwa [← Option.mem_some.mp found]

lemma clean_consult_iff (clean : m.registry.Clean S) (inviteId now absent) (next)
    {P : SecureInviteManager → InviteRecord → Prop}
    (each : ∀ m' r, m'.registry.Clean S → r.LoadsBack S →
      ((next m' r).1.registry.Clean S ↔ P m' r)) :
    (m.consult S inviteId now absent next).1.registry.Clean S ↔
      ∀ m' r, m.get S inviteId now = (m', .ok (some r)) → P m' r := by
  obtain ⟨m', found, got, clean', -, loads⟩ := get_of_clean clean inviteId now
  rw [consult, got]
  cases found with
  | none =>
    refine ⟨fun _ m'' r same => ?_, fun _ => clean'⟩
    cases same
  | some r =>
    rw [show (next m' r).1.registry.Clean S ↔ P m' r from each m' r clean' (loads r rfl)]
    constructor
    · intro allowed m'' r' same
      cases same
      exact allowed
    · intro all
      exact all m' r rfl

variable {absent : Except RecordFault Reply}

lemma handsOutFresh_consult (clean : m.registry.Clean S) (held : m.HeldFresh S) (inviteId now)
    {next}
    (silent : ∀ reply, absent = .ok reply → reply.handedOut = [])
    (each : ∀ m' r, m'.HeldFresh S → r.LoadsBack S → HandsOutFresh S (next m' r)) :
    HandsOutFresh S (m.consult S inviteId now absent next) := by
  obtain ⟨m', found, got, -, same, loads⟩ := get_of_clean clean inviteId now
  have held' : m'.HeldFresh S := by
    rwa [HeldFresh, same]
  rw [consult, got]
  cases found with
  | none =>
    refine ⟨held', fun reply answered r mem => ?_⟩
    rw [silent reply answered] at mem
    simp at mem
  | some r => exact each m' r held' (loads r rfl)

lemma redeemed_eq_ok (done : redeemed r = .ok r') : { r with state := .redeemed } = r' := by
  unfold redeemed at done
  split at done
  · obtain ⟨r₁, first, second⟩ := bind_eq_ok.mp done
    obtain ⟨-, rfl⟩ := transition_eq_ok.mp first
    exact (transition_eq_ok.mp second).2
  · exact (transition_eq_ok.mp done).2

lemma revoked_eq_ok (done : revoked r = .ok r') : ∃ state, { r with state } = r' := by
  unfold revoked at done
  split at done
  · cases done
    exact ⟨r.state, rfl⟩
  · obtain ⟨-, same⟩ := transition_eq_ok.mp done
    exact ⟨.revoked, same⟩

section
variable (clean : m.registry.Clean S)
include clean

lemma clean_markRedeemed_iff (inviteId binding now) :
    (m.markRedeemed S inviteId binding now).1.registry.Clean S ↔
      m.Careful S (.markRedeemed inviteId binding now) := by
  rw [markRedeemed, clean_consult_iff clean inviteId now _ _
    (P := fun _ r => ∀ r', redeemed r = .ok r' → bindingAllowed binding)]
  · exact ⟨fun all m' r r' got => all m' r got r', fun all m' r got r' => all m' r r' got⟩
  · intro m' r clean' loads
    cases done : redeemed r with
    | error => simp [clean']
    | ok =>
      obtain rfl := redeemed_eq_ok done
      have saved := (clean'.save_iff _).trans (loads.update .redeemed loads.uses binding)
      exact saved.trans ⟨fun allowed _ _ => allowed, fun all => all _ rfl⟩

lemma clean_noteLocalRedeemed_iff (inviteId binding now) :
    (m.noteLocalRedeemed S inviteId binding now).1.registry.Clean S ↔
      m.Careful S (.noteLocalRedeemed inviteId binding now) := by
  rw [noteLocalRedeemed, clean_consult_iff clean inviteId now _ _
    (P := fun _ r => ∀ r', redeemed r = .ok r' → bindingAllowed binding)]
  · exact ⟨fun all m' r r' got => all m' r got r', fun all m' r got r' => all m' r r' got⟩
  · intro m' r clean' loads
    cases done : redeemed r with
    | error => simp [clean']
    | ok =>
      obtain rfl := redeemed_eq_ok done
      have uses : 0 ≤ r.maxRedemptions ∧ r.maxRedemptions ≤ r.maxRedemptions :=
        ⟨loads.uses.1.trans loads.uses.2, le_refl _⟩
      have saved := (clean'.save_iff _).trans (loads.update .redeemed uses binding)
      exact saved.trans ⟨fun allowed _ _ => allowed, fun all => all _ rfl⟩

lemma clean_bindSession_iff (inviteId binding now) :
    (m.bindSession S inviteId binding now).1.registry.Clean S ↔
      m.Careful S (.bindSession inviteId binding now) := by
  rw [bindSession, clean_consult_iff clean inviteId now]
  · exact Iff.rfl
  · intro m' r clean' loads
    exact (clean'.save_iff _).trans (loads.update r.state loads.uses binding)

lemma clean_recordIncomingRedemption_iff (inviteId roomId expiresAt relayUrl now) :
    (m.recordIncomingRedemption S inviteId roomId expiresAt relayUrl now).1.registry.Clean S ↔
      m.Careful S (.recordIncomingRedemption inviteId roomId expiresAt relayUrl now) := by
  rw [recordIncomingRedemption, Careful]
  cases built : incomingRecord S inviteId roomId expiresAt relayUrl now with
  | error => simp [clean]
  | ok r =>
    obtain ⟨sound, rfl⟩ := init_eq_ok.mp built
    refine (clean.save_iff _).trans ?_
    rw [loadsBack_iff]
    constructor
    · rintro ⟨-, -, -, key⟩ r -
      exact key
    · intro all
      exact ⟨.inl rfl, sound.trimmed, trimmed_trimmed _, all _ rfl⟩

end

lemma registered_eq_ok {client grant active}
    (done : m.registered r client = .ok (grant, active)) : .active ∈ r.state.transitions ∧
      { r with state := .active, expiresAt := ⟨grant.expiresAt, true⟩ } = active := by
  simp only [registered, bind_eq_ok, pure_eq_ok] at done
  obtain ⟨token, -, grant', -, moved, transition, same⟩ := done
  obtain ⟨legal, rfl⟩ := transition_eq_ok.mp transition
  cases same
  exact ⟨legal, rfl⟩

lemma clean_registerWithRelay_iff (clean : m.registry.Clean S) (held : m.HeldFresh S) {i}
    (found : m.held[i]? = some r) (client) :
    (m.registerWithRelay S i r client).1.registry.Clean S ↔
      m.Careful S (.registerWithRelay i client) := by
  rw [registerWithRelay, Careful]
  cases done : m.registered r client with
  | error =>
    refine ⟨fun _ r' grant active found' done' => ?_, fun _ => clean⟩
    cases found.symm.trans found'
    simp [done] at done'
  | ok result =>
    obtain ⟨grant, active⟩ := result
    obtain ⟨legal, rfl⟩ := registered_eq_ok done
    obtain ⟨sound, trimmed, key⟩ := held r (mem_of_getElem? found) legal
    have room := congrArg InviteRecord.roomId trimmed
    have group := congrArg InviteRecord.groupId trimmed
    refine (clean.save_iff _).trans ?_
    rw [loadsBack_iff]
    constructor
    · rintro ⟨kind, changed, -⟩ r' grant' active' found' done'
      cases found.symm.trans found'
      cases done.symm.trans done'
      exact ⟨changed.deadline, kind⟩
    · intro all
      obtain ⟨later, kind⟩ := all r grant _ found done
      refine ⟨kind, ?_, ?_, key⟩
      · exact { sound with expires := rfl, deadline := later }
      · simp only [InviteRecord.trimmed] at room group ⊢
        rw [room, group]

lemma Clean.foldEach (clean : m.registry.Clean S) (clock)
    {records} (loads : ∀ r ∈ records, r.LoadsBack S) :
    (m.foldEach S clock records).1.registry.Clean S ∧
      (m.foldEach S clock records).1.held = m.held ∧
      ∀ r ∈ (m.foldEach S clock records).2, r.LoadsBack S := by
  induction records generalizing m clock with
  | nil => exact ⟨clean, rfl, loads⟩
  | cons r rs ih =>
    obtain ⟨first, expired⟩ := clean.expireDue (loads r mem_cons_self) (clock 0)
    obtain ⟨rest, same, others⟩ := ih (m := (m.foldExpiry S r (clock 0)).1) first
      (fun n => clock (n + 1)) fun r mem => loads r (mem_cons_of_mem _ mem)
    refine ⟨rest, same, fun r' mem => ?_⟩
    rcases mem_cons.mp mem with rfl | mem
    · exact expired
    · exact others r' mem

lemma registry_step (m : SecureInviteManager) (operation) :
    (m.step S operation).registry = (m.perform S operation).1.registry := by
  unfold step
  split <;> simp_all [handOut]

section
variable (clean : m.registry.Clean S)
include clean

lemma clean_consult (inviteId now) {next}
    (each : ∀ m' r, m'.registry.Clean S → r.LoadsBack S → (next m' r).1.registry.Clean S) :
    (m.consult S inviteId now absent next).1.registry.Clean S :=
  (clean_consult_iff clean inviteId now absent next
    (fun m' r clean' loads => iff_of_true (each m' r clean' loads) trivial)).mpr
    fun _ _ _ => trivial

lemma clean_revokeViaRelay (inviteId now) (client) :
    (m.revokeViaRelay S inviteId now client).1.registry.Clean S := by
  apply clean_consult clean
  intro m' r clean' loads
  split
  next => exact clean'
  next r' done =>
    obtain ⟨-, -, moved⟩ := bind_eq_ok.mp done
    obtain ⟨state, rfl⟩ := revoked_eq_ok moved
    exact (clean'.save_iff _).mpr (loads.withState state)

lemma clean_revokeLocal (inviteId now) :
    (m.revokeLocal S inviteId now).1.registry.Clean S := by
  apply clean_consult clean
  intro m' r clean' loads
  split
  · exact clean'
  · split
    · exact clean'
    · split
      next => exact clean'
      next r' moved =>
        obtain ⟨-, rfl⟩ := transition_eq_ok.mp moved
        exact (clean'.save_iff _).mpr (loads.withState .revoked)

lemma refreshExpired_of_clean (now) :
    ∃ m' moved, m.refreshExpired S now = (m', .ok (.records moved)) ∧ m'.registry.Clean S ∧
      m'.held = m.held ∧ ∀ r ∈ moved, r.LoadsBack S := by
  obtain ⟨records, listed, loads, -⟩ := clean.listAll
  obtain ⟨expired, moved⟩ := clean.expireEach now loads
  have refreshed : m.registry.refreshExpired S now = .ok (m.registry.expireEach S now records) :=
    bind_eq_ok.mpr ⟨records, listed, rfl⟩
  rw [refreshExpired, refreshed]
  exact ⟨_, _, rfl, expired, rfl, moved⟩

lemma purgeTerminal_of_clean (retention now) :
    ∃ m' removed, m.purgeTerminal S retention now = (m', .ok (.count removed)) ∧
      m'.registry.Clean S ∧ m'.held = m.held := by
  obtain ⟨records, listed, -, -⟩ := clean.listAll
  have purged : m.registry.purgeTerminal S retention now =
      .ok (m.registry.purgeEach S (now - retention) records) :=
    bind_eq_ok.mpr ⟨records, listed, rfl⟩
  rw [purgeTerminal, purged]
  exact ⟨_, _, rfl, clean.purgeEach _ records, rfl⟩

lemma applyRetention_of_clean (retention now later) :
    ∃ m' removed, m.applyRetention S retention now later = (m', .ok (.count removed)) ∧
      m'.registry.Clean S ∧ m'.held = m.held := by
  obtain ⟨m', moved, refreshed, clean', same, -⟩ := refreshExpired_of_clean clean now
  obtain ⟨m'', removed, purged, clean'', same'⟩ := purgeTerminal_of_clean clean' retention later
  rw [applyRetention, refreshed]
  exact ⟨m'', removed, purged, clean'', same'.trans same⟩

lemma list_of_clean (clock) :
    ∃ m' records, m.list S clock = (m', .ok (.records records)) ∧ m'.registry.Clean S ∧
      m'.held = m.held ∧ ∀ r ∈ records, r.LoadsBack S := by
  obtain ⟨records, listed, loads, -⟩ := clean.listAll
  obtain ⟨folded, same, each⟩ := Clean.foldEach clean clock loads
  rw [list, listed]
  exact ⟨_, _, rfl, folded, same, each⟩

lemma clean_perform_iff (held : m.HeldFresh S) (operation) :
    (m.perform S operation).1.registry.Clean S ↔ m.Careful S operation := by
  cases operation with
  | registerWithRelay i client =>
    rw [perform]
    cases found : m.held[i]? with
    | some => exact clean_registerWithRelay_iff clean held found client
    | none =>
      refine iff_of_true clean ?_
      intro r grant active found'
      simp [found] at found'
  | markRedeemed inviteId binding now => exact clean_markRedeemed_iff clean inviteId binding now
  | noteLocalRedeemed inviteId binding now =>
    exact clean_noteLocalRedeemed_iff clean inviteId binding now
  | bindSession inviteId binding now => exact clean_bindSession_iff clean inviteId binding now
  | recordIncomingRedemption inviteId roomId expiresAt relayUrl now =>
    exact clean_recordIncomingRedemption_iff clean inviteId roomId expiresAt relayUrl now
  -- the other operations never harm
  | mint args token room created deadline =>
    refine iff_of_true ?_ trivial
    rw [perform, mint]
    split
    · exact clean
    · exact clean
  | revokeViaRelay inviteId now client =>
    exact iff_of_true (clean_revokeViaRelay clean inviteId now client) trivial
  | get inviteId now | require inviteId now =>
    exact iff_of_true (clean_consult clean inviteId now fun _ _ clean' _ => clean') trivial
  | list clock =>
    obtain ⟨m', records, listed, clean', -⟩ := list_of_clean clean clock
    refine iff_of_true ?_ trivial
    rwa [perform, listed]
  | revokeLocal inviteId now =>
    exact iff_of_true (clean_revokeLocal clean inviteId now) trivial
  | applyRetention retention now later =>
    obtain ⟨m', removed, applied, clean', -⟩ := applyRetention_of_clean clean retention now later
    refine iff_of_true ?_ trivial
    rwa [perform, applied]
  | refreshExpired now =>
    obtain ⟨m', moved, refreshed, clean', -⟩ := refreshExpired_of_clean clean now
    refine iff_of_true ?_ trivial
    rwa [perform, refreshed]
  | restart => exact iff_of_true clean trivial

end

lemma fresh_of_state (final : .active ∉ r.state.transitions) : Fresh S r :=
  fun possible => absurd possible final

lemma handsOutFresh_error (held : m.HeldFresh S) (fault) : HandsOutFresh S (m, .error fault) := by
  refine ⟨held, fun reply answered => ?_⟩
  cases answered

lemma handsOutFresh_ok (held : m.HeldFresh S) {reply : Reply}
    (fresh : ∀ r ∈ reply.handedOut, Fresh S r) : HandsOutFresh S (m, .ok reply) := by
  refine ⟨held, fun reply' answered => ?_⟩
  cases answered
  exact fresh

lemma handsOutFresh_record (held : m.HeldFresh S) (fresh : Fresh S r) :
    HandsOutFresh S (m, .ok (.record r)) := by
  apply handsOutFresh_ok held
  intro r' mem
  rwa [mem_singleton.mp mem]

lemma handsOutFresh_perform (clean : m.registry.Clean S) (held : m.HeldFresh S)
    (operation) : HandsOutFresh S (m.perform S operation) := by
  cases operation with
  | mint args token =>
    rw [perform, mint]
    split
    next fault _ => exact handsOutFresh_error held fault
    next r minted =>
      refine ⟨held, fun reply answered r' mem => ?_⟩
      cases link : formatInviteLink S.toInvitePrimitives token with
      | error =>
        rw [link] at answered
        cases answered
      | ok =>
        rw [link] at answered
        cases answered
        rw [mem_singleton.mp mem]
        exact fun _ => sound_of_minted minted
  | registerWithRelay i client =>
    rw [perform]
    cases found : m.held[i]? with
    | none => exact handsOutFresh_ok held (by simp [Reply.handedOut])
    | some r =>
      change HandsOutFresh S (m.registerWithRelay S i r client)
      rw [registerWithRelay]
      split
      next fault _ => exact handsOutFresh_error held fault
      next grant active done =>
        obtain ⟨-, rfl⟩ := registered_eq_ok done
        refine handsOutFresh_ok ?_ (by simp [Reply.handedOut])
        intro r' mem
        rcases mem_or_eq_of_mem_set mem with before | rfl
        · exact held r' before
        · exact fresh_of_state (by simp [InviteState.transitions])
  | revokeViaRelay inviteId now =>
    apply handsOutFresh_consult clean held inviteId now (by rintro _ ⟨⟩)
    intro m' r held' loads
    split
    next fault _ => exact handsOutFresh_error held' fault
    next r' done =>
      obtain ⟨-, -, moved⟩ := bind_eq_ok.mp done
      obtain ⟨state, rfl⟩ := revoked_eq_ok moved
      exact handsOutFresh_record held' (fresh_of_loadsBack (loads.withState state))
  | markRedeemed inviteId binding now =>
    apply handsOutFresh_consult clean held inviteId now (by rintro _ ⟨⟩)
    intro m' r held' loads
    split
    next fault _ => exact handsOutFresh_error held' fault
    next r' done =>
      obtain rfl := redeemed_eq_ok done
      exact handsOutFresh_record held' (fresh_of_state (by simp [InviteState.transitions]))
  | recordIncomingRedemption =>
    rw [perform, recordIncomingRedemption]
    split
    next fault _ => exact handsOutFresh_error held fault
    next r built =>
      obtain ⟨-, rfl⟩ := init_eq_ok.mp built
      apply handsOutFresh_record held
      apply fresh_of_state
      simp [InviteRecord.trimmed, InviteState.transitions]
  | bindSession inviteId binding now =>
    apply handsOutFresh_consult clean held inviteId now (by rintro _ ⟨⟩; rfl)
    intro m' r held' loads
    exact handsOutFresh_ok held' (by simp [Reply.handedOut])
  | noteLocalRedeemed inviteId binding now =>
    apply handsOutFresh_consult clean held inviteId now (by rintro _ ⟨⟩; rfl)
    intro m' r held' loads
    split
    next fault _ => exact handsOutFresh_error held' fault
    next => exact handsOutFresh_ok held' (by simp [Reply.handedOut])
  | get inviteId now | require inviteId now =>
    apply handsOutFresh_consult clean held inviteId now (by rintro _ ⟨⟩ <;> rfl)
    intro m' r held' loads
    exact handsOutFresh_record held' (fresh_of_loadsBack loads)
  | list clock =>
    obtain ⟨m', records, listed, -, same, loads⟩ := list_of_clean clean clock
    rw [perform, listed]
    apply handsOutFresh_ok
    · rw [HeldFresh, same]
      exact held
    · exact fun r mem => fresh_of_loadsBack (loads r mem)
  | revokeLocal inviteId now =>
    apply handsOutFresh_consult clean held inviteId now (by rintro _ ⟨⟩)
    intro m' r held' loads
    split
    · exact handsOutFresh_record held' (fresh_of_loadsBack loads)
    · split
      · exact handsOutFresh_error held' _
      · split
        next fault _ => exact handsOutFresh_error held' fault
        next r' moved =>
          obtain ⟨-, rfl⟩ := transition_eq_ok.mp moved
          exact handsOutFresh_record held' (fresh_of_loadsBack (loads.withState .revoked))
  | applyRetention retention now later =>
    obtain ⟨m', removed, applied, -, same⟩ := applyRetention_of_clean clean retention now later
    rw [perform, applied]
    apply handsOutFresh_ok
    · rw [HeldFresh, same]
      exact held
    · simp [Reply.handedOut]
  | refreshExpired now =>
    obtain ⟨m', moved, refreshed, -, same, loads⟩ := refreshExpired_of_clean clean now
    rw [perform, refreshed]
    apply handsOutFresh_ok
    · rw [HeldFresh, same]
      exact held
    · exact fun r mem => fresh_of_loadsBack (loads r mem)
  | restart =>
    apply handsOutFresh_ok
    · exact fun r mem => absurd mem not_mem_nil
    · simp [Reply.handedOut]

lemma heldFresh_step (clean : m.registry.Clean S) (held : m.HeldFresh S)
    (operation) : (m.step S operation).HeldFresh S := by
  obtain ⟨kept, handed⟩ := handsOutFresh_perform clean held operation
  unfold step
  split
  next m' fault performed =>
    rwa [performed] at kept
  next m' reply performed =>
    rw [performed] at kept handed
    intro r mem
    rcases mem_append.mp mem with before | new
    · exact kept r before
    · exact handed reply rfl r new

/-- Every record that is saved loads again, in every run of the manager's operations, exactly if
each of them is careful. -/
theorem saved_records_load_iff (S : RecordPrimitives) (operations : List Operation) :
    (∀ past, past <+: operations → (run S past).registry.Readable S) ↔
      Along (step S) (Careful S) start operations := by
  have empty : start.registry.Readable S := by
    apply readable_of_clean
    intro key document stored
    cases stored
  have none_ : start.HeldFresh S := fun r mem => absurd mem not_mem_nil
  rw [along_iff_forall_moment (P := fun m => m.registry.Readable S) none_ empty]
  · exact Iff.rfl
  · intro m operation _ held readable _
    exact heldFresh_step (clean_of_readable readable) held operation
  · intro m operation _ held readable
    rw [readable_iff_clean, registry_step]
    exact clean_perform_iff (clean_of_readable readable) held operation

def plainIsoformat (d : Datetime) : String :=
  String.ofList ((if d.aware then 'Z' else 'L') :: match d.moment with
    | .ofNat n => '+' :: List.replicate n '|'
    | .negSucc n => '-' :: List.replicate n '|')

def plainFromisoformat (text : String) : Option Datetime :=
  match text.toList with
  | zone :: sign :: ticks =>
    let moment := if sign = '+' then Int.ofNat ticks.length else Int.negSucc ticks.length
    some ⟨moment, zone = 'Z'⟩
  | _ => none

lemma plainFromisoformat_plainIsoformat (d) : plainFromisoformat (plainIsoformat d) = some d := by
  obtain ⟨moment, aware⟩ := d
  cases aware <;> cases moment <;> simp [plainFromisoformat, plainIsoformat]

lemma id_plain (s : String) (_ : ∀ c ∈ s.toList, c.toNat < 128 ∧ c.toLower = c) : id s = s := rfl

def plainRecords : RecordPrimitives where
  upper := id
  lower := id
  sha256 bytes := Vector.ofFn fun i : Fin 32 => bytes.getD i 0
  isoformat := plainIsoformat
  fromisoformat := plainFromisoformat
  parseInt := fun _ => none
  lower_plain := id_plain
  fromisoformat_isoformat := plainFromisoformat_plainIsoformat

def staleGrant : List Operation :=
  [.mint ⟨60, 1, none, "", "chat", ""⟩ "AAAAAAAAAAAAAAAAAAAA" "gl-room-AAAA-AAAA-AAAA" 5 5,
    .registerWithRelay 0 fun _ => .ok ⟨"gi_4141414141", 4, 1⟩]

/-- The saved record does not load, and neither does any list of records with it. -/
theorem staleGrant_unreadable :
    ((run plainRecords staleGrant).registry.get plainRecords "gi_4141414141" =
        .error (.config "An invite's deadline must be after its creation time."
          "Create invites with a positive lifetime.") ∧
      (run plainRecords staleGrant).registry.listAll plainRecords =
        .error (.config "An invite's deadline must be after its creation time."
          "Create invites with a positive lifetime.")) ∧
    ¬ ∀ past, past <+: staleGrant → (run plainRecords past).registry.Readable plainRecords := by
  refine ⟨by decide +kernel, fun readable => ?_⟩
  obtain ⟨records, listed, -⟩ := (readable staleGrant (prefix_refl _)).listAll
  have failed : ((run plainRecords staleGrant).registry.listAll plainRecords).isOk = false := by
    decide +kernel
  rw [listed] at failed
  cases failed

end SecureInviteManager
end Ghostlink.Invites
