import Ghostlink.Groups.AuthoritySteps

/-! Runs of the whole registry. One call creates a group, moves one group by steps, settles
one operation, or moves every group; an invariant of the steps therefore holds of every
group in every state a run reaches, dissolved groups included. -/

namespace Ghostlink.Groups
open Collections Text Checks List Option Dict Group.Step

namespace Group

def IsNew (g : Group) : Prop :=
  ∃ session name key handle display suite wall,
    g = GroupAuthority.newGroup g.groupId g.ownerFingerprint session name key handle display suite
      wall

inductive Lived (P : Primitives) : List CommittedOp → Group → Prop
  | new {g : Group} (h : g.IsNew) : Lived P [] g
  | step {log : List CommittedOp} {g g' : Group} {l : Label} (past : Lived P log g)
      (h : Step P g l g') : Lived P (log ++ l.commits) g'

variable {P : Primitives} {g g' : Group}

lemma Lived.quiet {log} (past : Lived P log g) (h : Quiet P g g') : Lived P log g' := by
  induction h with
  | refl => exact past
  | tail _ hstep ih => simpa [Label.commits] using ih.step hstep

lemma Quiet.groupId (h : Quiet P g g') : g'.groupId = g.groupId := by
  induction h with
  | refl => rfl
  | tail _ hstep ih => exact hstep.identity.1.trans ih

end Group

namespace GroupAuthority
variable {P : Primitives}

structure Keyed (a : GroupAuthority) : Prop where
  live : ∀ gid g, a.groups.get? gid = some g → g.groupId = gid
  gone : ∀ gid g, a.dissolved.get? gid = some g → g.groupId = gid
  apart : ∀ gid, a.groups.get? gid ≠ none → a.dissolved.get? gid = none

def bury (a : GroupAuthority) (g : Group) : GroupAuthority :=
  { a with groups := a.groups.erase g.groupId, dissolved := a.dissolved.set g.groupId g }

def Fresh (a : GroupAuthority) (g : Group) : Prop :=
  a.groups.get? g.groupId = none ∧ a.dissolved.get? g.groupId = none ∧ g.IsNew

def Admits (P : Primitives) (a : GroupAuthority) (call : Call) (g : Group) (f : Fingerprint) :
    Prop :=
  match call with
  | .attest session groupId key sig nonce handle _ _ =>
    a.require groupId = .ok g ∧ attestedIdentity P groupId key sig nonce handle = .ok f ∧
      ¬ g.Active f ∧ g.admissionCheck f session (a.dissolved.contains g.groupId) = .ok ()
  | _ => False

def SubmitsTo (a : GroupAuthority) (call : Call) (g : Group) : Prop :=
  match call with
  | .submitSignature groupId _ _ _ => a.require groupId = .ok g
  | _ => False

inductive Change (P : Primitives) (a : GroupAuthority) (call : Call) :
    GroupAuthority → Option CommittedOp → Prop
  | idle : Change P a call a none
  | created (g : Group) (h : a.Fresh g) : Change P a call (a.put g) none
  | moved {gid : GroupId} {g g' : Group} (live : a.groups.get? gid = some g)
      (h : Group.Quiet P g g') : Change P a call (a.put g') none
  | seated {gid : GroupId} {g g' : Group} {f : Fingerprint} (live : a.groups.get? gid = some g)
      (admits : a.Admits P call g f) (h : Group.Step P g (.seated f) g') :
      Change P a call (a.put g') none
  | settled {gid : GroupId} {g : Group} {op : Op} {signer : Member} {signature : Bytes}
      (clock : Clock) (live : a.groups.get? gid = some g) (submits : a.SubmitsTo call g)
      (h : Group.Settles P g op signer signature) (kind : op.kind ≠ .dissolved) :
      Change P a call (a.put (g.settled op signature clock))
        (some (g.settledReply op signature clock))
  | buried {gid : GroupId} {g : Group} {op : Op} {signer : Member} {signature : Bytes}
      (clock : Clock) (live : a.groups.get? gid = some g) (submits : a.SubmitsTo call g)
      (h : Group.Settles P g op signer signature) (kind : op.kind = .dissolved) :
      Change P a call (a.bury (g.settled op signature clock))
        (some (g.settledReply op signature clock))
  | swept (f : Group → Group) (h : ∀ g, Group.Quiet P g (f g)) (keep : GroupId → Group → Bool) :
      Change P a call { a with groups := a.groups.mapVals fun _ g => f g,
                               dissolved := a.dissolved.filter keep } none

variable {g : Group}

lemma require_ok {a : GroupAuthority} {groupId} (h : a.require groupId = .ok g) :
    ∃ gid : GroupId, gid.val = groupId ∧ a.groups.get? gid = some g := by
  unfold require at h
  split at h
  · cases h
  · rename_i gid hgid
    split at h
    · rename_i g' hg
      cases h
      exact ⟨gid, GroupId.ofString?_eq_some hgid, hg⟩
    · split_ifs at h

lemma find?_some {a : GroupAuthority} {groupId} (h : a.find? groupId = some g) :
    ∃ gid : GroupId, gid.val = groupId ∧ a.groups.get? gid = some g := by
  obtain ⟨gid, hgid, hg⟩ := bind_eq_some_iff.mp h
  exact ⟨gid, GroupId.ofString?_eq_some hgid, hg⟩

lemma change_onGroup {α : Type} {a : GroupAuthority} {call groupId}
    {f : Group → Group × Except GroupError α}
    (h : ∀ g, a.require groupId = .ok g → Group.Quiet P g (f g).1 ∨
      ∃ fp, a.Admits P call g fp ∧ Group.Step P g (.seated fp) (f g).1) :
    Change P a call (a.onGroup groupId f).1 none := by
  unfold onGroup
  cases hr : a.require groupId with
  | error => exact .idle
  | ok g =>
    obtain ⟨gid, _, live⟩ := require_ok hr
    obtain hq | ⟨fp, admits, hs⟩ := h g hr
    · exact .moved live hq
    · exact .seated live admits hs

lemma mintUniqueId_ok {a : GroupAuthority} {drawn gid} (h : a.mintUniqueId drawn = .ok gid) :
    a.groups.get? gid = none ∧ a.dissolved.get? gid = none := by
  unfold mintUniqueId at h
  split at h
  · rename_i gid' hf
    cases h
    simpa [Dict.contains] using List.find?_some hf
  · cases h

lemma createCheck_ok {a : GroupAuthority} {name key pop nonce handle suite clean drawn f gid}
    (h : a.createCheck P name key pop nonce handle suite drawn = .ok (clean, f, gid)) :
    a.mintUniqueId drawn = .ok gid := by
  simp only [createCheck, bind_eq_ok, refuse_eq_ok, pure_eq_ok, Prod.mk.injEq] at h
  obtain ⟨_, _, _, _, _, _, _, _, _, hmint, _, _, rfl⟩ := h
  exact hmint

lemma change_createGroup (a : GroupAuthority)
    (call session name key pop nonce handle display suite drawn wall) :
    Change P a call (a.createGroup P session name key pop nonce handle display suite drawn wall).1
      none := by
  unfold createGroup
  split
  · exact .idle
  · rename_i clean f gid hc
    obtain ⟨live, gone⟩ := mintUniqueId_ok (createCheck_ok hc)
    exact .created _ ⟨live, gone, session, clean, key, handle, display, suite, wall, rfl⟩

lemma change_submitSignature (a : GroupAuthority) (groupId session opId sig clock) :
    Change P a (.submitSignature groupId session opId sig)
      (a.submitSignature P groupId session opId sig clock).1
      (a.submitSignature P groupId session opId sig clock).2.toOption := by
  unfold submitSignature
  cases hr : a.require groupId with
  | error => exact .idle
  | ok g =>
    obtain ⟨gid, _, live⟩ := require_ok hr
    obtain ⟨op, signer, signature, h, heq⟩ | ⟨g', e, h, heq⟩ :=
      g.submitSignature_cases (P := P) session opId sig clock
    · simp only [heq]
      split_ifs with hk
      · exact .buried clock live hr h hk
      · exact .settled clock live hr h hk
    · simp only [heq]
      exact .moved live h

lemma change_exec (a : GroupAuthority) (clock call) :
    Change P a call (a.exec P clock call).1 (a.exec P clock call).2 := by
  cases call with
  | createGroup session name key pop nonce handle display suite drawn =>
    simp only [exec]
    exact a.change_createGroup _ session name key pop nonce handle display suite drawn clock.wall
  | beginJoinRedemption groupId session inviteId =>
    simp only [exec, beginJoinRedemption]
    exact change_onGroup fun g _ => .inl <| g.quiet_beginJoinRedemption session inviteId clock.mono
  | cancelPendingJoin groupId session =>
    simp only [exec, cancelPendingJoin]
    cases hf : a.find? groupId with
    | none => exact .idle
    | some g =>
      obtain ⟨gid, _, live⟩ := find?_some hf
      exact .moved live (g.quiet_cancelPendingJoin session)
  | attest session groupId key sig nonce handle display opId =>
    simp only [exec, attest]
    refine change_onGroup fun g hr => ?_
    cases hid : attestedIdentity P groupId key sig nonce handle with
    | error => exact .inl (Group.Quiet.refl P g)
    | ok f =>
      obtain hq | ⟨⟨notActive, hc⟩, hs⟩ := g.attestAs_cases f session key handle display
        (a.dissolved.contains g.groupId) opId clock.mono
      · exact .inl hq
      · exact .inr ⟨f, ⟨hr, hid, notActive, hc⟩, hs⟩
  | requestLeave groupId session opId =>
    simp only [exec, requestLeave]
    exact change_onGroup fun g _ => .inl <| g.quiet_requestLeave session opId clock.mono
  | requestRemove groupId session subject opId =>
    simp only [exec, requestRemove]
    exact change_onGroup fun g _ => .inl <| g.quiet_requestRemove session subject opId clock.mono
  | requestDissolve groupId session opId =>
    simp only [exec, requestDissolve]
    exact change_onGroup fun g _ => .inl <| g.quiet_requestDissolve session opId clock.mono
  | nextSignTask groupId =>
    simp only [exec, nextSignTask]
    cases hf : a.find? groupId with
    | none => exact .idle
    | some g =>
      obtain ⟨gid, _, live⟩ := find?_some hf
      exact .moved live (g.quiet_promote clock)
  | submitSignature groupId session opId sig =>
    simp only [exec]
    exact a.change_submitSignature groupId session opId sig clock
  | sweep =>
    simp only [exec, sweep]
    exact .swept _ (fun g => g.quiet_sweep a.joinPending a.signTimeout clock.mono) _
  | disbindSession session =>
    simp only [exec, disbindSession]
    have hall : a.dissolved.filter (fun _ _ => true) = a.dissolved := by
      simp [Dict.filter]
    have hs : Change P a (.disbindSession session) _ none :=
      .swept (fun g => g.disbindSession session)
        (fun g => Group.quiet_disbindSession g session) (fun _ _ => true)
    rwa [hall] at hs

structure Settled (P : Primitives) (a : GroupAuthority) (call : Call) (g g' : Group) (op : Op)
    (c : Option CommittedOp) : Prop where
  submits : a.SubmitsTo call g
  commits : ∃ signer signature clock, Group.Settles P g op signer signature ∧
    g' = g.settled op signature clock ∧ c = some (g.settledReply op signature clock)

inductive Origin (P : Primitives) (a : GroupAuthority) (call : Call) (c : Option CommittedOp)
    (gid : GroupId) (g' : Group) : Prop
  | fresh (h : a.Fresh g') (filed : g'.groupId = gid) (silent : c = none)
  | quiet {g : Group} (live : a.groups.get? gid = some g) (h : Group.Quiet P g g')
      (elsewhere : ∀ d ∈ c, d.event.groupId ≠ gid)
  | seated {g : Group} {f : Fingerprint} (live : a.groups.get? gid = some g)
      (admits : a.Admits P call g f) (h : Group.Step P g (.seated f) g') (silent : c = none)
  | settled {g : Group} {op : Op} (live : a.groups.get? gid = some g) (kind : op.kind ≠ .dissolved)
      (h : Settled P a call g g' op c)

variable {a a' : GroupAuthority} {call : Call} {c : Option CommittedOp} {gid : GroupId} {g' : Group}

lemma Change.live_origin (h : Change P a call a' c) (hk : a.Keyed)
    (hg : a'.groups.get? gid = some g') : Origin P a call c gid g' := by
  have kept (hg : a.groups.get? gid = some g') (hc : ∀ d ∈ c, d.event.groupId ≠ gid) :
      Origin P a call c gid g' := .quiet hg (Group.Quiet.refl P g') hc
  cases h with
  | idle => exact kept hg (by simp)
  | created g h =>
    rcases get?_of_set hg with ⟨rfl, rfl⟩ | ⟨-, hg⟩
    · exact .fresh h rfl rfl
    · exact kept hg (by simp)
  | moved live h =>
    rw [put, get?_set, h.groupId, hk.live _ _ live] at hg
    split_ifs at hg with heq
    · cases hg
      exact .quiet (heq ▸ live) h (by simp)
    · exact kept hg (by simp)
  | seated live admits h =>
    rw [put, get?_set, h.identity.1, hk.live _ _ live] at hg
    split_ifs at hg with heq
    · cases hg
      exact .seated (heq ▸ live) admits h rfl
    · exact kept hg (by simp)
  | @settled gid₀ g op signer signature clock live submits h kind =>
    have hid := hk.live _ _ live
    rw [put, get?_set, (settle clock h).identity.1, hid] at hg
    split_ifs at hg with heq
    · cases hg
      exact .settled (heq ▸ live) kind ⟨submits, signer, signature, clock, h, rfl, rfl⟩
    · refine kept hg ?_
      rintro d ⟨⟩ rfl
      exact heq hid
  | @buried gid₀ g op signer signature clock live submits h kind =>
    have hid := hk.live _ _ live
    rw [bury, get?_erase, (settle clock h).identity.1,
      hid] at hg
    split_ifs at hg with heq
    refine kept hg ?_
    rintro d ⟨⟩ rfl
    exact heq hid
  | swept f h =>
    rw [get?_mapVals, map_eq_some_iff] at hg
    obtain ⟨g, hg, rfl⟩ := hg
    exact .quiet hg (h g) (by simp)

lemma Change.gone_cases (h : Change P a call a' c) (hk : a.Keyed)
    (hg : a'.dissolved.get? gid = some g') :
    (a.dissolved.get? gid = some g' ∧ ∀ d ∈ c, d.event.groupId ≠ gid) ∨
      ∃ g op, a.groups.get? gid = some g ∧ op.kind = .dissolved ∧ Settled P a call g g' op c := by
  cases h with
  | idle | created | moved | seated => exact .inl ⟨hg, by simp⟩
  | @settled gid₀ g op signer signature clock live submits h kind =>
    refine .inl ⟨hg, ?_⟩
    rintro d ⟨⟩ rfl
    have hgone := hk.apart g.groupId (by rw [hk.live _ _ live, live]; simp)
    exact absurd (hgone.symm.trans hg) (by simp)
  | @buried gid₀ g op signer signature clock live submits h kind =>
    have hid := hk.live _ _ live
    rw [bury, get?_set, (settle clock h).identity.1,
      hid] at hg
    split_ifs at hg with heq
    · cases hg
      exact .inr ⟨g, op, heq ▸ live, kind, submits, signer, signature, clock, h, rfl, rfl⟩
    · refine .inl ⟨hg, ?_⟩
      rintro d ⟨⟩ rfl
      exact heq hid
  | swept => exact .inl ⟨((get?_filter _ _ _ _).mp hg).1, by simp⟩

lemma Settled.groupId {op} (h : Settled P a call g g' op c) : g'.groupId = g.groupId := by
  obtain ⟨_, signer, signature, clock, hs, rfl, _⟩ := h
  exact (settle clock hs).identity.1

lemma Settled.event {op : Op} (h : Settled P a call g g' op c) :
    ∃ d ∈ c, d.event.groupId = g.groupId ∧ d.event.kind = op.kind := by
  obtain ⟨_, signer, signature, clock, _, _, rfl⟩ := h
  exact ⟨_, rfl, rfl, rfl⟩

lemma Origin.groupId (hk : a.Keyed) (h : Origin P a call c gid g') : g'.groupId = gid := by
  cases h with
  | fresh _ filed => exact filed
  | quiet live h _ => exact h.groupId.trans (hk.live _ _ live)
  | seated live _ h _ => exact h.identity.1.trans (hk.live _ _ live)
  | settled live _ h => exact h.groupId.trans (hk.live _ _ live)

lemma Change.keyed (h : Change P a call a' c) (hk : a.Keyed) : a'.Keyed where
  live gid g' hg := (h.live_origin hk hg).groupId hk
  gone gid g' hg := by
    obtain ⟨hg, _⟩ | ⟨g, op, live, _, hs⟩ := h.gone_cases hk hg
    · exact hk.gone _ _ hg
    · exact hs.groupId.trans (hk.live _ _ live)
  apart gid hlive := by
    obtain ⟨g', hg'⟩ := ne_none_iff_exists'.mp hlive
    by_contra hgone
    obtain ⟨t, ht⟩ := ne_none_iff_exists'.mp hgone
    obtain ⟨ht, _⟩ | ⟨g, op, live, kind, hs⟩ := h.gone_cases hk ht
    · have absent (g : Group) (live : a.groups.get? gid = some g) : False := by
        simpa [ht] using hk.apart gid (by simp [live])
      cases h.live_origin hk hg' with
      | fresh hf filed => simpa [filed, ht] using hf.2.1
      | quiet live _ _ => exact absent _ live
      | seated live _ _ _ => exact absent _ live
      | settled live _ _ => exact absent _ live
    -- the group just dissolved: no other origin is consistent with what the call committed
    · obtain ⟨d, hd, hid, hkind⟩ := hs.event
      cases h.live_origin hk hg' with
      | fresh _ _ silent => simp [silent] at hd
      | quiet _ _ elsewhere => exact elsewhere d hd (hid.trans (hk.live _ _ live))
      | seated _ _ _ silent => simp [silent] at hd
      | settled _ kind' hs' =>
        obtain ⟨d', hd', _, hkind'⟩ := hs'.event
        cases mem_unique hd hd'
        exact kind' (hkind'.symm.trans (hkind.trans kind))

lemma Change.still_live (h : Change P a call a' c)
    (live : a.groups.get? gid = some g) (elsewhere : ∀ d ∈ c, d.event.groupId ≠ gid) :
    ∃ g', a'.groups.get? gid = some g' := by
  have putLive (g₀ : Group) : ∃ g', (a.put g₀).groups.get? gid = some g' := by
    rw [put, get?_set]
    split_ifs
    · exact ⟨g₀, rfl⟩
    · exact ⟨g, live⟩
  cases h with
  | idle => exact ⟨g, live⟩
  | created g₀ => exact putLive g₀
  | moved _ _ => exact putLive _
  | seated _ _ _ => exact putLive _
  | settled _ _ _ _ _ => exact putLive _
  | @buried gid₀ g₀ op signer signature clock live₀ submits hset kind =>
    have hne : gid ≠ (g₀.settled op signature clock).groupId := by
      rw [(settle clock hset).identity.1]
      exact fun heq => elsewhere _ rfl heq.symm
    exact ⟨g, by rw [bury, get?_erase_ne _ hne, live]⟩
  | swept f => exact ⟨f g, by rw [get?_mapVals, live, map_some]⟩

structure History where
  authority : GroupAuthority
  log : List CommittedOp

def History.exec (P : Primitives) (h : History) (clock : Clock) (call : Call) : History :=
  let (a, c) := h.authority.exec P clock call
  ⟨a, h.log ++ c.toList⟩

def History.ofGroup (h : History) (gid : GroupId) : List CommittedOp :=
  h.log.filter fun c => c.event.groupId = gid

def run (P : Primitives) (a : GroupAuthority) (calls : List (Clock × Call)) : History :=
  calls.foldl (fun h c => h.exec P c.1 c.2) ⟨a, []⟩

/-- The group is filed under its id and its own commits end the log of that id; an id
minted again after its tombstone expired has older commits before them. -/
def History.Tells (P : Primitives) (h : History) (gid : GroupId) (g : Group) : Prop :=
  g.groupId = gid ∧ ∃ past log, h.ofGroup gid = past ++ log ∧ g.Lived P log

structure History.Sound (P : Primitives) (h : History) : Prop where
  keyed : h.authority.Keyed
  live : ∀ gid g, h.authority.groups.get? gid = some g → h.Tells P gid g
  gone : ∀ gid g, h.authority.dissolved.get? gid = some g → h.Tells P gid g

variable {h : History}

lemma History.ofGroup_elsewhere (hc : ∀ d ∈ c, d.event.groupId ≠ gid) :
    History.ofGroup ⟨a', h.log ++ c.toList⟩ gid = h.ofGroup gid := by
  cases c with
  | none => simp [ofGroup]
  | some d => simp [ofGroup, hc d rfl]

lemma History.Tells.settled {h : History} {op} (ht : h.Tells P gid g)
    (hs : Settled P a call g g' op c) : Tells P ⟨a', h.log ++ c.toList⟩ gid g' := by
  obtain ⟨rfl, past, log, heq, lived⟩ := ht
  obtain ⟨_, signer, signature, clock, hsettles, rfl, rfl⟩ := hs
  have hstep := settle clock hsettles
  refine ⟨hstep.identity.1, past, log ++ [g.settledReply op signature clock], ?_, lived.step hstep⟩
  have hown : (g.settledReply op signature clock).event.groupId = g.groupId := rfl
  simp only [ofGroup, toList_some, filter_append, hown, decide_true,
    filter_cons_of_pos, filter_nil, ← append_assoc]
  exact congrArg (· ++ _) heq

lemma History.Sound.change (hs : h.Sound P)
    (hchange : Change P h.authority call a' c) : Sound P ⟨a', h.log ++ c.toList⟩ := by
  refine ⟨hchange.keyed hs.keyed, ?_, ?_⟩
  · intro gid g' hg
    cases hchange.live_origin hs.keyed hg with
    | fresh hf filed => exact ⟨filed, _, [], (append_nil _).symm, .new hf.2.2⟩
    | quiet live hq elsewhere =>
      obtain ⟨hid, past, log, heq, lived⟩ := hs.live _ _ live
      exact ⟨hq.groupId.trans hid, past, log, (ofGroup_elsewhere elsewhere).trans heq,
        lived.quiet hq⟩
    | seated live _ hstep silent =>
      obtain ⟨hid, past, log, heq, lived⟩ := hs.live _ _ live
      refine ⟨hstep.identity.1.trans hid, past, log, (ofGroup_elsewhere ?_).trans heq, ?_⟩
      · simp [silent]
      · simpa [Group.Label.commits] using lived.step hstep
    | settled live _ hsettled => exact (hs.live _ _ live).settled hsettled
  · intro gid g' hg
    obtain ⟨hg, elsewhere⟩ | ⟨g, op, live, _, hsettled⟩ := hchange.gone_cases hs.keyed hg
    · obtain ⟨hid, past, log, heq, lived⟩ := hs.gone _ _ hg
      exact ⟨hid, past, log, (ofGroup_elsewhere elsewhere).trans heq, lived⟩
    · exact (hs.live _ _ live).settled hsettled

lemma keyed_init (joinPending signTimeout retention) :
    (init joinPending signTimeout retention).Keyed where
  live _ _ h := by simp [init] at h
  gone _ _ h := by simp [init] at h
  apart _ _ := rfl

lemma sound_run (P joinPending signTimeout retention) (calls : List (Clock × Call)) :
    (run P (init joinPending signTimeout retention) calls).Sound P := by
  apply List.foldlRecOn (motive := fun h => History.Sound P h)
  · exact ⟨keyed_init _ _ _, fun _ _ h => by simp [init] at h, fun _ _ h => by simp [init] at h⟩
  · intro h hs c _
    exact hs.change (h.authority.change_exec c.1 c.2)

end GroupAuthority
end Ghostlink.Groups
