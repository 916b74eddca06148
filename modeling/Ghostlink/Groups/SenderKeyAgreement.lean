import Ghostlink.Base.Checks
import Ghostlink.Groups.SenderKeys

/-! A sender seals position `n` of its chain under one key, whatever position the chain began
at, and a recipient that was given the root resolves `n` to that key, once. Both chains are
compared with the ratchet itself: `chainAfter` and `messageKey` know nothing of start indexes,
distributions or caches. -/

namespace Ghostlink.Groups
open Collections List Dict ReceiverChain Checks Nat

section Positions
variable (S : SenderKeyPrimitives) (x : ChainContext) (root : SecretKey)

def chainAfter (n : ℕ) : SecretKey := Ratchet.after (advanceChain S x) root n

def messageKey (n : ℕ) : SecretKey :=
  Ratchet.keyAt (advanceChain S x) (deriveMessageKey S x) root n

lemma chainAfter_succ (n) :
    chainAfter S x root (n + 1) = advanceChain S x (n + 1) (chainAfter S x root n) := rfl

lemma messageKey_succ (n) :
    messageKey S x root (n + 1) = deriveMessageKey S x (n + 1) (chainAfter S x root n) := rfl

end Positions

lemma requireIndex_eq_ok {index u} : requireIndex index = .ok u ↔ 1 ≤ index := by
  rw [requireIndex, throw_if_eq_ok, not_lt]

structure SealCall where
  index : ℕ
  nonce : Nonce
  plaintext : Bytes
  aad : Bytes

namespace OutgoingChain
variable {S : SenderKeyPrimitives} {x : ChainContext} {root : SecretKey} {o : OutgoingChain}

def exec (S : SenderKeyPrimitives) (x : ChainContext) (o : OutgoingChain) (call : SealCall) :
    OutgoingChain :=
  match o.sealAt S x.groupId x.epoch x.sender call.index call.nonce call.plaintext call.aad with
  | .ok (_, o') => o'
  | .error _ => o

structure Follows (S : SenderKeyPrimitives) (x : ChainContext) (root : SecretKey)
    (o : OutgoingChain) : Prop where
  gen : o.gen = x.gen
  position : 1 ≤ o.nextIndex
  chain : o.chain = chainAfter S x root (o.nextIndex - 1)

lemma follows_make (start) : Follows S x root (make S x root start) where
  gen := rfl
  position := by
    show 1 ≤ if start ≥ 1 then start else 1
    split_ifs with h
    · exact h
    · exact le_refl 1
  chain := Ratchet.foldl_range' (advanceChain S x) root _

variable {index : ℕ}

lemma sealAt_eq_ok {groupId sender epoch nonce plaintext aad sealed o'} :
    o.sealAt S groupId epoch sender index nonce plaintext aad = .ok (sealed, o') ↔
      1 ≤ index ∧ index = o.nextIndex ∧
      let y : ChainContext := { groupId, epoch, sender, gen := o.gen }
      sealMessage S (deriveMessageKey S y index o.chain) nonce plaintext aad = sealed ∧
      { o with chain := advanceChain S y index o.chain, nextIndex := index + 1 } = o' := by
  simp only [sealAt, bind_eq_ok, requireIndex_eq_ok, exists_const, refuse_eq_ok,
    ne_eq, not_not, pure_eq_ok, Prod.mk.injEq]

lemma sealAt_nextIndex (S) (o : OutgoingChain) (groupId sender epoch nonce plaintext aad)
    (positive : 1 ≤ index)
    (next : o.nextIndex = index) :
    ∃ sealed o', o.sealAt S groupId epoch sender index nonce plaintext aad = .ok (sealed, o') ∧
      o'.nextIndex = index + 1 :=
  ⟨_, _, sealAt_eq_ok.mpr ⟨positive, next.symm, rfl, rfl⟩, rfl⟩

lemma Follows.seals (h : Follows S x root o) (nonce plaintext aad) :
    ∃ o', o.sealAt S x.groupId x.epoch x.sender o.nextIndex nonce plaintext aad =
        .ok (sealMessage S (messageKey S x root o.nextIndex) nonce plaintext aad, o') ∧
      Follows S x root o' := by
  have hx : ({ groupId := x.groupId, epoch := x.epoch, sender := x.sender, gen := o.gen } :
      ChainContext) = x := by rw [h.gen]
  refine ⟨_, sealAt_eq_ok.mpr ⟨h.position, rfl, ?_, rfl⟩, ?_⟩
  · rw [hx, h.chain]
    rfl
  · refine ⟨h.gen, le_add_left 1 o.nextIndex, ?_⟩
    obtain ⟨n, hn⟩ : ∃ n, o.nextIndex = n + 1 := ⟨o.nextIndex - 1, by have := h.position; omega⟩
    rw [hx, h.chain, hn]
    rfl

lemma Follows.exec (h : Follows S x root o) (call) : Follows S x root (exec S x o call) := by
  unfold OutgoingChain.exec
  split
  · rename_i sealed o' hs
    have position := (sealAt_eq_ok.mp hs).2.1
    obtain ⟨o'', hs', next⟩ := h.seals call.nonce call.plaintext call.aad
    rw [position, hs'] at hs
    cases hs
    exact next
  · exact h

lemma follows_run (start) (calls : List SealCall) :
    Follows S x root (calls.foldl (OutgoingChain.exec S x) (make S x root start)) := by
  induction calls using List.reverseRecOn with
  | nil => exact follows_make start
  | append_singleton calls call ih =>
    rw [foldl_append]
    exact ih.exec call

end OutgoingChain

namespace ReceiverChain
variable {S : SenderKeyPrimitives} {x : ChainContext} {root : SecretKey}
variable {used : ℕ → Prop} {r r' : ReceiverChain}

/-- The cached keys are keys of positions up to `n` that are still unused, at most 64 of them. -/
structure Window (S : SenderKeyPrimitives) (x : ChainContext) (root : SecretKey)
    (used : ℕ → Prop) (n : ℕ) (skipped : Dict ℕ SecretKey) : Prop where
  size_le : skipped.size ≤ groupSkSkippedMax
  entry : ∀ k key, (k, key) ∈ skipped.entries → k ≤ n ∧ key = messageKey S x root k ∧ ¬ used k

lemma Window.cacheSkipped {n skipped}
    (h : Window S x root used n skipped) (unused : ¬ used (n + 1)) : Window S x root used (n + 1)
      (cacheSkipped skipped (n + 1) (messageKey S x root (n + 1))) := by
  unfold ReceiverChain.cacheSkipped
  split_ifs
  · refine ⟨(size_moveToEnd_le _ _).trans h.size_le, ?_⟩
    intro k key mem
    have old := h.entry k key ((mem_moveToEnd _ _ _).mp mem)
    exact ⟨le_succ_of_le old.1, old.2⟩
  · refine ⟨size_dropOldest_le _ _, ?_⟩
    intro k key mem
    have mem := (mem_set _ _ _ _ _).mp (mem_of_mem_dropOldest mem)
    split_ifs at mem with hk
    · exact ⟨le_of_eq hk, by rw [mem, hk], hk ▸ unused⟩
    · have old := h.entry k key mem
      exact ⟨le_succ_of_le old.1, old.2⟩

lemma skipThrough_range' {m skipped} (count : ℕ)
    (h : Window S x root used m skipped) (unused : ∀ k, used k → k ≤ m) :
    let walked :=
      skipThrough S x (List.range' (m + 1) count) (chainAfter S x root m) skipped
    walked.1 = chainAfter S x root (m + count) ∧
      Window S x root used (m + count) walked.2 := by
  have keep : ∀ n skipped, m ≤ n ∧ Window S x root used n skipped →
      m ≤ n + 1 ∧ Window S x root used (n + 1)
        (cacheSkipped skipped (n + 1) (messageKey S x root (n + 1))) := by
    rintro n skipped ⟨hm, hn⟩
    have unused : ¬ used (n + 1) := fun hu => not_succ_le_self n ((unused _ hu).trans hm)
    exact ⟨le_succ_of_le hm, hn.cacheSkipped unused⟩
  have walked := Ratchet.walk_range' (advanceChain S x)
    (fun k chain skipped => cacheSkipped skipped k (deriveMessageKey S x k chain))
    root _ keep count m skipped ⟨le_refl m, h⟩
  exact ⟨walked.1, walked.2.2⟩

variable {index : ℕ}

lemma install_cases (fresh : r.chain = none → r.lastSeen = 0)
    (h : r.install S root index = .ok r') : (r' = r ∧ r.chain.isSome) ∨ r.lastSeen < index ∧
      let walked := skipThrough S r.context
        (List.range' (r.lastSeen + 1) (index - r.lastSeen)) (r.chain.getD root) r.skipped
      r' = { r with lastSeen := index, chain := some walked.1, skipped := walked.2 } := by
  rw [install, bind_eq_ok] at h
  obtain ⟨_, positive, h⟩ := h
  rw [requireIndex_eq_ok] at positive
  cases hc : r.chain with
  | none =>
    rw [hc] at h
    have zero := fresh hc
    rw [zero]
    exact .inr ⟨positive, (pure_eq_ok.mp h).symm⟩
  | some =>
    rw [hc] at h
    split_ifs at h with behind
    · exact .inl ⟨(pure_eq_ok.mp h).symm, rfl⟩
    · exact .inr ⟨Nat.lt_of_not_le behind, (pure_eq_ok.mp h).symm⟩

lemma messageKeyFor_cases {key late} (h : r.messageKeyFor S index = .ok ((key, late), r')) :
    ∃ own, r.chain = some own ∧
      ((r.skipped.get? index = some key ∧ r' = { r with skipped := r.skipped.erase index }) ∨
        (r.lastSeen < index ∧
          let walked := skipThrough S r.context
            (List.range' (r.lastSeen + 1) (index - r.lastSeen - 1)) own r.skipped
          key = deriveMessageKey S r.context index walked.1 ∧
          r' = { r with lastSeen := index,
                        chain := some (advanceChain S r.context index walked.1),
                        skipped := walked.2 })) := by
  rw [messageKeyFor, bind_eq_ok] at h
  obtain ⟨_, -, h⟩ := h
  cases hc : r.chain with
  | none =>
    rw [hc] at h
    exact absurd h throw_ne_ok
  | some own =>
    refine ⟨own, rfl, ?_⟩
    rw [hc] at h
    cases hs : r.skipped.get? index with
    | some =>
      rw [hs] at h
      cases pure_eq_ok.mp h
      exact .inl ⟨rfl, rfl⟩
    | none =>
      rw [hs] at h
      simp only [refuse_eq_ok] at h
      obtain ⟨ahead, -, h⟩ := h
      cases pure_eq_ok.mp h
      exact .inr ⟨Nat.lt_of_not_le ahead, rfl, rfl⟩

lemma messageKeyFor_ahead (installed : r.chain.isSome)
    (absent : r.skipped.get? index = none) (ahead : r.lastSeen < index)
    (near : index ≤ r.lastSeen + 65) :
    ∃ key r', r.messageKeyFor S index = .ok ((key, false), r') := by
  obtain ⟨own, hc⟩ := Option.isSome_iff_exists.mp installed
  have positive : requireIndex index = .ok () :=
    requireIndex_eq_ok.mpr (lt_of_le_of_lt (zero_le _) ahead)
  have gap : ¬ index - r.lastSeen - 1 > groupSkSkippedMax := by
    show ¬ index - r.lastSeen - 1 > 64
    omega
  have unseen : ¬ index ≤ r.lastSeen := Nat.not_le_of_lt ahead
  simp only [messageKeyFor, positive, hc, absent, unseen, gap, if_false]
  exact ⟨_, _, rfl⟩

end ReceiverChain

inductive ReceiverCall
  | install (index : ℕ)
  | messageKeyFor (index : ℕ)
  deriving DecidableEq

structure Reception where
  chain : ReceiverChain
  returned : List (ℕ × SecretKey)

namespace Reception
variable {S : SenderKeyPrimitives} {x : ChainContext} {root : SecretKey} {s : Reception}

def exec (S : SenderKeyPrimitives) (root : SecretKey) (s : Reception) : ReceiverCall → Reception
  | .install index =>
    match s.chain.install S root index with
    | .ok r => { s with chain := r }
    | .error _ => s
  | .messageKeyFor index =>
    match s.chain.messageKeyFor S index with
    | .ok ((key, _), r) => { chain := r, returned := s.returned ++ [(index, key)] }
    | .error _ => s

def run (S : SenderKeyPrimitives) (x : ChainContext) (root : SecretKey)
    (calls : List ReceiverCall) : Reception :=
  calls.foldl (exec S root) { chain := make x, returned := [] }

def Used (s : Reception) (n : ℕ) : Prop := n ∈ s.returned.map Prod.fst

structure Faithful (S : SenderKeyPrimitives) (x : ChainContext) (root : SecretKey)
    (s : Reception) : Prop where
  context : s.chain.context = x
  fresh : s.chain.chain = none → s.chain.lastSeen = 0
  chain : s.chain.chain.getD root = chainAfter S x root s.chain.lastSeen
  window : ReceiverChain.Window S x root s.Used s.chain.lastSeen s.chain.skipped
  keys : ∀ n key, (n, key) ∈ s.returned → key = messageKey S x root n
  seen : ∀ n, s.Used n → n ≤ s.chain.lastSeen
  once : (s.returned.map Prod.fst).Nodup

lemma faithful_start : Faithful S x root { chain := make x, returned := [] } where
  context := rfl
  fresh := fun _ => rfl
  chain := rfl
  window := ⟨zero_le _, fun _ _ mem => absurd mem not_mem_nil⟩
  keys := fun _ _ mem => absurd mem not_mem_nil
  seen := fun _ mem => absurd mem not_mem_nil
  once := nodup_nil

lemma Faithful.skipped (h : Faithful S x root s) (count : ℕ) :
    let walked := skipThrough S s.chain.context
      (List.range' (s.chain.lastSeen + 1) count) (s.chain.chain.getD root) s.chain.skipped
    walked.1 = chainAfter S x root (s.chain.lastSeen + count) ∧
      ReceiverChain.Window S x root s.Used (s.chain.lastSeen + count) walked.2 := by
  rw [h.context, h.chain]
  exact skipThrough_range' count h.window h.seen

variable {index : ℕ}

variable {r : ReceiverChain}

section
variable (h : Faithful S x root s)
include h

lemma Faithful.install
    (hr : s.chain.install S root index = .ok r) : Faithful S x root { s with chain := r } := by
  rcases install_cases h.fresh hr with ⟨rfl, -⟩ | ⟨ahead, rfl⟩
  · exact h
  · have walked := h.skipped (index - s.chain.lastSeen)
    rw [Nat.add_sub_cancel' ahead.le] at walked
    exact { context := h.context
            fresh := fun none => nomatch none
            chain := walked.1
            window := walked.2
            keys := h.keys
            seen := fun n used => (h.seen n used).trans ahead.le
            once := h.once }

lemma Faithful.hand
    (unused : ¬ s.Used index) (context : r.context = x) (fresh : r.chain = none → r.lastSeen = 0)
    (chain : r.chain.getD root = chainAfter S x root r.lastSeen)
    (size : r.skipped.size ≤ groupSkSkippedMax) (entry : ∀ k key, (k, key) ∈ r.skipped.entries →
      k ≤ r.lastSeen ∧ key = messageKey S x root k ∧ ¬ s.Used k ∧ k ≠ index)
    (seen : index ≤ r.lastSeen) (grows : s.chain.lastSeen ≤ r.lastSeen) : Faithful S x root
      { chain := r, returned := s.returned ++ [(index, messageKey S x root index)] } := by
  have used : ∀ n, Used ⟨r, s.returned ++ [(index, messageKey S x root index)]⟩ n ↔
      s.Used n ∨ n = index := by
    intro n
    simp [Used]
  refine ⟨context, fresh, chain, ⟨size, ?_⟩, ?_, ?_, ?_⟩
  · intro k key mem
    obtain ⟨le, hkey, notUsed, ne⟩ := entry k key mem
    exact ⟨le, hkey, fun hu => ((used k).mp hu).elim notUsed ne⟩
  · intro n key mem
    rcases mem_append.mp mem with old | new
    · exact h.keys n key old
    · obtain ⟨rfl, rfl⟩ := Prod.mk.inj (mem_singleton.mp new)
      rfl
  · intro n hu
    rcases (used n).mp hu with old | rfl
    · exact (h.seen n old).trans grows
    · exact seen
  · rw [map_append]
    exact h.once.append (nodup_singleton index) (by simpa [Used] using unused)

lemma Faithful.messageKeyFor {key late}
    (hr : s.chain.messageKeyFor S index = .ok ((key, late), r)) :
    Faithful S x root { chain := r, returned := s.returned ++ [(index, key)] } := by
  obtain ⟨own, hc, ⟨cached, rfl⟩ | ⟨ahead, rfl, rfl⟩⟩ := messageKeyFor_cases hr
  · -- a cached key leaves the cache with its one use
    obtain ⟨le, rfl, unused⟩ :=
      h.window.entry index key ((get?_eq_some_iff _ _ _).mp cached)
    refine h.hand unused h.context h.fresh h.chain
      ((size_erase_le _ _).trans h.window.size_le) ?_ le (le_refl _)
    intro k key mem
    have mem := (mem_filter _ _ _ _).mp mem
    have old := h.window.entry k key mem.1
    exact ⟨old.1, old.2.1, old.2.2, by simpa using mem.2⟩
  · -- a new position is past everything cached or used
    have own_eq : s.chain.chain.getD root = own := by rw [hc, Option.getD_some]
    have walked := h.skipped (index - s.chain.lastSeen - 1)
    obtain ⟨n, rfl⟩ : ∃ n, index = n + 1 := ⟨index - 1, (succ_pred_eq_of_pos
      (zero_lt_of_lt ahead)).symm⟩
    have reach : s.chain.lastSeen + (n + 1 - s.chain.lastSeen - 1) = n := by omega
    rw [own_eq, reach, h.context] at walked
    rw [h.context, walked.1, ← messageKey_succ, ← chainAfter_succ]
    refine h.hand (fun used => Nat.not_le_of_lt ahead (h.seen _ used)) h.context
      (fun none => nomatch none) rfl walked.2.size_le ?_ (le_refl _) ahead.le
    intro k key mem
    have old := walked.2.entry k key mem
    exact ⟨Nat.le_succ_of_le old.1, old.2.1, old.2.2, Nat.ne_of_lt (Nat.lt_succ_of_le old.1)⟩

lemma Faithful.exec (call) :
    Faithful S x root (s.exec S root call) := by
  cases call with
  | install =>
    simp only [Reception.exec]
    split
    · exact h.install (by assumption)
    · exact h
  | messageKeyFor =>
    simp only [Reception.exec]
    split
    · exact h.messageKeyFor (by assumption)
    · exact h

end

lemma faithful_run (calls) : Faithful S x root (run S x root calls) := by
  induction calls using List.reverseRecOn with
  | nil => exact faithful_start
  | append_singleton calls call ih =>
    rw [run, foldl_append]
    exact ih.exec call

/-! Only an installed chain resolves anything, and it stays installed. -/

theorem installed_exec (installed : s.chain.chain.isSome) (call) :
    (s.exec S root call).chain.chain.isSome := by
  have notFresh : s.chain.chain = none → s.chain.lastSeen = 0 :=
    fun none => by simp [none] at installed
  cases call with
  | install index =>
    simp only [Reception.exec]
    split
    · rename_i r hr
      rcases install_cases notFresh hr with ⟨rfl, -⟩ | ⟨-, rfl⟩
      · exact installed
      · rfl
    · exact installed
  | messageKeyFor index =>
    simp only [Reception.exec]
    split
    · rename_i key late r hr
      obtain ⟨own, hc, ⟨-, rfl⟩ | ⟨-, -, rfl⟩⟩ := messageKeyFor_cases hr
      · exact installed
      · rfl
    · exact installed

lemma installs (positive : 1 ≤ index) :
    (s.exec S root (.install index)).chain.chain.isSome := by
  have checked : requireIndex index = .ok () := requireIndex_eq_ok.mpr positive
  cases hc : s.chain.chain with
  | some => exact installed_exec (by rw [hc]; rfl) _
  | none =>
    simp only [Reception.exec, install, checked, hc]
    rfl

lemma installed_run {calls} (positive : 1 ≤ index)
    (mem : .install index ∈ calls) : (run S x root calls).chain.chain.isSome := by
  induction calls using List.reverseRecOn with
  | nil => simp at mem
  | append_singleton calls call ih =>
    rw [run, foldl_append]
    rcases mem_append.mp mem with before | last
    · exact installed_exec (ih before) call
    · rw [← mem_singleton.mp last]
      exact installs positive

/-- Whatever the order of distributions and lookups, a recipient hands out the key its sender
seals under, each index once, from a bounded cache of positions already passed; and once a
distribution has been installed it resolves every index up to 65 past the last one seen. -/
theorem sender_key_agreement (S : SenderKeyPrimitives) (x : ChainContext) (root : SecretKey)
    (calls : List ReceiverCall) :
    let s := run S x root calls
    (∀ n key, (n, key) ∈ s.returned →
      key = deriveMessageKey S x n
        ((List.range' 1 (n - 1)).foldl (fun c k => advanceChain S x k c) root) ∧
      ∀ (start : ℕ) (seals : List SealCall),
        let o := seals.foldl (OutgoingChain.exec S x) (OutgoingChain.make S x root start)
        o.nextIndex = n → ∀ nonce plaintext aad, ∃ o',
          o.sealAt S x.groupId x.epoch x.sender n nonce plaintext aad =
            .ok (sealMessage S key nonce plaintext aad, o')) ∧
    (s.returned.map Prod.fst).Nodup ∧
    s.chain.skipped.size ≤ 64 ∧
    (∀ k ∈ s.chain.skipped.keys, k ≤ s.chain.lastSeen) ∧
    ((∃ i, 1 ≤ i ∧ .install i ∈ calls) →
      ∀ n, s.chain.lastSeen + 1 ≤ n → n ≤ s.chain.lastSeen + 65 →
        n ∉ s.returned.map Prod.fst →
        ∃ key r, s.chain.messageKeyFor S n = .ok ((key, false), r)) := by
  intro s
  have h : Faithful S x root s := faithful_run calls
  have entries : ∀ k, k ∈ s.chain.skipped.keys → k ≤ s.chain.lastSeen := by
    intro k mem
    obtain ⟨⟨k, key⟩, cached, rfl⟩ := mem_map.mp mem
    exact (h.window.entry k key cached).1
  refine ⟨?_, h.once, h.window.size_le, entries, ?_⟩
  · intro n key mem
    have hkey := h.keys n key mem
    refine ⟨?_, ?_⟩
    · rwa [Ratchet.foldl_range']
    · intro start seals o at_n nonce plaintext aad
      obtain ⟨o', sealed, -⟩ :=
        (OutgoingChain.follows_run start seals : OutgoingChain.Follows S x root o).seals
          nonce plaintext aad
      rw [at_n, ← hkey] at sealed
      exact ⟨o', sealed⟩
  · rintro ⟨i, positive, mem⟩ n ahead near -
    have absent : s.chain.skipped.get? n = none :=
      (get?_eq_none_iff _ _).mpr fun cached => Nat.not_le_of_lt ahead (entries n cached)
    exact messageKeyFor_ahead (installed_run positive mem) absent ahead near

def plainSenderKeys : SenderKeyPrimitives where
  hkdf := fun seed info => seed.map (· + UInt8.ofNat info.length)
  encrypt := fun key _ plaintext aad => key.toList ++ plaintext ++ aad

def plainContext : ChainContext :=
  { groupId := "gl-group-AAAA-BBBB-CCCC", epoch := 3, sender := "GLFP-ALICE", gen := 1 }

def plainRoot : SecretKey := Vector.replicate 32 7

/-- Before the first distribution nothing resolves, not even index 1. -/
theorem fresh_chain_resolves_nothing :
    let s := run plainSenderKeys plainContext plainRoot []
    s.chain.lastSeen = 0 ∧ 1 ∉ s.returned.map Prod.fst ∧
      ¬ ∃ resolved, s.chain.messageKeyFor plainSenderKeys 1 = .ok resolved := by
  refine ⟨rfl, not_mem_nil, ?_⟩
  rintro ⟨resolved, h⟩
  exact nomatch h

/-- A distribution at index 3, then lookups out of order and repeated: the repeated ones are
refused. -/
example : ((run plainSenderKeys plainContext plainRoot
    [.install 3, .messageKeyFor 2, .messageKeyFor 5, .messageKeyFor 2, .messageKeyFor 4,
      .messageKeyFor 5]).returned.map Prod.fst) = [2, 5, 4] := by decide +kernel

end Reception

end Ghostlink.Groups
