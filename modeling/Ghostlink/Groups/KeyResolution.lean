import Ghostlink.Base.DictKeys
import Ghostlink.Groups.KeyPull
import Ghostlink.Groups.SenderKeyIssue

/-! What a frame that fails to open costs. Its key is looked up before it is opened, and the lookup
is never undone: the key of its index is gone, and so are the oldest cached keys that made room. -/

namespace Ghostlink.Groups
open Collections List Dict ReceiverChain SenderKeyStore
open Messaging (SessionPrimitives)

namespace ReceiverChain
variable {S : SenderKeyPrimitives} {x : ChainContext} {root : SecretKey} {r r' : ReceiverChain}
  {k n : ℕ} {key : SecretKey} {late : Bool}

structure Installed (S : SenderKeyPrimitives) (x : ChainContext) (root : SecretKey)
    (r : ReceiverChain) : Prop where
  context : r.context = x
  chain : r.chain = some (chainAfter S x root r.lastSeen)
  window : Window S x root (fun _ => False) r.lastSeen r.skipped

lemma installed_of_faithful {s : Reception} (h : s.Faithful S x root)
    (some : s.chain.chain.isSome) : Installed S x root s.chain where
  context := h.context
  chain := by
    obtain ⟨own, found⟩ := Option.isSome_iff_exists.mp some
    rw [found, ← h.chain, found, Option.getD_some]
  window := ⟨h.window.size_le, fun k key mem =>
    ⟨(h.window.entry k key mem).1, (h.window.entry k key mem).2.1, id⟩⟩

lemma Window.keys_le {used : ℕ → Prop} {skipped : Dict ℕ SecretKey}
    (h : Window S x root used n skipped) (mem : k ∈ skipped.keys) : k ≤ n := by
  obtain ⟨⟨k, key⟩, cached, rfl⟩ := mem_map.mp mem
  exact (h.entry k key cached).1

lemma keys_skipThrough {m} {skipped : Dict ℕ SecretKey} (count)
    (h : Window S x root (fun _ => False) m skipped) :
    (skipThrough S x (List.range' (m + 1) count) (chainAfter S x root m) skipped).2.keys =
      (skipped.keys ++ List.range' (m + 1) count).drop (skipped.size + count - groupSkSkippedMax) := by
  have keep : ∀ n cached, (m ≤ n ∧ Window S x root (fun _ => False) n cached ∧
      cached.keys = (skipped.keys ++ List.range' (m + 1) (n - m)).drop
        (skipped.size + (n - m) - groupSkSkippedMax)) →
      m ≤ n + 1 ∧ Window S x root (fun _ => False) (n + 1)
        (cacheSkipped cached (n + 1) (messageKey S x root (n + 1))) ∧
      (cacheSkipped cached (n + 1) (messageKey S x root (n + 1))).keys =
        (skipped.keys ++ List.range' (m + 1) (n + 1 - m)).drop
          (skipped.size + (n + 1 - m) - groupSkSkippedMax) := by
    rintro n cached ⟨past, window, keys⟩
    refine ⟨past.trans (Nat.le_succ n), window.cacheSkipped id, ?_⟩
    have absent : cached.get? (n + 1) = none := (get?_eq_none_iff ..).mpr fun mem =>
      Nat.not_succ_le_self n (window.keys_le mem)
    have outside : cached.contains (n + 1) = false := by rw [Dict.contains, absent]; rfl
    have grown : List.range' (m + 1) (n + 1 - m) = List.range' (m + 1) (n - m) ++ [n + 1] := by
      rw [Nat.succ_sub past, List.range'_1_concat, Nat.add_right_comm, Nat.add_sub_cancel' past]
    have size : cached.size = skipped.size + (n - m) - (skipped.size + (n - m) - groupSkSkippedMax) := by
      rw [← length_keys, keys, length_drop, length_append, length_keys,
        length_range']
    rw [cacheSkipped, outside, if_neg Bool.false_ne_true, keys_dropOldest,
      ← length_keys, keys_set_of_none _ absent, length_append, length_keys, size,
      keys, ← drop_append_of_le_length, drop_drop, grown, append_assoc]
    · generalize groupSkSkippedMax = limit
      rw [length_singleton]
      congr 1
      omega
    · rw [length_append, length_keys, length_range']
      exact Nat.sub_le ..
  have full : skipped.size - groupSkSkippedMax = 0 := Nat.sub_eq_zero_of_le h.size_le
  have walked := Ratchet.walk_range' (advanceChain S x)
    (fun k chain skipped => cacheSkipped skipped k (deriveMessageKey S x k chain))
    root _ keep count m skipped ⟨le_rfl, h, by simp [full]⟩
  have keys := walked.2.2.2
  rwa [Nat.add_sub_cancel_left] at keys

lemma messageKeyFor_ahead_of_not_mem (h : r.messageKeyFor S k = .ok ((key, late), r'))
    (absent : k ∉ r.skipped.keys) : r.lastSeen < k ∧ k ≤ r.lastSeen + 65 := by
  rw [messageKeyFor, Checks.bind_eq_ok] at h
  obtain ⟨_, -, h⟩ := h
  cases found : r.chain with
  | none =>
    rw [found] at h
    exact absurd h Checks.throw_ne_ok
  | some own =>
    rw [found, (get?_eq_none_iff ..).mpr absent] at h
    simp only [Checks.refuse_eq_ok] at h
    obtain ⟨ahead, near, -⟩ := h
    have within : k - r.lastSeen - 1 ≤ 64 := Nat.not_lt.mp near
    omega

def Resolves (S : SenderKeyPrimitives) (r : ReceiverChain) (n : ℕ) : Prop :=
  ∃ result, r.messageKeyFor S n = .ok result

lemma Installed.resolves_iff (h : Installed S x root r) (positive : 1 ≤ n) :
    r.Resolves S n ↔ n ∈ r.skipped.keys ∨ r.lastSeen < n ∧ n ≤ r.lastSeen + 65 := by
  constructor
  · rintro ⟨⟨⟨key, late⟩, r'⟩, resolved⟩
    by_cases cached : n ∈ r.skipped.keys
    · exact .inl cached
    · exact .inr (messageKeyFor_ahead_of_not_mem resolved cached)
  · intro known
    by_cases cached : n ∈ r.skipped.keys
    · obtain ⟨key, found⟩ := Option.ne_none_iff_exists'.mp
        (mt (get?_eq_none_iff ..).mp (not_not.mpr cached))
      have checked : requireIndex n = .ok () := requireIndex_eq_ok.mpr positive
      simp only [Resolves, messageKeyFor, checked, h.chain, found]
      exact ⟨_, rfl⟩
    · obtain ⟨ahead, near⟩ := known.resolve_left cached
      obtain ⟨key, r', resolved⟩ := messageKeyFor_ahead (by rw [h.chain]; rfl)
        ((get?_eq_none_iff ..).mpr cached) ahead near
      exact ⟨_, resolved⟩

lemma Installed.messageKeyFor_cases (h : Installed S x root r)
    (resolved : r.messageKeyFor S k = .ok ((key, late), r')) :
    key = messageKey S x root k ∧ Installed S x root r' ∧
      (k ∈ r.skipped.keys ∧ r'.lastSeen = r.lastSeen ∧ r'.skipped = r.skipped.erase k ∨
        k ∉ r.skipped.keys ∧ r.lastSeen < k ∧ k ≤ r.lastSeen + 65 ∧ r'.lastSeen = k ∧
          r'.skipped.keys = (r.skipped.keys ++ List.range' (r.lastSeen + 1)
            (k - r.lastSeen - 1)).drop (r.skipped.size + (k - r.lastSeen - 1) - 64)) := by
  by_cases cached : k ∈ r.skipped.keys
  · obtain ⟨own, -, ⟨found, rfl⟩ | ⟨ahead, -⟩⟩ := ReceiverChain.messageKeyFor_cases resolved
    · have entry := h.window.entry k key ((get?_eq_some_iff ..).mp found)
      refine ⟨entry.2.1, ⟨h.context, h.chain, (size_filter_le ..).trans h.window.size_le,
        fun k' key' mem => h.window.entry k' key' ((Dict.mem_filter ..).mp mem).1⟩,
        .inl ⟨cached, rfl, rfl⟩⟩
    · exact absurd (h.window.keys_le cached) ahead.not_ge
  · obtain ⟨ahead, near⟩ := messageKeyFor_ahead_of_not_mem resolved cached
    obtain ⟨own, chain, ⟨found, -⟩ | ⟨-, rfl, rfl⟩⟩ := ReceiverChain.messageKeyFor_cases resolved
    · exact absurd ((get?_eq_none_iff ..).mpr cached) (by rw [found]; exact Option.some_ne_none _)
    · obtain rfl : own = chainAfter S x root r.lastSeen := Option.some.inj (chain.symm.trans h.chain)
      obtain ⟨position, window⟩ := skipThrough_range' (k - r.lastSeen - 1) h.window fun _ used => used.elim
      have keys := keys_skipThrough (k - r.lastSeen - 1) h.window
      obtain ⟨j, rfl⟩ : ∃ j, k = j + 1 := ⟨k - 1, by omega⟩
      have last : r.lastSeen + (j + 1 - r.lastSeen - 1) = j := by omega
      rw [last] at position window
      rw [h.context, position]
      exact ⟨rfl, ⟨h.context, rfl, window.size_le, fun k' key' mem =>
        ⟨(window.entry k' key' mem).1.trans (Nat.le_succ j), (window.entry k' key' mem).2⟩⟩,
        .inr ⟨cached, ahead, near, rfl, keys⟩⟩

/-- What a lookup of `k` takes away: its own index and the oldest keys of a full cache. -/
def Lost (r : ReceiverChain) (k n : ℕ) : Prop :=
  n = k ∨ n ∈ r.skipped.keys.take (r.skipped.size + (k - r.lastSeen - 1) - 64)

lemma Installed.resolves_after (h : Installed S x root r)
    (resolved : r.messageKeyFor S k = .ok ((key, late), r')) (positive : 1 ≤ n)
    (before : r.Resolves S n) : r'.Resolves S n ↔ ¬ r.Lost k n := by
  have room : r.skipped.size ≤ 64 := h.window.size_le
  rw [h.resolves_iff positive] at before
  obtain ⟨-, h', ⟨cached, same, skipped⟩ | ⟨absent, ahead, near, seen, keys⟩⟩ :=
    h.messageKeyFor_cases resolved
  · have old := h.window.keys_le cached
    have full : r.skipped.size + (k - r.lastSeen - 1) - 64 = 0 := by omega
    rw [h'.resolves_iff positive, skipped, mem_keys_erase, same, Lost, full, take_zero]
    constructor
    · rintro (⟨-, other⟩ | ahead) lost
      · simp [other] at lost
      · simp only [not_mem_nil, or_false] at lost
        omega
    · intro still
      exact before.imp_left fun mem => ⟨mem, fun own => still (.inl own)⟩
  · have evicted : r.skipped.size + (k - r.lastSeen - 1) - 64 ≤ r.skipped.keys.length := by
      rw [length_keys]
      omega
    rw [h'.resolves_iff positive, seen, keys, drop_append_of_le_length evicted, Lost,
      mem_append, mem_range'_1]
    generalize r.skipped.size + (k - r.lastSeen - 1) - 64 = d
    have apart := disjoint_take_drop r.skipped.nodup (le_refl d)
    have split : n ∈ r.skipped.keys ↔ n ∈ r.skipped.keys.take d ∨ n ∈ r.skipped.keys.drop d := by
      rw [← mem_append, take_append_drop]
    have old (mem : n ∈ r.skipped.keys) := h.window.keys_le mem
    have never (first : n ∈ r.skipped.keys.take d) (rest : n ∈ r.skipped.keys.drop d) := apart first rest
    constructor
    · rintro (⟨rest | ⟨above, below⟩⟩ | later) (rfl | first)
      · exact absurd (split.mpr (.inr rest)) absent
      · exact never first rest
      · omega
      · exact absurd (old (split.mpr (.inl first))) (by omega)
      · omega
      · exact absurd (old (split.mpr (.inl first))) (by omega)
    · intro still
      rcases before with mem | ⟨after, close⟩
      · exact .inl (.inl ((split.mp mem).resolve_left fun first => still (.inr first)))
      · have other : n ≠ k := fun own => still (.inl own)
        omega

end ReceiverChain

namespace SenderKeyStore
variable {S : SenderKeyPrimitives} {k k' : SenderKeyStore} {x : ChainContext} {index : ℕ}
  {key : SecretKey} {late : Bool}

lemma messageKeyFor_changes (h : k.messageKeyFor S x index = .ok ((key, late), k')) : k' ≠ k := by
  obtain ⟨held, r, found, -, -, resolved, incoming⟩ := messageKeyFor_eq_ok h
  rintro rfl
  have same : k'.incoming.get? (x.groupId, x.sender) = some r := by
    rw [incoming, get?_set_self]
  obtain rfl : held = r := Option.some.inj (found.symm.trans same)
  obtain ⟨own, -, ⟨cached, eq⟩ | ⟨ahead, -, eq⟩⟩ := messageKeyFor_cases resolved
  · have erased := (erase_eq_self_iff held.skipped index).mp (congrArg skipped eq).symm
    simp [cached] at erased
  · exact absurd (congrArg lastSeen eq) ahead.ne

end SenderKeyStore

namespace Endpoint
variable {S : SessionPrimitives} {W : WirePrimitives} {e : Endpoint} {record : LocalGroupRecord}
  {sender : Fingerprint} {epoch : ℕ} {body : Bytes} {x : StepDraw}

def chainContext (record : LocalGroupRecord) (sender : Fingerprint) (epoch gen : ℕ) : ChainContext :=
  { groupId := record.groupId.val, epoch, sender := sender.val, gen }

structure Lookup (S : SessionPrimitives) (e : Endpoint) (record : LocalGroupRecord)
    (sender : Fingerprint) (epoch : ℕ) (body : Bytes) where
  gen : ℕ
  seq : ℕ
  sealed : Bytes
  key : SecretKey
  late : Bool
  store : SenderKeyStore
  parsed : parseSkmsgBody body (groupMsgMaxBytes + 64) = .ok (gen, seq, sealed)
  resolved : e.store.messageKeyFor (senderKeyPrimitives S) (chainContext record sender epoch gen) seq =
    .ok ((key, late), store)

lemma skreqAllowed_store (e : Endpoint) (key now) :
    (e.skreqAllowed key now).2.store = e.store := by
  obtain ⟨windows, after⟩ := skreqAllowed_eq e key now
  rw [after]

lemma sendSkreq_store (e : Endpoint) : (e.sendSkreq S record sender x).2.store = e.store := by
  have kept := e.skreqAllowed_store (record.groupId, sender) x.now
  unfold sendSkreq
  rcases brake : e.skreqAllowed (record.groupId, sender) x.now with ⟨allowed, e'⟩
  rw [brake] at kept
  dsimp only at kept ⊢
  split
  · exact kept
  split
  · exact kept
  split <;> exact kept

lemma awaitChain_store (seq) : (e.awaitChain S record sender seq body x).2.store = e.store ∧
      ∀ frame, (e.awaitChain S record sender seq body x).1 ≠ .message frame :=
  ⟨sendSkreq_store _, fun _ => Handled.noConfusion⟩

lemma Lookup.store_eq (l : Lookup S e record sender epoch body) (W x) :
    (e.handleSenderKeyMessage S W record sender epoch body x).2 = { e with store := l.store } := by
  have resolved := l.resolved
  unfold chainContext at resolved
  simp only [handleSenderKeyMessage, l.parsed, resolved]
  split
  · rfl
  split
  · rfl
  split_ifs <;> rfl

lemma store_eq_of_no_lookup (none : IsEmpty (Lookup S e record sender epoch body)) (W x) :
    (e.handleSenderKeyMessage S W record sender epoch body x).2.store = e.store ∧
      ∀ frame, (e.handleSenderKeyMessage S W record sender epoch body x).1 ≠ .message frame := by
  have dropped : e.store = e.store ∧ ∀ frame, Handled.dropped ≠ .message frame :=
    ⟨rfl, fun _ => Handled.noConfusion⟩
  unfold handleSenderKeyMessage
  split
  · exact dropped
  next gen seq sealed parsed =>
  split
  next err failed =>
    split
    · exact awaitChain_store seq
    · exact awaitChain_store seq
    · exact dropped
    · exact dropped
  next key late store resolved => exact none.elim ⟨gen, seq, sealed, key, late, store, parsed, resolved⟩

/-- Handling a message leaves the store as it is exactly if no key was looked up. A frame that fails
to open has had its key looked up: nothing is put back, and of the indexes that could be opened
before, those that `Lost` names cannot be opened any more. -/
theorem forged_frame_effect (S : SessionPrimitives) (W : WirePrimitives) (e : Endpoint)
    (record : LocalGroupRecord) (sender : Fingerprint) (epoch : ℕ) (body : Bytes) (x : StepDraw) :
    let after := (e.handleSenderKeyMessage S W record sender epoch body x).2.store
    (after = e.store ↔ IsEmpty (Lookup S e record sender epoch body)) ∧
      ∀ (l : Lookup S e record sender epoch body) err,
        openMessage S l.key l.sealed (groupSkMsgAad record.groupId epoch sender l.gen l.seq) =
          .error err →
        (e.handleSenderKeyMessage S W record sender epoch body x).1 = .dropped ∧ after ≠ e.store ∧
          ∀ root r, e.store.incoming.get? (record.groupId.val, sender.val) = some r →
            ReceiverChain.Installed (senderKeyPrimitives S) (chainContext record sender epoch l.gen)
              root r →
            ∃ r', after.incoming.get? (record.groupId.val, sender.val) = some r' ∧
              ReceiverChain.Installed (senderKeyPrimitives S)
                (chainContext record sender epoch l.gen) root r' ∧
              ∀ n, 1 ≤ n → r.Resolves (senderKeyPrimitives S) n →
                (r'.Resolves (senderKeyPrimitives S) n ↔ ¬ r.Lost l.seq n) := by
  intro after
  have changed (l : Lookup S e record sender epoch body) : after = l.store :=
    congrArg Endpoint.store (l.store_eq W x)
  refine ⟨⟨fun same => ⟨fun l => ?_⟩, fun none => (store_eq_of_no_lookup none W x).1⟩,
    fun l err failed => ⟨?_, ?_, fun root r found installed => ?_⟩⟩
  · exact messageKeyFor_changes l.resolved ((changed l).symm.trans same)
  · have resolved := l.resolved
    unfold chainContext at resolved
    simp [handleSenderKeyMessage, l.parsed, resolved, failed]
  · rw [changed l]
    exact messageKeyFor_changes l.resolved
  · obtain ⟨held, r', found', -, -, resolved, incoming⟩ := messageKeyFor_eq_ok l.resolved
    obtain rfl : held = r := Option.some.inj (found'.symm.trans found)
    obtain ⟨-, installed', -⟩ := installed.messageKeyFor_cases resolved
    refine ⟨r', ?_, installed', fun n positive before => installed.resolves_after resolved positive before⟩
    rw [changed l, incoming]
    exact get?_set_self ..

section Forged
open SenderKeyService (trio)
open GroupAuthority (nightWatch bob)
open Mirror (alice)

def taggedCipher : SessionPrimitives :=
  { plainCipher with
    decrypt := fun _ _ bytes _ =>
      if bytes.drop (bytes.length - 16) = List.replicate 16 0 then
        some (bytes.take (bytes.length - 16))
      else none }

def aliceChain (S : SessionPrimitives) : ReceiverChain :=
  (Reception.run (senderKeyPrimitives S) (chainContext trio alice 2 1) plainLink [.install 1]).chain

def listener (S : SessionPrimitives) : Endpoint :=
  { member bob alice [] with
    store := { SenderKeyStore.empty with
      incoming := Dict.empty.set (nightWatch.val, alice.val) (aliceChain S) } }

/-- Bob can open the next message of Alice, but not after a forged frame with its index. -/
theorem forged_frame_uses_key_up :
    let forged := (listener taggedCipher).handleSenderKeyMessage taggedCipher plainWire trio alice 2
      (dumpsBytes true (skmsgFields 1 2 (List.replicate 13 1))) draw
    let resolves (k : SenderKeyStore) := (k.messageKeyFor (senderKeyPrimitives taggedCipher)
      (chainContext trio alice 2 1) 2).isOk
    resolves (listener taggedCipher).store ∧ forged.1 = .dropped ∧
      resolves forged.2.store = false := by
  decide +kernel

end Forged

end Endpoint
end Ghostlink.Groups
