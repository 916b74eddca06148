import Ghostlink.Base.Runs
import Ghostlink.Groups.SenderKeyAgreement

/-! The receiving side of the store over whole runs. A chain of its own hands out each key once,
but the store replaces a sender's chain when a distribution of another generation arrives, and
the new chain starts without a memory of what was handed out. What the store as a whole does
then depends on the order of the generations. -/

namespace Ghostlink.Groups
open Collections List ReceiverChain

inductive StoreCall
  | installIncoming (groupId sender : String) (gen : ℕ) (root : SecretKey) (index : ℕ)
  | messageKeyFor (x : ChainContext) (index : ℕ)

namespace ReceiverChain
variable {S : SenderKeyPrimitives} {r : ReceiverChain}

lemma install_root (installed : r.chain.isSome) (root root' index) :
    r.install S root index = r.install S root' index := by
  obtain ⟨own, hc⟩ := Option.isSome_iff_exists.mp installed
  simp [install, hc]

lemma install_make (x root) {index} (positive : 1 ≤ index) :
    ∃ r, (make x).install S root index = .ok r := by
  have checked : requireIndex index = .ok () := requireIndex_eq_ok.mpr positive
  simp only [install, checked]
  exact ⟨_, rfl⟩

end ReceiverChain

namespace SenderKeyStore
variable {S : SenderKeyPrimitives} {k : SenderKeyStore} {x : ChainContext} {root : SecretKey}
variable {index : ℕ}

lemma installIncoming_cases : (k.installIncoming S x root index).1 = k ∨
    (∃ base r, base.install S root index = .ok r ∧
      (k.incoming.get? (x.groupId, x.sender) = some base ∧ base.epoch = x.epoch ∧
          base.gen = x.gen ∨
        base = .make x ∧ ∀ held, k.incoming.get? (x.groupId, x.sender) = some held →
          ¬ (held.epoch = x.epoch ∧ held.gen = x.gen)) ∧
      ∀ key, (k.installIncoming S x root index).1.incoming.get? key =
        if key = (x.groupId, x.sender) then some r else k.incoming.get? key) ∨
    ∃ held e, k.incoming.get? (x.groupId, x.sender) = some held ∧
      ¬ (held.epoch = x.epoch ∧ held.gen = x.gen) ∧
      (make x).install S root index = .error e := by
  unfold installIncoming
  dsimp only
  split_ifs with full
  · exact .inl rfl
  · cases found : k.incoming.get? (x.groupId, x.sender) with
    | none =>
      cases done : (make x).install S root index with
      | error => exact .inl rfl
      | ok r => exact .inr (.inl ⟨_, r, done, .inr ⟨rfl, (by rintro r₀ ⟨⟩)⟩, fun key => Dict.get?_set ..⟩)
    | some held =>
      dsimp only
      split_ifs with same
      · cases done : held.install S root index with
        | error => exact .inl rfl
        | ok r => exact .inr (.inl ⟨held, r, done, .inl ⟨rfl, same⟩, fun key => Dict.get?_set ..⟩)
      · cases done : (make x).install S root index with
        | error e => exact .inr (.inr ⟨held, e, rfl, same, rfl⟩)
        | ok r =>
          refine .inr (.inl ⟨_, r, done, .inr ⟨rfl, ?_⟩, ?_⟩)
          · intro held' found'
            rwa [← Option.some.inj found']
          · intro key
            rw [Dict.get?_set, Dict.get?_set]
            split_ifs <;> rfl

lemma messageKeyFor_eq_ok {key late} {k' : SenderKeyStore}
    (h : k.messageKeyFor S x index = .ok ((key, late), k')) :
    ∃ held r, k.incoming.get? (x.groupId, x.sender) = some held ∧ held.epoch = x.epoch ∧
      held.gen = x.gen ∧ held.messageKeyFor S index = .ok ((key, late), r) ∧
      k'.incoming = k.incoming.set (x.groupId, x.sender) r := by
  unfold messageKeyFor at h
  cases found : k.incoming.get? (x.groupId, x.sender) with
  | none =>
    rw [found] at h
    exact absurd h Checks.throw_ne_ok
  | some held =>
    rw [found] at h
    simp only [Checks.refuse_eq_ok, Checks.bind_eq_ok, Checks.pure_eq_ok, not_or, not_not,
      Prod.mk.injEq] at h
    obtain ⟨⟨epoch, gen⟩, ⟨result, r⟩, resolved, rfl, rfl⟩ := h
    exact ⟨held, r, rfl, epoch, gen, resolved, rfl⟩

end SenderKeyStore

/-- A store together with every key it has handed out, oldest first, under the chain and the
index it was asked for. -/
structure Issue where
  store : SenderKeyStore
  issued : List ((ChainContext × ℕ) × SecretKey)

namespace Issue
variable {S : SenderKeyPrimitives} {epoch : ℕ} {s s' : Issue} {x : ChainContext}

def start : Issue := { store := .empty, issued := [] }

def exec (S : SenderKeyPrimitives) (epoch : ℕ) (s : Issue) : StoreCall → Issue
  | .installIncoming groupId sender gen root index =>
    let x : ChainContext := { groupId, epoch, sender, gen }
    { s with store := (s.store.installIncoming S x root index).1 }
  | .messageKeyFor x index =>
    match s.store.messageKeyFor S x index with
    | .ok ((key, _), store) => { store, issued := s.issued ++ [((x, index), key)] }
    | .error _ => s

def run (S : SenderKeyPrimitives) (epoch : ℕ) (calls : List StoreCall) : Issue :=
  calls.foldl (exec S epoch) start

/-- A distribution for a sender whose chain is held is of the held generation, or of a higher
one with an index that can be installed. -/
def ascending (s : Issue) : StoreCall → Bool
  | .messageKeyFor _ _ => true
  | .installIncoming groupId sender gen _ index =>
    match s.store.incoming.get? (groupId, sender) with
    | none => true
    | some held => gen = held.gen ∨ held.gen < gen ∧ 1 ≤ index

def issuedOf (s : Issue) (x : ChainContext) : List (ℕ × SecretKey) :=
  (s.issued.filter fun e => e.1.1 = x).map fun e => (e.1.2, e.2)

def labels (s : Issue) : List (ChainContext × ℕ) := s.issued.map Prod.fst

lemma mem_issuedOf {n} : n ∈ (s.issuedOf x).map Prod.fst ↔ (x, n) ∈ s.labels := by
  simp [issuedOf, labels]

lemma issuedOf_append (store index key y) : issuedOf ⟨store, s.issued ++ [((x, index), key)]⟩ y =
      s.issuedOf y ++ if x = y then [(index, key)] else [] := by
  simp only [issuedOf, filter_append, map_append]
  congr 1
  by_cases same : x = y <;> simp [same]

/-- Every held chain is in step with what was handed out from it, and nothing was handed out
from a generation that is yet to come. -/
structure Sound (S : SenderKeyPrimitives) (epoch : ℕ) (s : Issue) : Prop where
  held : ∀ key r, s.store.incoming.get? key = some r →
    (r.groupId, r.sender) = key ∧ r.epoch = epoch ∧ r.chain.isSome ∧
      ∃ root, Reception.Faithful S r.context root ⟨r, s.issuedOf r.context⟩
  past : ∀ x n, (x, n) ∈ s.labels →
    ∃ r, s.store.incoming.get? (x.groupId, x.sender) = some r ∧ x.gen ≤ r.gen
  once : s.labels.Nodup

lemma sound_start : Sound S epoch start := ⟨nofun, nofun, nodup_nil⟩

def Keeps (s s' : Issue) : Prop :=
  ∀ key held, s.store.incoming.get? key = some held →
    ∃ held', s'.store.incoming.get? key = some held' ∧ held'.epoch = held.epoch ∧
      held.gen ≤ held'.gen

lemma keeps_refl (s) : Keeps s s := fun _ held found => ⟨held, found, rfl, le_rfl⟩

variable {root : SecretKey}

section
variable (h : Sound S epoch s)
include h

lemma Sound.put {r : ReceiverChain} (stored : ∀ key, s'.store.incoming.get? key =
      if key = (x.groupId, x.sender) then some r else s.store.incoming.get? key)
    (newer : ∀ held, s.store.incoming.get? (x.groupId, x.sender) = some held → held.gen ≤ x.gen)
    (sameEpoch : x.epoch = epoch) (installed : r.chain.isSome)
    (faithful : Reception.Faithful S x root ⟨r, s'.issuedOf x⟩)
    (others : ∀ y, y ≠ x → s'.issuedOf y = s.issuedOf y)
    (grown : ∀ label ∈ s'.labels, label ∈ s.labels ∨ label.1 = x)
    (once : s'.labels.Nodup) : Sound S epoch s' ∧ Keeps s s' := by
  have context : r.context = x := faithful.context
  have here : s'.store.incoming.get? (x.groupId, x.sender) = some r := by
    rw [stored, if_pos rfl]
  refine ⟨⟨?_, ?_, once⟩, ?_⟩
  · intro key r' found
    rw [stored] at found
    split_ifs at found with place
    · cases found
      subst context
      exact ⟨place.symm, sameEpoch, installed, root, faithful⟩
    · obtain ⟨named, ofEpoch, live, root', before⟩ := h.held key r' found
      have other : r'.context ≠ x := by
        rintro rfl
        exact place named.symm
      rw [← others _ other] at before
      exact ⟨named, ofEpoch, live, root', before⟩
  · intro y n mem
    rcases grown (y, n) mem with old | rfl
    · obtain ⟨held, found, le⟩ := h.past y n old
      by_cases place : (y.groupId, y.sender) = (x.groupId, x.sender)
      · rw [place] at found ⊢
        refine ⟨r, here, le.trans ?_⟩
        rw [show r.gen = x.gen from congrArg ChainContext.gen context]
        exact newer held found
      · rw [stored, if_neg place]
        exact ⟨held, found, le⟩
    · exact ⟨r, here, le_of_eq (congrArg ChainContext.gen context).symm⟩
  · intro key held found
    by_cases place : key = (x.groupId, x.sender)
    · subst place
      refine ⟨r, here, ?_, ?_⟩
      · rw [(h.held _ held found).2.1, ← sameEpoch]
        exact congrArg ChainContext.epoch context
      · rw [show r.gen = x.gen from congrArg ChainContext.gen context]
        exact newer held found
    · rw [stored, if_neg place]
      exact ⟨held, found, rfl, le_rfl⟩

lemma Sound.issuedOf_eq_nil
    (newer : ∀ held, s.store.incoming.get? (x.groupId, x.sender) = some held → held.gen < x.gen) :
    s.issuedOf x = [] := by
  refine eq_nil_iff_forall_not_mem.mpr fun e mem => ?_
  have label := mem_issuedOf.mp (mem_map_of_mem mem)
  obtain ⟨held, found, le⟩ := h.past x e.1 label
  exact absurd (newer held found) (Nat.not_lt_of_le le)

lemma Sound.installIncoming {groupId sender gen index}
    (order : s.ascending (.installIncoming groupId sender gen root index)) :
    let s' := s.exec S epoch (.installIncoming groupId sender gen root index)
    Sound S epoch s' ∧ Keeps s s' := by
  intro s'
  let x : ChainContext := { groupId, epoch, sender, gen }
  have up : ∀ held, s.store.incoming.get? (groupId, sender) = some held →
      gen = held.gen ∨ held.gen < gen ∧ 1 ≤ index := by
    intro held found
    rw [ascending, found] at order
    exact of_decide_eq_true order
  -- a held chain of another generation is an older one, and the new one will install
  have replaces : ∀ held, s.store.incoming.get? (groupId, sender) = some held →
      ¬ (held.epoch = x.epoch ∧ held.gen = x.gen) → held.gen < gen ∧ 1 ≤ index := by
    intro held found other
    refine (up held found).resolve_left fun same => other ⟨?_, same.symm⟩
    exact (h.held _ held found).2.1
  rcases SenderKeyStore.installIncoming_cases with
    same | ⟨base, r, done, origin, stored⟩ | ⟨held, e, found, other, failed⟩
  · have unchanged : s' = s := congrArg (fun k => { s with store := k }) same
    rw [unchanged]
    exact ⟨h, keeps_refl s⟩
  · rcases origin with ⟨found, ofEpoch, ofGen⟩ | ⟨rfl, other⟩
    · obtain ⟨named, -, live, root', before⟩ := h.held _ base found
      have context : base.context = x := by
        obtain ⟨group, from'⟩ := Prod.mk.inj named
        simp [context, group, from', ofEpoch, ofGen, x]
      rw [context] at before
      rw [install_root live root root'] at done
      have after := before.install done
      refine h.put stored ?_ rfl ?_ after (fun _ _ => rfl) (fun _ mem => .inl mem) h.once
      · intro held found'
        rw [found] at found'
        cases found'
        exact le_of_eq ofGen
      · rcases install_cases before.fresh done with ⟨rfl, -⟩ | ⟨-, rfl⟩
        · exact live
        · rfl
    · have nothing : s.issuedOf x = [] :=
        h.issuedOf_eq_nil fun held found => (replaces held found (other held found)).1
      have after : Reception.Faithful S x root ⟨r, s.issuedOf x⟩ := by
        rw [nothing]
        exact Reception.faithful_start.install done
      refine h.put stored ?_ rfl ?_ after (fun _ _ => rfl) (fun _ mem => .inl mem) h.once
      · exact fun held found => (replaces held found (other held found)).1.le
      · rcases install_cases (fun _ => rfl) done with ⟨-, live⟩ | ⟨-, rfl⟩
        · exact nomatch live
        · rfl
  · obtain ⟨r, done⟩ := install_make x root (replaces held found other).2
    rw [failed] at done
    exact nomatch done

lemma Sound.messageKeyFor (index : ℕ) :
    let s' := s.exec S epoch (.messageKeyFor x index)
    Sound S epoch s' ∧ Keeps s s' := by
  unfold exec
  dsimp only
  split
  · rename_i key late store resolved
    obtain ⟨held, r, found, ofEpoch, ofGen, handed, incoming⟩ :=
      SenderKeyStore.messageKeyFor_eq_ok resolved
    obtain ⟨named, sameEpoch, live, root, before⟩ := h.held _ held found
    have context : held.context = x := by
      obtain ⟨group, from'⟩ := Prod.mk.inj named
      simp [context, group, from', ofEpoch, ofGen]
    rw [context] at before
    have after := before.messageKeyFor handed
    have own : Issue.issuedOf ⟨store, s.issued ++ [((x, index), key)]⟩ x =
        s.issuedOf x ++ [(index, key)] := by
      rw [issuedOf_append, if_pos rfl]
    have new : (x, index) ∉ s.labels := by
      intro mem
      have inside := mem_issuedOf.mpr mem
      have nodup : ((s.issuedOf x ++ [(index, key)]).map Prod.fst).Nodup := after.once
      rw [map_append] at nodup
      exact (nodup_append.mp nodup).2.2 index inside index mem_cons_self rfl
    rw [← own] at after
    refine h.put ?_ ?_ (ofEpoch ▸ sameEpoch) ?_ after ?_ ?_ ?_
    · intro k
      rw [incoming]
      exact Dict.get?_set ..
    · intro held' found'
      rw [found] at found'
      cases found'
      exact le_of_eq ofGen
    · obtain ⟨own, hc, ⟨-, rfl⟩ | ⟨-, -, rfl⟩⟩ := messageKeyFor_cases handed
      · exact live
      · rfl
    · intro y other
      rw [issuedOf_append, if_neg fun same => other same.symm, append_nil]
    · intro label mem
      rw [labels, map_append] at mem
      rcases mem_append.mp mem with old | last
      · exact .inl old
      · exact .inr (congrArg Prod.fst (mem_singleton.mp last))
    · rw [labels, map_append]
      exact nodup_append_comm.mp (nodup_cons.mpr ⟨new, h.once⟩)
  · exact ⟨h, keeps_refl s⟩

lemma Sound.exec (call) (order : s.ascending call) :
    Sound S epoch (s.exec S epoch call) ∧ Keeps s (s.exec S epoch call) := by
  cases call with
  | installIncoming => exact h.installIncoming order
  | messageKeyFor x index => exact h.messageKeyFor index

end

/-- If the distributions of each sender come in the order of their generations, the store hands
out the key of a chain and an index at most once, and never goes back to an older chain. -/
theorem keys_issued_once (S : SenderKeyPrimitives) (epoch : ℕ) (calls : List StoreCall)
    (order : Runs.Along (exec S epoch) (fun s call => s.ascending call) start calls) :
    ((run S epoch calls).issued.map Prod.fst).Nodup ∧
      ∀ before call after, calls = before ++ call :: after → ∀ key held,
        (run S epoch before).store.incoming.get? key = some held →
        ∃ held', (run S epoch (before ++ [call])).store.incoming.get? key = some held' ∧
          held'.epoch = held.epoch ∧ held.gen ≤ held'.gen := by
  have sound : ∀ taken,
      Runs.Along (Issue.exec S epoch) (fun s call => s.ascending call) start taken →
      Sound S epoch (run S epoch taken) := by
    intro taken along
    exact along.invariant sound_start fun s call h ok => (h.exec call ok).1
  refine ⟨(sound calls order).once, ?_⟩
  rintro before call after rfl
  obtain ⟨along, next⟩ := (Runs.along_append before (call :: after)).mp order
  rw [show run S epoch (before ++ [call]) = (run S epoch before).exec S epoch call from
    foldl_append]
  exact ((sound before along).exec call next.1).2

open Reception (plainSenderKeys plainContext plainRoot)

def distributed (gen : ℕ) : StoreCall :=
  .installIncoming plainContext.groupId plainContext.sender gen plainRoot 2

def asked (gen index : ℕ) : StoreCall :=
  .messageKeyFor { plainContext with gen } index

def inOrder : List StoreCall :=
  [distributed 1, asked 1 2, distributed 1, asked 1 2, distributed 2, asked 2 2, asked 1 1]

theorem keys_issued_once_in_order :
    (run plainSenderKeys 3 inOrder).issued.map (fun e => (e.1.1.gen, e.1.2)) = [(1, 2), (2, 2)] ∧
      ((run plainSenderKeys 3 inOrder).issued.map Prod.fst).Nodup :=
  ⟨by decide +kernel, (keys_issued_once plainSenderKeys 3 inOrder (by decide +kernel)).1⟩

/-- The older distribution comes again after the newer one: its chain is built anew, and the key
of index 2 is handed out a second time. -/
theorem replayed_distribution_reissues_key :
    let calls := [distributed 1, asked 1 2, distributed 2]
    let before := run plainSenderKeys 3 calls
    let after := run plainSenderKeys 3 (calls ++ [distributed 1])
    let place := (plainContext.groupId, plainContext.sender)
    (before.store.incoming.get? place).map (·.gen) = some 2 ∧
      (after.store.incoming.get? place).map (·.gen) = some 1 ∧
      (run plainSenderKeys 3 (calls ++ [distributed 1, asked 1 2])).labels =
        [(plainContext, 2), (plainContext, 2)] := by
  decide +kernel

end Issue
end Ghostlink.Groups
