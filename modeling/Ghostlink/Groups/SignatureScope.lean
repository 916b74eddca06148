import Ghostlink.Groups.SignedRosters
import Ghostlink.Groups.WireReadback

/-! Which texts a member's signature can stand under. -/

namespace Ghostlink.Groups.LocalGroupManager
open Text List

variable {P : Primitives}

lemma take_signed {groupId : String} {request} {text : String}
    (h : parseSignRequest P groupId text.toUTF8 = some request) :
    text.toList.take 17 = "ghostlink/group-e".toList := by
  simp only [parseSignRequest, fromUTF8?_toUTF8, Option.bind_eq_bind, Option.bind_some] at h
  split at h
  · next parts =>
    obtain ⟨⟨form, -⟩, -⟩ := (Option.ite_none_left_eq_some.mp h).imp_left not_or.mp
    obtain ⟨first, _, split, rfl, others⟩ := map_eq_cons_iff.mp parts
    obtain ⟨second, rest, rfl, -⟩ := map_eq_cons_iff.mp others
    have whole : ['|'].intercalate (text.toList.splitOn '|') = text.toList :=
      intercalate_splitOn '|'
    have known : first = eventPrefix.toList := by rw [← not_not.mp form, String.toList_ofList]
    rw [split, intercalate_cons_cons, known] at whole
    rw [← whole, append_assoc]
    exact take_append_of_le_length (by decide : 17 ≤ eventPrefix.toList.length)
  · cases h

/-- A member signs an event of the group only at the next epoch, and as its subject or as the
owner; and it signs no text that creates a group or attests a key. -/
theorem signature_scope (P : Primitives) (int_repr : ∀ n : ℕ, P.int (Nat.repr n) = some (n : ℤ))
    (upper : ∀ f : Fingerprint, P.upper f.val = f.val) (m : LocalGroupManager)
    (groupId answer : String) (message : ByteArray)
    (h : m.signForRelay P groupId message = some answer) :
    (∀ event : GroupEvent, message = event.canonical → event.groupId.val = groupId ∧
      ∃ r identity, m.get groupId = some r ∧ m.identity = some identity ∧
        identity.fingerprint P = some r.myFingerprint ∧ event.epoch = r.epoch + 1 ∧
        (event.kind = .left ∧ event.subjectFingerprint = r.myFingerprint ∨
          event.kind ≠ .left ∧ r.isOwner)) ∧
      (∀ name nonce, message ≠ canonicalCreateForm name nonce) ∧
      ∀ group fingerprint nonce, message ≠ canonicalAttestForm group fingerprint nonce := by
  obtain ⟨r, epoch, kind, subject, identity, found, -, parsed, next, stored, own, allowed⟩ :=
    signForRelay_some h
  refine ⟨?_, ?_, ?_⟩
  · rintro event rfl
    obtain ⟨same, int, rfl, rfl⟩ := parseSignRequest_canonical parsed
    rw [int_repr, Option.some.injEq] at int
    rw [strip_fingerprint, upper] at allowed
    refine ⟨same, r, identity, found, stored, own, by omega, ?_⟩
    exact (of_decide_eq_true allowed).imp_left (And.imp_right Subtype.ext)
  · rintro name nonce rfl
    have start := take_signed parsed
    simp [toString] at start
  · rintro group fingerprint nonce rfl
    have start := take_signed parsed
    simp [toString] at start

section
open GroupAuthority Network

theorem removal_creates_nothing :
    canonicalEventForm nightWatch 3 .removed bob noon.wall ≠ canonicalCreateForm "Crew" "n" := by
  obtain ⟨answer, signed⟩ : ∃ answer, aliceManager.signForRelay plainPrimitives nightWatch.val
      (canonicalEventForm nightWatch 3 .removed bob noon.wall) = some answer :=
    Option.isSome_iff_exists.mp (by decide +kernel)
  exact (signature_scope plainPrimitives plainPrimitives_int (fun _ => rfl) _ _ _ _ signed).2.1 _ _

end
end Ghostlink.Groups.LocalGroupManager
