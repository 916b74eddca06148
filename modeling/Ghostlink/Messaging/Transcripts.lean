import Ghostlink.Invites.Tokens
import Ghostlink.Messaging.Handshake

/-! Which handshakes one transcript can stand for. -/

namespace Ghostlink.Messaging
open Text List

structure Transcript.Sized (t : Transcript) : Prop where
  room : fullmatch Invites.roomIdPattern t.channelId.toList
  helloPub : t.helloPub.length = 32
  helloNonce : t.helloNonce.length = 16
  replyPub : t.replyPub.length = 32
  replyNonce : t.replyNonce.length = 16
  helloIdpub : ∀ key ∈ t.helloIdpub, key.length = 32
  replyIdpub : ∀ key ∈ t.replyIdpub, key.length = 32

lemma length_utf8_room {channelId : String}
    (room : fullmatch Invites.roomIdPattern channelId.toList) :
    (utf8 channelId).length = 22 := by
  have ascii : ∀ c ∈ channelId.toList, c.utf8Size = 1 := by
    intro c mem
    by_contra wide
    refine not_mem_of_fullmatch room (fun p hp => ?_) mem
    have other (cs : List Char) (narrow : cs.all (·.utf8Size = 1)) : c ∉ cs :=
      fun mem => wide (of_decide_eq_true (all_eq_true.mp narrow c mem))
    have literal {s : String} (narrow : s.toList.all (·.utf8Size = 1)) (hp : p ∈ lit s) :
        p c = false := by
      obtain ⟨d, hd, rfl⟩ := mem_map.mp hp
      exact beq_false_of_ne fun same => other _ narrow (same ▸ hd)
    have drawn (hp : p ∈ List.replicate 4 Groups.roomIdAlphabet.contains) : p c = false := by
      rw [eq_of_mem_replicate hp]
      simpa using other Groups.roomIdAlphabet (by decide)
    simp only [Invites.roomIdPattern, mem_append] at hp
    rcases hp with ((((hp | hp) | hp) | hp) | hp) | hp
    exacts [literal (by decide) hp, drawn hp, literal (by decide) hp, drawn hp,
      literal (by decide) hp, drawn hp]
  have size := utf8ByteSize_eq channelId
  rwa [utf8Length_eq_length ascii, length_of_fullmatch room] at size

lemma utf8_injective {s s' : String} (h : utf8 s = utf8 s') : s = s' :=
  String.toByteArray_inj.mp (ByteArray.ext (Array.toList_inj.mp h))

/-- Keys of one size behind their bars can be read back, but not on which side each stands. -/
theorem identities_eq {a b c d : Option Bytes} (ha : ∀ key ∈ a, key.length = 32)
    (hb : ∀ key ∈ b, key.length = 32) (hc : ∀ key ∈ c, key.length = 32)
    (hd : ∀ key ∈ d, key.length = 32)
    (same : (a.elim [] fun key => utf8 "|" ++ key) ++ (b.elim [] fun key => utf8 "|" ++ key) =
      (c.elim [] fun key => utf8 "|" ++ key) ++ (d.elim [] fun key => utf8 "|" ++ key)) :
    a.toList ++ b.toList = c.toList ++ d.toList := by
  have bar : utf8 "|" = [124] := by decide
  have sizes := congrArg List.length same
  cases a <;> cases b <;> cases c <;> cases d <;> simp_all
  case some.some.none.some =>
    have sizes := congrArg List.length same
    simp [ha, hb, hd] at sizes
  case some.some.some.none =>
    have sizes := congrArg List.length same
    simp [ha, hb, hc] at sizes
  case some.some.some.some =>
    obtain ⟨first, rest⟩ := append_inj same (ha.trans hc.symm)
    exact ⟨first, (List.cons.inj rest).2⟩

/-- A transcript stands for one handshake exactly when both sides present an identity key or
neither does: a single key can be moved to the other side. -/
theorem transcript_binds_iff {t : Transcript} (sized : t.Sized) :
    (∀ t' : Transcript, t'.Sized → buildTranscript t' = buildTranscript t → t' = t) ↔
      t.helloIdpub.isSome = t.replyIdpub.isSome := by
  constructor
  · intro binds
    by_contra one
    have moved := binds { t with helloIdpub := t.replyIdpub, replyIdpub := t.helloIdpub }
      { sized with helloIdpub := sized.replyIdpub, replyIdpub := sized.helloIdpub } (by
        simp only [buildTranscript]
        cases hello : t.helloIdpub <;> cases reply : t.replyIdpub <;> simp_all)
    exact one (congrArg (·.replyIdpub.isSome) moved)
  · intro both t' sized' same
    simp only [buildTranscript, append_assoc] at same
    obtain ⟨channel, same⟩ := append_inj (append_cancel_left same)
      ((length_utf8_room sized'.room).trans (length_utf8_room sized.room).symm)
    obtain ⟨helloPub, same⟩ := append_inj (append_cancel_left same)
      (sized'.helloPub.trans sized.helloPub.symm)
    obtain ⟨helloNonce, same⟩ := append_inj same (sized'.helloNonce.trans sized.helloNonce.symm)
    obtain ⟨replyPub, same⟩ := append_inj same (sized'.replyPub.trans sized.replyPub.symm)
    obtain ⟨replyNonce, same⟩ := append_inj same (sized'.replyNonce.trans sized.replyNonce.symm)
    have keys := identities_eq sized'.helloIdpub sized'.replyIdpub sized.helloIdpub
      sized.replyIdpub same
    obtain ⟨_, _, _, _, _, hello, reply⟩ := t
    obtain ⟨_, _, _, _, _, hello', reply'⟩ := t'
    cases utf8_injective channel
    cases hello <;> cases reply <;> cases hello' <;> cases reply' <;> simp_all

def plainHandshake (helloIdpub replyIdpub : Option Bytes) : Transcript where
  channelId := "gl-room-AAAA-AAAA-AAAA"
  helloPub := List.replicate 32 1
  helloNonce := List.replicate 16 2
  replyPub := List.replicate 32 3
  replyNonce := List.replicate 16 4
  helloIdpub
  replyIdpub

lemma plainHandshake_sized {a b : Option Bytes} (ha : ∀ key ∈ a, key.length = 32)
    (hb : ∀ key ∈ b, key.length = 32) : (plainHandshake a b).Sized :=
  ⟨(by decide : fullmatch Invites.roomIdPattern "gl-room-AAAA-AAAA-AAAA".toList), rfl, rfl,
    rfl, rfl, ha, hb⟩

theorem identified_transcript_binds :
    let t := plainHandshake (some (List.replicate 32 5)) (some (List.replicate 32 6))
    t.Sized ∧ ∀ t' : Transcript, t'.Sized → buildTranscript t' = buildTranscript t → t' = t := by
  intro t
  have sized : t.Sized := plainHandshake_sized (by simp) (by simp)
  exact ⟨sized, (transcript_binds_iff sized).mpr rfl⟩

theorem identity_changes_sides :
    let key : Bytes := List.replicate 32 5
    (plainHandshake (some key) none).Sized ∧ (plainHandshake none (some key)).Sized ∧
      buildTranscript (plainHandshake (some key) none) =
        buildTranscript (plainHandshake none (some key)) ∧
      (plainHandshake (some key) none).helloIdpub ≠ (plainHandshake none (some key)).helloIdpub :=
  ⟨plainHandshake_sized (by simp) (by simp), plainHandshake_sized (by simp) (by simp),
    by decide +kernel, by decide⟩

end Ghostlink.Messaging
