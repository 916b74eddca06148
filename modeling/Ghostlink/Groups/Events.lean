import Ghostlink.Groups.Identifiers

/-! Signed roster events and the texts that are signed. The event kinds, the canonical
forms and the verification rule are those shared by the relay and its clients. -/

namespace Ghostlink.Groups
open Text

inductive GroupEventKind
  | join | left | removed | dissolved
  deriving DecidableEq, Repr

def GroupEventKind.value : GroupEventKind → String
  | .join => "join"
  | .left => "left"
  | .removed => "removed"
  | .dissolved => "dissolved"

def GroupEventKind.ofValue? (s : String) : Option GroupEventKind :=
  [join, left, removed, dissolved].find? fun k => k.value = s

lemma GroupEventKind.ofValue?_value (k : GroupEventKind) : ofValue? k.value = some k := by
  cases k <;> decide

lemma GroupEventKind.bar_not_mem (k : GroupEventKind) : '|' ∉ k.value.toList := by
  cases k <;> decide

structure Moment where
  year : ℕ
  month : ℕ
  day : ℕ
  hour : ℕ
  minute : ℕ
  second : ℕ
  microsecond : ℕ
  deriving DecidableEq, Repr

def padded (width n : ℕ) : String :=
  let digits := Nat.repr n
  String.ofList (List.replicate (width - digits.length) '0' ++ digits.toList)

def Moment.isoformat (t : Moment) : String :=
  s!"{padded 4 t.year}-{padded 2 t.month}-{padded 2 t.day}T" ++
    s!"{padded 2 t.hour}:{padded 2 t.minute}:{padded 2 t.second}" ++
    (if t.microsecond = 0 then "" else "." ++ padded 6 t.microsecond) ++ "+00:00"

lemma bar_not_mem_digits (n) : '|' ∉ Nat.toDigits 10 n := by
  intro h
  have hd : ('|').isDigit := Nat.isDigit_of_mem_toDigits (by decide) (by decide) h
  exact absurd hd (by decide)

lemma bar_not_mem_padded (w n) : '|' ∉ (padded w n).toList := by
  simp [padded, bar_not_mem_digits]

lemma Moment.bar_not_mem (t : Moment) : '|' ∉ t.isoformat.toList := by
  unfold isoformat
  split_ifs <;> simp [bar_not_mem_padded, toString]

def canonicalCreateForm (name attestNonce : String) : ByteArray :=
  s!"ghostlink/group-create/v1|{name}|{attestNonce}".toUTF8

def canonicalAttestForm (groupId fingerprint attestNonce : String) : ByteArray :=
  s!"ghostlink/group-attest/v1|{groupId}|{fingerprint}|{attestNonce}".toUTF8

def eventPrefix : String := "ghostlink/group-event/v1"

def canonicalEventString (groupId : String) (epoch : ℕ) (kind subject stamp : String) : String :=
  "|".intercalate [eventPrefix, groupId, Nat.repr epoch, kind, subject, stamp]

def canonicalEventForm (groupId : GroupId) (epoch : ℕ) (kind : GroupEventKind)
    (subject : Fingerprint) (wallTs : Moment) : ByteArray :=
  (canonicalEventString groupId.val epoch kind.value subject.val wallTs.isoformat).toUTF8

lemma split_canonicalEventString (groupId : GroupId) (epoch) (kind : GroupEventKind)
    (subject : Fingerprint) (wallTs : Moment) :
    (canonicalEventString groupId.val epoch kind.value subject.val
        wallTs.isoformat).toList.splitOn '|' =
      [eventPrefix, groupId.val, Nat.repr epoch, kind.value, subject.val,
        wallTs.isoformat].map String.toList := by
  apply splitOn_joined (List.cons_ne_nil _ _)
  simp only [List.mem_cons, List.not_mem_nil, or_false, forall_eq_or_imp, forall_eq]
  exact ⟨by decide, groupId.bar_not_mem, by rw [Nat.toList_repr]; exact bar_not_mem_digits epoch, kind.bar_not_mem,
    subject.bar_not_mem, wallTs.bar_not_mem⟩

structure GroupEvent where
  groupId : GroupId
  epoch : ℕ
  kind : GroupEventKind
  subjectFingerprint : Fingerprint
  wallTs : Moment
  signerFingerprint : Fingerprint
  signature : Bytes
  epoch_pos : 1 ≤ epoch

def GroupEvent.canonical (e : GroupEvent) : ByteArray :=
  canonicalEventForm e.groupId e.epoch e.kind e.subjectFingerprint e.wallTs

def verifySignature (P : Primitives) (publicKey signature : Bytes) (message : ByteArray) : Bool :=
  if publicKey.length ≠ 32 ∨ signature = [] then false
  else P.ed25519Verify publicKey signature message

end Ghostlink.Groups
