import Ghostlink.Base.Checks
import Ghostlink.Groups.Wire

/-! What is built to be sent is read back: inner frames and the bodies around sealed ones. The
assumptions about Python's conversions are collected in `WirePrimitives.Lawful`. -/

namespace Ghostlink.Groups
open Collections Text List Base64 String Checks

/-- Upper-casing leaves a fingerprint alone, and `int` reads what `str` wrote. -/
structure WirePrimitives.Lawful (W : WirePrimitives) : Prop where
  upper : ∀ f : Fingerprint, W.upper f.val = f.val
  int : ∀ n : ℕ, W.int (toString (n : ℤ)) = some (n : ℤ)

structure WirePrimitives.Readable (W : WirePrimitives) (ts : Seconds) : Prop where
  literal : Json.Scalar false (.float (W.reprFloat ts))
  reads : ∃ ts', W.float (W.strOther (.float (W.reprFloat ts))) = some ts'

variable {fields : List (String × Json)} {field : String} {P : Primitives} {sealed : Bytes}

lemma dictOf_entries (distinct : (fields.map Prod.fst).Nodup) :
    (dictOf fields).entries = fields := by
  induction fields using List.reverseRecOn with
  | nil => rfl
  | append_singleton fields field ih =>
    rw [map_append] at distinct
    have before := ih (distinct.sublist (sublist_append_left _ _))
    have absent : field.1 ∉ fields.map Prod.fst := fun mem =>
      (nodup_append.mp distinct).2.2 _ mem _ mem_cons_self rfl
    rw [← before] at absent
    rw [dictOf, foldl_append]
    show ((dictOf fields).set field.1 field.2).entries = _
    rw [Dict.set, dif_neg absent]
    show (dictOf fields).entries ++ [field] = _
    rw [before]

lemma get?_dictOf (distinct : (fields.map Prod.fst).Nodup) {v} (mem : (field, v) ∈ fields) :
    (dictOf fields).get? field = some v := by
  rwa [Dict.get?_eq_some_iff, dictOf_entries distinct]

lemma loadsBytes_dumpsBytes {ascii}
    (nonempty : fields ≠ []) (readable : ∀ f ∈ fields, Json.Field ascii f) :
    loadsBytes (dumpsBytes ascii fields) = some (.obj fields) := by
  rw [loadsBytes, dumpsBytes, utf8Decode_utf8Encode, Option.bind_some, toList_ofList]
  exact Json.loads_dumps nonempty readable

lemma length_dumpsBytes (ascii) (fields : List (String × Json)) :
    (dumpsBytes ascii fields).length = utf8Length (Json.dumps ascii (.obj fields)) :=
  length_utf8Encode _

lemma readable_of_unicode
    (scalar : ∀ f ∈ fields, Json.Scalar false f.2) : ∀ f ∈ fields, Json.Field false f :=
  fun f mem => ⟨fun _ _ ascii => (Bool.false_ne_true ascii).elim, scalar f mem⟩

lemma scalar_str (s) : Json.Scalar false (.str s) :=
  fun _ _ ascii => (Bool.false_ne_true ascii).elim

lemma scalar_int (ascii : Bool) (n : ℕ) : Json.Scalar ascii (.int n) := Int.natCast_nonneg n

lemma strip_fingerprint (f : Fingerprint) : strip f.val = f.val := by
  refine strip_of_forall fun c mem => Bool.eq_false_iff.mpr fun space => ?_
  -- no position of the pattern takes white space
  have other {t : String} (plain : ∀ d ∈ t.toList, isSpace d = false) {d} (mem : d ∈ t.toList) :
      (c == d) = false := by
    refine beq_false_of_ne ?_
    rintro rfl
    exact Bool.false_ne_true ((plain c mem).symm.trans space)
  have hex : isHexUpper c = false := by
    refine Bool.eq_false_iff.mpr fun inside => ?_
    have differs := other (t := "0123456789ABCDEF") (all_iff_forall_prop.mp (by decide))
      (contains_iff_mem.mp inside)
    simp at differs
  refine not_mem_of_fullmatch f.property ?_ mem
  intro p listed
  simp only [fingerprintPattern, lit, mem_append, mem_map, mem_replicate] at listed
  rcases listed with ((((⟨d, hd, rfl⟩ | ⟨-, rfl⟩) | ⟨d, hd, rfl⟩) | ⟨-, rfl⟩) | ⟨d, hd, rfl⟩) | ⟨-, rfl⟩
  · exact other (all_iff_forall_prop.mp (by decide)) hd
  · exact hex
  · exact other (all_iff_forall_prop.mp (by decide)) hd
  · exact hex
  · exact other (all_iff_forall_prop.mp (by decide)) hd
  · exact hex

lemma requireValidFingerprint_val (upper : ∀ f : Fingerprint, P.upper f.val = f.val)
    (f : Fingerprint) (field) : requireValidFingerprint P f.val field = .ok f := by
  have found : Fingerprint.ofString? f.val = some f := dif_pos f.property
  rw [requireValidFingerprint, strip_fingerprint, upper, found]

section Frames
variable {W : WirePrimitives}

variable {field : String} {f : GmsgFields}

lemma strField_eq {obj : Dict String Json} {s}
    (h : obj.get? field = some (.str s)) : strField W obj field = s := by
  rw [strField, h]
  rfl

lemma intField_eq (lawful : W.Lawful) {obj : Dict String Json} {n : ℕ}
    (h : obj.get? field = some (.int n)) : intField W obj field = some (n : ℤ) := by
  rw [intField, h]
  exact lawful.int n

def contextFrame (t : FrameType) (group : GroupId) (epoch : ℕ) (sender : Fingerprint)
    (recipient : String) : GroupInnerFrame :=
  { frameType := t, groupId := group, epoch, sender, recipient,
    messageId := "", gseq := 0, displayName := "", text := "", ts := 0, gen := 0, root := "",
    index := 0 }

lemma parseContext_eq (lawful : W.Lawful) (obj : Dict String Json) (t : FrameType)
    (group : GroupId) (epoch : ℕ) (sender : Fingerprint) (recipient : String)
    (hgroup : obj.get? "group" = some (.str group.val))
    (hepoch : obj.get? "epoch" = some (.int epoch)) (positive : 1 ≤ epoch)
    (hsender : obj.get? "from" = some (.str sender.val))
    (hrecipient : obj.get? "to" = some (.str recipient))
    (addressed : t = .gmsg ∧ recipient = groupBroadcastRecipient ∨
      ∃ f : Fingerprint, recipient = f.val) :
    parseContext W obj t = .ok (contextFrame t group epoch sender recipient) := by
  have started : ¬ ((epoch : ℤ) < 1) := by omega
  unfold parseContext
  rw [strField_eq hgroup, GroupId.ofString?_val, intField_eq lawful hepoch, strField_eq hsender,
    strField_eq hrecipient]
  simp only [started, if_false, requireValidFingerprint_val lawful.upper, pure_bind]
  split_ifs with broadcast
  · rw [broadcast.2]
    rfl
  · obtain ⟨f, rfl⟩ := addressed.resolve_left broadcast
    rw [requireValidFingerprint_val lawful.upper]
    rfl

lemma parseInnerFrame_eq {t : FrameType} (named : fields.map Prod.fst = t.requiredFields)
    (scalar : ∀ f ∈ fields, Json.Scalar false f.2)
    (typed : (dictOf fields).get? "t" = some (.str t.value))
    (version : (dictOf fields).get? "v" = some (.int 1))
    (short : (dumpsBytes false fields).length ≤ groupMsgMaxBytes * 3) {frame}
    (context : parseContext W (dictOf fields) t = .ok frame) :
    parseInnerFrame W (dumpsBytes false fields) = parsePayload W (dictOf fields) frame := by
  have distinct : (fields.map Prod.fst).Nodup := by
    rw [named]
    cases t <;> decide
  have nonempty : fields ≠ [] := by
    rintro rfl
    cases t <;> exact nomatch named
  have entries := dictOf_entries distinct
  have loaded := loadsBytes_dumpsBytes nonempty (readable_of_unicode scalar)
  have some' : dumpsBytes false fields ≠ [] := by
    intro empty
    rw [empty] at loaded
    exact nomatch loaded
  have known : FrameType.ofString? t.value = some t := by
    cases t <;> decide
  have missing : (t.requiredFields.filter fun field => !(dictOf fields).contains field) = [] := by
    refine filter_eq_nil_iff.mpr fun field mem => ?_
    have listed : field ∈ (dictOf fields).keys := by
      rwa [Dict.keys, entries, named]
    cases absent : (dictOf fields).get? field with
    | none => exact absurd listed ((Dict.get?_eq_none_iff _ _).mp absent)
    | some =>
      rw [Dict.contains, absent]
      exact Bool.false_ne_true
  have extra : ((dictOf fields).keys.filter fun field => field ∉ t.requiredFields) = [] := by
    refine filter_eq_nil_iff.mpr fun field mem => ?_
    rw [Dict.keys, entries, named] at mem
    simpa using mem
  unfold parseInnerFrame
  simp only [some', false_or, Nat.not_lt.mpr short, if_false, loaded, strField_eq typed, known,
    missing, extra, ne_eq, not_true_eq_false, version, Option.any_some, WirePrimitives.isOne,
    context]
  rfl

def GmsgFields.frame (f : GmsgFields) (ts : Seconds) : GroupInnerFrame :=
  { contextFrame .gmsg f.group f.epoch f.sender f.recipient with
    messageId := f.id.val, gseq := f.gseq, displayName := f.name, text := f.text, ts }

lemma gmsgFields_names (f) : (gmsgFields W f).map Prod.fst = FrameType.requiredFields .gmsg := rfl

lemma get?_gmsgFields {v}
    (mem : (field, v) ∈ gmsgFields W f) : (dictOf (gmsgFields W f)).get? field = some v := by
  refine get?_dictOf ?_ mem
  rw [gmsgFields_names]
  decide

lemma parseContext_gmsg (lawful : W.Lawful) (positive : 1 ≤ f.epoch)
    (addressed : f.recipient = groupBroadcastRecipient ∨
      ∃ g : Fingerprint, f.recipient = g.val) : parseContext W (dictOf (gmsgFields W f)) .gmsg =
      .ok (contextFrame .gmsg f.group f.epoch f.sender f.recipient) := by
  apply parseContext_eq lawful
  · exact get?_gmsgFields (by simp [gmsgFields, baseFields])
  · exact get?_gmsgFields (by simp [gmsgFields, baseFields])
  · exact positive
  · exact get?_gmsgFields (by simp [gmsgFields, baseFields])
  · exact get?_gmsgFields (by simp [gmsgFields, baseFields])
  · exact addressed.imp_left fun h => ⟨rfl, h⟩

lemma name_readable {name : String}
    (named : validateGroupDisplayName name "display name" = .ok name) :
    ¬ (name.toList.any isControl ∨
      ¬ (0 < name.toList.length ∧ name.toList.length ≤ 24)) := by
  unfold validateGroupDisplayName at named
  dsimp only at named
  split_ifs at named with length printable
  have same : strip name = name := Except.ok.inj named
  rw [same] at length printable
  exact not_or.mpr ⟨printable, not_not.mpr length⟩

lemma parsePayload_gmsg (lawful : W.Lawful)
    (named : validateGroupDisplayName f.name "display name" = .ok f.name)
    (text : f.text.utf8ByteSize ≤ groupMsgMaxBytes) {ts}
    (reads : W.float (W.strOther (.float (W.reprFloat f.ts))) = some ts) :
    parsePayload W (dictOf (gmsgFields W f))
      (contextFrame .gmsg f.group f.epoch f.sender f.recipient) = .ok (f.frame ts) := by
  have hid : strField W (dictOf (gmsgFields W f)) "id" = f.id.val :=
    strField_eq (get?_gmsgFields (by simp [gmsgFields]))
  have hname : strField W (dictOf (gmsgFields W f)) "name" = f.name :=
    strField_eq (get?_gmsgFields (by simp [gmsgFields]))
  have htext : strField W (dictOf (gmsgFields W f)) "text" = f.text :=
    strField_eq (get?_gmsgFields (by simp [gmsgFields]))
  have hgseq : intField W (dictOf (gmsgFields W f)) "gseq" = some (f.gseq : ℤ) :=
    intField_eq lawful (get?_gmsgFields (by simp [gmsgFields]))
  have hts : floatField W (dictOf (gmsgFields W f)) "ts" = some ts := by
    have there : (dictOf (gmsgFields W f)).get? "ts" = some (.float (W.reprFloat f.ts)) :=
      get?_gmsgFields (by simp [gmsgFields])
    rw [floatField, there]
    exact reads
  generalize dictOf (gmsgFields W f) = obj at *
  simp only [parsePayload, contextFrame, hid, hname, htext, hgseq, hts, f.id.property,
    name_readable named, Nat.not_lt.mpr text, not_true_eq_false, if_false]
  rfl

lemma scalar_gmsgFields (time : W.Readable f.ts) :
    ∀ e ∈ gmsgFields W f, Json.Scalar false e.2 := by
  have one : Json.Scalar false (.int 1) := scalar_int false 1
  simp [gmsgFields, baseFields, scalar_str, scalar_int, one, time.literal]

lemma parseInnerFrame_gmsg (lawful : W.Lawful) (positive : 1 ≤ f.epoch)
    (addressed : f.recipient = groupBroadcastRecipient ∨ ∃ g : Fingerprint, f.recipient = g.val)
    (named : validateGroupDisplayName f.name "display name" = .ok f.name)
    (text : f.text.utf8ByteSize ≤ groupMsgMaxBytes) (time : W.Readable f.ts)
    (short : (gmsgBytes W f).length ≤ groupMsgMaxBytes * 3) :
    ∃ ts, parseInnerFrame W (gmsgBytes W f) = .ok (f.frame ts) := by
  obtain ⟨ts, reads⟩ := time.reads
  have scalar := scalar_gmsgFields time
  have typed : (dictOf (gmsgFields W f)).get? "t" = some (.str (FrameType.value .gmsg)) :=
    get?_gmsgFields (by simp [gmsgFields, baseFields])
  have version : (dictOf (gmsgFields W f)).get? "v" = some (.int 1) :=
    get?_gmsgFields (by simp [gmsgFields, baseFields])
  have parsed := parseInnerFrame_eq (gmsgFields_names f) scalar typed version short
    (parseContext_gmsg lawful positive addressed)
  exact ⟨ts, parsed.trans (parsePayload_gmsg lawful named text reads)⟩

end Frames

lemma plain_of_mem_base64 {bytes : Bytes} {c : Char} (mem : c ∈ encode bytes) :
    c ≠ '"' ∧ c ≠ '\\' ∧ 32 ≤ c.toNat ∧ c.toNat < 127 := by
  have all : ∀ d ∈ '=' :: alphabet,
      d ≠ '"' ∧ d ≠ '\\' ∧ 32 ≤ d.toNat ∧ d.toNat < 127 :=
    all_iff_forall_prop.mp (by decide +kernel)
  rcases mem_encode mem with listed | rfl
  · exact all c (mem_cons_of_mem _ listed)
  · exact all '=' mem_cons_self

lemma scalar_b64text (bytes) : Json.Scalar true (b64text bytes) := by
  intro c mem _
  rw [toList_ofList] at mem
  exact (plain_of_mem_base64 mem).2.2.2

def skmsgFields (gen seq : ℕ) (sealed : Bytes) : List (String × Json) :=
  [("g", .int gen), ("s", .int seq), ("f", b64text sealed)]

variable {gen seq maxSealed : ℕ} {obj : Dict String Json} {raw : Bytes}

lemma skmsgBody_eq (hg : 1 ≤ gen) (hs : 1 ≤ seq) (sealed) :
    skmsgBody gen seq sealed = .ok (dumpsBytes true (skmsgFields gen seq sealed)) :=
  if_neg (not_or.mpr ⟨Nat.not_lt.mpr hg, Nat.not_lt.mpr hs⟩)

lemma positiveField_eq {n : ℕ} (positive : 1 ≤ n)
    (h : obj.get? field = some (.int n)) : positiveField obj field = some n := by
  have large : (1 : ℤ) ≤ n := Int.ofNat_le.mpr positive
  simp [positiveField, h, large]

lemma sealedField_eq {content} (h : obj.get? "f" = some (b64text sealed)) (nonempty : sealed ≠ [])
    {r} : sealedField obj content maxSealed = .ok r ↔ sealed.length ≤ maxSealed ∧ r = sealed := by
  have positive : 0 < sealed.length := length_pos_iff.mpr nonempty
  have decoded : decode (ofList (encode sealed)).toList = some sealed := by
    rw [toList_ofList, decode_encode]
  rw [b64text] at h
  simp only [sealedField, h, decoded]
  rw [throw_else_eq_ok, not_not, pure_eq_ok, and_iff_right positive,
    eq_comm]

lemma loadBody_skmsg {body} : loadBody (dumpsBytes true (skmsgFields gen seq sealed)) body =
      .ok (dictOf (skmsgFields gen seq sealed)) := by
  have readable : ∀ f ∈ skmsgFields gen seq sealed, Json.Field true f := by
    have keys : ∀ key ∈ ["g", "s", "f"], ∀ c ∈ key.toList, true → c.toNat < 127 := by
      have plain : (["g", "s", "f"].all fun key =>
          key.toList.all fun c => decide (c.toNat < 127)) := by decide
      simp only [all_eq_true, decide_eq_true_eq] at plain
      exact fun key mem c inside _ => plain key mem c inside
    intro f mem
    simp only [skmsgFields, mem_cons, not_mem_nil, or_false] at mem
    rcases mem with rfl | rfl | rfl
    · exact ⟨keys "g" (by decide), scalar_int true gen⟩
    · exact ⟨keys "s" (by decide), scalar_int true seq⟩
    · exact ⟨keys "f" (by decide), scalar_b64text sealed⟩
  have nonempty : skmsgFields gen seq sealed ≠ [] := cons_ne_nil _ _
  rw [loadBody, loadsBytes_dumpsBytes nonempty readable]
  rfl

lemma parseSkmsgBody_eq (hg : 1 ≤ gen) (hs : 1 ≤ seq) (nonempty : sealed ≠ []) {r : ℕ × ℕ × Bytes} :
    parseSkmsgBody (dumpsBytes true (skmsgFields gen seq sealed)) maxSealed = .ok r ↔
      sealed.length ≤ maxSealed ∧ r = (gen, seq, sealed) := by
  have get {field : String} {v : Json} (mem : (field, v) ∈ skmsgFields gen seq sealed) :
      (dictOf (skmsgFields gen seq sealed)).get? field = some v :=
    get?_dictOf (by show ["g", "s", "f"].Nodup; decide) mem
  have g := positiveField_eq hg (get (mem_cons_self))
  have s := positiveField_eq hs (get (mem_cons_of_mem _ mem_cons_self))
  have f := get (mem_cons_of_mem _ (mem_cons_of_mem _ mem_cons_self))
  unfold parseSkmsgBody
  simp only [loadBody_skmsg, bind_eq_ok, pure_eq_ok, Except.ok.injEq,
    exists_eq_left', g, s, sealedField_eq f nonempty]
  constructor
  · rintro ⟨_, ⟨short, rfl⟩, rfl⟩
    exact ⟨short, rfl⟩
  · rintro ⟨short, rfl⟩
    exact ⟨sealed, ⟨short, rfl⟩, rfl⟩

lemma requireStr_eq_ok {value : String} {maxLength u} : requireStr value field maxLength = .ok u ↔
      0 < value.toList.length ∧ value.toList.length ≤ maxLength := by
  rw [requireStr, else_throw_eq_ok]
  exact and_iff_left rfl

lemma requireB64_eq_ok {maxDecoded} (nonempty : raw ≠ []) {u} :
    requireB64 (ofList (encode raw)) maxDecoded = .ok u ↔
      raw.length ≤ maxDecoded := by
  have positive : 0 < raw.length := length_pos_iff.mpr nonempty
  rw [requireB64, toList_ofList, decode_encode, else_throw_eq_ok]
  simp only [positive, true_and]
  exact and_iff_left rfl

lemma requireFingerprintField_val
    (upper : ∀ f : Fingerprint, P.upper f.val = f.val) (f : Fingerprint) (field) :
    requireFingerprintField P f.val field = .ok () := by
  have length : f.val.toList.length = 19 := length_of_fullmatch f.property
  have sized : requireStr f.val field 40 = .ok () :=
    requireStr_eq_ok.mpr ⟨by omega, by omega⟩
  have valid : isValidFingerprint P f.val := by
    rw [isValidFingerprint, strip_fingerprint, upper]
    exact f.property
  simp only [requireFingerprintField, sized, valid, not_true_eq_false, if_false]
  rfl

lemma validateGroupForward_eq_ok
    (upper : ∀ f : Fingerprint, P.upper f.val = f.val) {group : GroupId} {epoch : ℕ}
    (positive : 1 ≤ epoch) {sender recipient : Fingerprint} {kind : String}
    (message : kind = kindMsg ∨ kind = kindSkmsg) (nonempty : raw ≠ []) : validateGroupForward P
        { group := group.val, epoch, sender := sender.val, recipient := recipient.val,
          kind, body := ofList (encode raw) } = .ok () ↔
      raw.length ≤ groupForwardBodyMax := by
  have length : group.val.toList.length = 23 := length_of_fullmatch group.property
  have grouped : requireStr group.val "group" 64 = .ok () :=
    requireStr_eq_ok.mpr ⟨by omega, by omega⟩
  have known : kind ∈ groupForwardKinds ∧ requireStr kind "kind" 8 = .ok () := by
    rcases message with rfl | rfl <;> decide
  have bytes : 0 < raw.length := length_pos_iff.mpr nonempty
  have encoded : (ofList (encode raw)).toList.length = 4 * ((raw.length + 2) / 3) := by
    rw [toList_ofList, length_encode]
  unfold validateGroupForward
  simp only [grouped, group.property, Nat.not_lt.mpr positive, requireFingerprintField_val upper,
    known, message, not_true_eq_false, if_false, if_true, bind_eq_ok, requireStr_eq_ok,
    encoded, requireB64_eq_ok nonempty, true_and, exists_const, groupForwardBodyB64Max,
    groupForwardBodyMax]
  omega

end Ghostlink.Groups
