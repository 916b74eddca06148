import Ghostlink.Base.Checks
import Ghostlink.Base.Octets
import Ghostlink.Base.Text

/-! WebSocket frames as one end writes them and the other reads them. The masking key, which the
writer draws, is an argument of the call; the stream is the list of the bytes still to be read. -/

namespace Ghostlink.Transport
open Octets

abbrev Bytes := List UInt8
abbrev MaskKey := Vector UInt8 4

inductive Opcode
  | continuation | text | binary | close | ping | pong
  deriving DecidableEq, Repr

namespace Opcode

def value : Opcode → UInt8
  | continuation => 0x0
  | text => 0x1
  | binary => 0x2
  | close => 0x8
  | ping => 0x9
  | pong => 0xA

def all : List Opcode := [continuation, text, binary, close, ping, pong]

def control : List Opcode := [close, ping, pong]

end Opcode

def maxControlPayload : ℕ := 125

inductive WebSocketError
  | connectionClosed (message : String) (code : Option ℕ)
  | protocol (message : String)
  | packing
  deriving DecidableEq, Repr

structure Frame where
  fin : Bool
  opcode : UInt8
  payload : Bytes
  deriving DecidableEq, Repr

def mask (payload key : Bytes) : Bytes := payload.mapIdx fun i byte => byte ^^^ key.getD (i &&& 3) 0

structure WebSocketConnection where
  maskOutgoing : Bool
  expectMasked : Bool
  maxMessageBytes : ℕ
  closed : Bool
  closeSent : Bool
  closeCode : Option ℕ

namespace WebSocketConnection
variable (c : WebSocketConnection)

/-- The first two bytes and the length that may follow them. A length of more than eight bytes is
refused by `struct.pack`. -/
def header (opcode : Opcode) (fin : Bool) (length : ℕ) : Except WebSocketError Bytes :=
  let first := (if fin then 0x80 else 0x00) ||| opcode.value
  let maskBit : UInt8 := if c.maskOutgoing then 0x80 else 0x00
  if length < 126 then .ok [first, maskBit ||| UInt8.ofNat length]
  else if length ≤ 0xFFFF then .ok (first :: (maskBit ||| 126) :: pack 2 length)
  else if length < 256 ^ 8 then .ok (first :: (maskBit ||| 127) :: pack 8 length)
  else .error .packing

def sendFrame (opcode : Opcode) (payload : Bytes) (fin : Bool) (key : MaskKey) :
    Except WebSocketError Bytes := do
  if c.closed ∧ opcode ≠ .close then
    throw (.connectionClosed "Cannot send: the connection is closed." none)
  if opcode ∈ Opcode.control ∧ fin = false then
    throw (.protocol "Control frames must not be fragmented.")
  if opcode ∈ Opcode.control ∧ maxControlPayload < payload.length then
    throw (.protocol "Control frame payload exceeds 125 bytes.")
  let header ← c.header opcode fin payload.length
  if c.maskOutgoing then pure (header ++ key.toList ++ mask payload key.toList)
  else pure (header ++ payload)

structure Refusal where
  error : WebSocketError
  closing : Option (ℕ × String)
  deriving DecidableEq, Repr

def refusal (code : ℕ) (reason message : String) : Refusal where
  error := .protocol message
  closing := some (code, reason)

def readExactly (n : ℕ) (stream : Bytes) : Except Refusal (Bytes × Bytes) :=
  match exactly n stream with
  | some read => .ok read
  | none => .error
    { error := .connectionClosed "Peer disconnected mid-frame." c.closeCode, closing := none }

def readLength (length7 : UInt8) (stream : Bytes) : Except Refusal (ℕ × Bytes) := do
  if length7 = 126 then
    let (length, stream) ← c.readExactly 2 stream
    pure (unpack length, stream)
  else if length7 = 127 then
    let (length, stream) ← c.readExactly 8 stream
    pure (unpack length, stream)
  else pure (length7.toNat, stream)

def readPayload (masked : Bool) (length : ℕ) (stream : Bytes) : Except Refusal (Bytes × Bytes) := do
  if masked then
    let (key, stream) ← c.readExactly 4 stream
    let (payload, stream) ← c.readExactly length stream
    pure (mask payload key, stream)
  else c.readExactly length stream

def readFrame (stream : Bytes) : Except Refusal (Frame × Bytes) := do
  let (header, stream) ← c.readExactly 2 stream
  let first := header.getD 0 0
  let second := header.getD 1 0
  let fin := first &&& 0x80 != 0
  if first &&& 0x70 ≠ 0 then
    throw { error := .protocol "Reserved frame bits are set (RSV non-zero).", closing := none }
  let opcode := first &&& 0x0F
  if opcode ∉ Opcode.all.map Opcode.value then
    let digit := Text.hexUpper ⟨opcode.toNat % 16, Nat.mod_lt _ (by decide)⟩
    throw (refusal 1002 "unknown opcode" s!"Unknown frame opcode 0x{digit}.")
  let masked := second &&& 0x80 != 0
  if masked ≠ c.expectMasked then
    let required := if c.expectMasked then "masked" else "unmasked"
    throw (refusal 1002 "masking violation" s!"Frames from this peer must be {required}.")
  let (length, stream) ← c.readLength (second &&& 0x7F) stream
  if opcode ∈ Opcode.control.map Opcode.value ∧ fin = false then
    throw (refusal 1002 "fragmented control frame" "Control frames must not be fragmented.")
  if opcode ∈ Opcode.control.map Opcode.value ∧ maxControlPayload < length then
    throw (refusal 1002 "oversized control frame" "Control frame payload exceeds 125 bytes.")
  if c.maxMessageBytes < length then
    throw (refusal 1009 "message too large"
      s!"Frame payload exceeds {c.maxMessageBytes} bytes.")
  let (payload, stream) ← c.readPayload masked length stream
  pure ({ fin, opcode, payload }, stream)

lemma length_mask (payload key : Bytes) : (mask payload key).length = payload.length :=
  List.length_mapIdx

lemma mask_mask (payload key) : mask (mask payload key) key = payload := by
  rw [mask, mask, List.mapIdx_mapIdx]
  apply List.ext_getElem
  · exact List.length_mapIdx
  · intro i _ _
    rw [List.getElem_mapIdx, Function.comp_apply, UInt8.xor_assoc, UInt8.xor_self, UInt8.xor_zero]

lemma first_byte (fin : Bool) (opcode : Opcode) :
    let first := (if fin then 0x80 else 0x00) ||| opcode.value
    first &&& 0x70 = 0 ∧ (first &&& 0x80 != 0) = fin ∧ first &&& 0x0F = opcode.value := by
  cases fin <;> cases opcode <;> decide

variable {length7 : UInt8} {r : WebSocketConnection}

lemma second_byte (masked : Bool) (small : length7.toNat < 128) :
    let second := (if masked then 0x80 else 0x00) ||| length7
    (second &&& 0x80 != 0) = masked ∧ second &&& 0x7F = length7 := by
  have all : ∀ masked : Bool, ∀ m : Fin 128,
      let second := (if masked then 0x80 else 0x00) ||| UInt8.ofNat m
      (second &&& 0x80 != 0) = masked ∧ second &&& 0x7F = UInt8.ofNat m := by decide +kernel
  have byte := all masked ⟨length7.toNat, small⟩
  rwa [UInt8.ofNat_toNat] at byte

lemma control_value (opcode : Opcode) :
    opcode.value ∈ Opcode.control.map Opcode.value ↔ opcode ∈ Opcode.control := by
  cases opcode <;> decide

lemma value_mem (opcode : Opcode) : opcode.value ∈ Opcode.all.map Opcode.value := by
  cases opcode <;> decide

variable {c : WebSocketConnection} {opcode : Opcode} {fin : Bool} {length : ℕ} {bytes : Bytes}

lemma readExactly_append {n} (size : bytes.length = n) (rest) :
    c.readExactly n (bytes ++ rest) = .ok (bytes, rest) := by
  rw [readExactly, exactly_append size]

lemma readLength_two (fits : length ≤ 0xFFFF) (rest) :
    c.readLength 126 (pack 2 length ++ rest) = .ok (length, rest) := by
  have read := readExactly_append (c := c) (length_pack 2 length) rest
  have same : unpack (pack 2 length) = length := unpack_pack (Nat.lt_succ_of_le fits)
  rw [readLength, if_pos rfl, read]
  exact congrArg (fun n => Except.ok (n, rest)) same

lemma readLength_eight (fits : length < 256 ^ 8) (rest) :
    c.readLength 127 (pack 8 length ++ rest) = .ok (length, rest) := by
  have read := readExactly_append (c := c) (length_pack 8 length) rest
  have other : (127 : UInt8) ≠ 126 := by decide
  rw [readLength, if_neg other, if_pos rfl, read]
  exact congrArg (fun n => Except.ok (n, rest)) (unpack_pack fits)

lemma readLength_short (short : length < 126) (rest) :
    c.readLength (UInt8.ofNat length) rest = .ok (length, rest) := by
  have back : (UInt8.ofNat length).toNat = length := by
    rw [UInt8.toNat_ofNat']
    exact Nat.mod_eq_of_lt (by omega)
  have ne {byte : UInt8} (large : 126 ≤ byte.toNat) : UInt8.ofNat length ≠ byte := by
    intro same
    rw [← same, back] at large
    omega
  rw [readLength, if_neg (ne (by decide)), if_neg (ne (by decide)), back]
  rfl

lemma header_cases (accepted : c.header opcode fin length = .ok bytes) :
    ∃ length7 : UInt8, length7.toNat < 128 ∧ ∃ tail,
      bytes = ((if fin then 0x80 else 0x00) ||| opcode.value) ::
        ((if c.maskOutgoing then 0x80 else 0x00) ||| length7) :: tail ∧
      ∀ (r : WebSocketConnection) (rest : Bytes),
        r.readLength length7 (tail ++ rest) = .ok (length, rest) := by
  rw [header] at accepted
  split at accepted
  · rename_i short
    have small : (UInt8.ofNat length).toNat < 128 := by
      rw [UInt8.toNat_ofNat']
      omega
    cases accepted
    exact ⟨UInt8.ofNat length, small, [], rfl, fun r rest => readLength_short short rest⟩
  · split at accepted
    · rename_i fits
      cases accepted
      exact ⟨126, by decide, pack 2 length, rfl, fun r rest => readLength_two fits rest⟩
    · split at accepted
      · rename_i fits
        cases accepted
        exact ⟨127, by decide, pack 8 length, rfl, fun r rest => readLength_eight fits rest⟩
      · cases accepted

def wirePayload (c : WebSocketConnection) (payload : Bytes) (key : MaskKey) : Bytes :=
  if c.maskOutgoing then key.toList ++ mask payload key.toList else payload

lemma readPayload_wirePayload (r : WebSocketConnection) (payload : Bytes) (key rest) :
    r.readPayload c.maskOutgoing payload.length (c.wirePayload payload key ++ rest) =
      .ok (payload, rest) := by
  cases masking : c.maskOutgoing with
  | false =>
    rw [wirePayload, masking, readPayload]
    exact readExactly_append rfl rest
  | true =>
    have readKey : r.readExactly 4 (key.toList ++ (mask payload key.toList ++ rest)) =
        .ok (key.toList, mask payload key.toList ++ rest) :=
      readExactly_append Vector.length_toList _
    have readMasked : r.readExactly payload.length (mask payload key.toList ++ rest) =
        .ok (mask payload key.toList, rest) :=
      readExactly_append (length_mask payload key.toList) rest
    rw [wirePayload, masking, if_pos rfl, List.append_assoc, readPayload, if_pos rfl, readKey]
    simp only [bind, Except.bind, readMasked, mask_mask]
    rfl

variable {payload : Bytes}

lemma sendFrame_eq_ok {key} (accepted : c.sendFrame opcode payload fin key = .ok bytes) :
    (opcode ∈ Opcode.control → fin ∧ payload.length ≤ maxControlPayload) ∧
      ∃ header, c.header opcode fin payload.length = .ok header ∧
        bytes = header ++ c.wirePayload payload key := by
  simp only [sendFrame, Checks.refuse_eq_ok, Checks.bind_eq_ok, not_and, not_lt] at accepted
  obtain ⟨-, whole, short, header, made, written⟩ := accepted
  refine ⟨fun control => ⟨Bool.eq_true_of_not_eq_false (whole control), short control⟩,
    header, made, ?_⟩
  rw [wirePayload]
  split at written
  · rename_i masking
    rw [if_pos masking, ← List.append_assoc]
    exact (Checks.pure_eq_ok.mp written).symm
  · rename_i masking
    rw [if_neg masking]
    exact (Checks.pure_eq_ok.mp written).symm

lemma readFrame_of_parts {tail key} (small : length7.toNat < 128)
    (readTail : ∀ (r : WebSocketConnection) (rest : Bytes),
      r.readLength length7 (tail ++ rest) = .ok (payload.length, rest))
    (control : opcode ∈ Opcode.control → fin ∧ payload.length ≤ maxControlPayload)
    (agree : r.expectMasked = c.maskOutgoing) (rest) :
    r.readFrame ((((if fin then 0x80 else 0x00) ||| opcode.value) ::
        ((if c.maskOutgoing then 0x80 else 0x00) ||| length7) :: tail) ++
          c.wirePayload payload key ++ rest) =
      if r.maxMessageBytes < payload.length then
        .error (refusal 1009 "message too large" s!"Frame payload exceeds {r.maxMessageBytes} bytes.")
      else .ok ({ fin, opcode := opcode.value, payload }, rest) := by
  obtain ⟨reserved, final, kind⟩ := first_byte fin opcode
  obtain ⟨masked, seven⟩ := second_byte c.maskOutgoing small
  have whole : ¬ (opcode ∈ Opcode.control ∧ fin = false) := by
    rintro ⟨isControl, fragment⟩
    rw [(control isControl).1] at fragment
    cases fragment
  have short : ¬ (opcode ∈ Opcode.control ∧ maxControlPayload < payload.length) := by
    rintro ⟨isControl, long⟩
    exact absurd (control isControl).2 (Nat.not_le.mpr long)
  generalize (if fin then 0x80 else 0x00) ||| opcode.value = first at *
  generalize (if c.maskOutgoing then 0x80 else 0x00) ||| length7 = second at *
  have two : [first, second].length = 2 := rfl
  have front := readExactly_append (c := r) two (tail ++ (c.wirePayload payload key ++ rest))
  have readHeader : r.readExactly 2
      ((first :: second :: tail) ++ c.wirePayload payload key ++ rest) =
        .ok ([first, second], tail ++ (c.wirePayload payload key ++ rest)) := by
    rw [List.append_assoc]
    exact front
  by_cases large : r.maxMessageBytes < payload.length
  · simp only [readFrame, readHeader, List.getD_cons_zero, List.getD_cons_succ, bind, Except.bind,
      reserved, final, kind, masked, seven, readTail, agree, value_mem, control_value, whole, short,
      large, ne_eq, not_true_eq_false, if_false, if_true]
    rfl
  · simp only [readFrame, readHeader, List.getD_cons_zero, List.getD_cons_succ, bind, Except.bind,
      reserved, final, kind, masked, seven, readTail, agree, value_mem, control_value, whole, short,
      large, readPayload_wirePayload, ne_eq, not_true_eq_false, if_false]
    rfl

lemma readFrame_sendFrame {key} (accepted : c.sendFrame opcode payload fin key = .ok bytes)
    (agree : r.expectMasked = c.maskOutgoing) (limit : payload.length ≤ r.maxMessageBytes) (rest) :
    r.readFrame (bytes ++ rest) =
      .ok ({ fin, opcode := opcode.value, payload }, rest) := by
  obtain ⟨control, header, made, rfl⟩ := sendFrame_eq_ok accepted
  obtain ⟨length7, small, tail, rfl, readTail⟩ := header_cases made
  rw [readFrame_of_parts small readTail control agree, if_neg (Nat.not_lt.mpr limit)]

structure Sending where
  opcode : Opcode
  payload : Bytes
  fin : Bool
  key : MaskKey

def Sending.frame (f : Sending) : Frame where
  fin := f.fin
  opcode := f.opcode.value
  payload := f.payload

def sendFrames (c : WebSocketConnection) : List Sending → Except WebSocketError Bytes
  | [] => .ok []
  | f :: frames => do
    let written ← c.sendFrame f.opcode f.payload f.fin f.key
    let later ← c.sendFrames frames
    pure (written ++ later)

def readFrames (c : WebSocketConnection) : ℕ → Bytes → Except Refusal (List Frame × Bytes)
  | 0, stream => .ok ([], stream)
  | n + 1, stream => do
    let (frame, stream) ← c.readFrame stream
    let (frames, stream) ← c.readFrames n stream
    pure (frame :: frames, stream)

/-- What one end writes is what the other end reads, frame by frame, and what follows is left. -/
theorem frames_read_back (sender receiver : WebSocketConnection)
    (agree : receiver.expectMasked = sender.maskOutgoing) (frames : List Sending)
    (limit : ∀ f ∈ frames, f.payload.length ≤ receiver.maxMessageBytes) (written : Bytes)
    (accepted : sender.sendFrames frames = .ok written) (rest : Bytes) :
    receiver.readFrames frames.length (written ++ rest) =
      .ok (frames.map Sending.frame, rest) := by
  induction frames generalizing written with
  | nil =>
    cases accepted
    rfl
  | cons f frames ih =>
    simp only [sendFrames, Checks.bind_eq_ok, Checks.pure_eq_ok] at accepted
    obtain ⟨bytes, sent, later, sentLater, rfl⟩ := accepted
    have first := readFrame_sendFrame sent agree (limit f List.mem_cons_self) (later ++ rest)
    have others := ih (fun g mem => limit g (List.mem_cons_of_mem f mem)) later sentLater
    rw [List.append_assoc, List.length_cons, readFrames, first]
    simp only [bind, Except.bind, others]
    rfl

def clientEnd : WebSocketConnection where
  maskOutgoing := true
  expectMasked := false
  maxMessageBytes := 1048576
  closed := false
  closeSent := false
  closeCode := none

def relayEnd : WebSocketConnection where
  maskOutgoing := false
  expectMasked := true
  maxMessageBytes := 1048576
  closed := false
  closeSent := false
  closeCode := none

def interrupted : List Sending :=
  [⟨.text, [72, 101], false, #v[1, 2, 3, 4]⟩, ⟨.ping, [], true, #v[5, 6, 7, 8]⟩,
    ⟨.continuation, [108, 108, 111], true, #v[9, 10, 11, 12]⟩]

theorem interrupted_read_back :
    relayEnd.readFrames 3 ([0x01, 0x82, 1, 2, 3, 4, 73, 103, 0x89, 0x80, 5, 6, 7, 8, 0x80, 0x83, 9,
        10, 11, 12, 101, 102, 100] ++ [0x81, 0x80]) =
      .ok (interrupted.map Sending.frame, [0x81, 0x80]) :=
  frames_read_back clientEnd relayEnd rfl interrupted (by decide) _ (by decide +kernel) [0x81, 0x80]

end WebSocketConnection
end Ghostlink.Transport
