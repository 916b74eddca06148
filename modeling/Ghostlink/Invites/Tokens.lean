import Ghostlink.Groups.Identifiers
import Mathlib.Data.Rat.Floor

/-! Invite tokens, the public ids that stand for them, and the identifiers and times that invites
carry. Hashing and the full Unicode case mappings come in as `InvitePrimitives`. -/

namespace Ghostlink.Invites
open Text

abbrev Bytes := List UInt8

abbrev Seconds := ℚ

abbrev Instant := ℤ

structure InvitePrimitives where
  upper : String → String
  lower : String → String
  sha256 : Bytes → Vector UInt8 32

inductive InviteFault
  | value (message : String)
  | permission (message : String)
  | validation (message hint : String)
  | unicode
  deriving DecidableEq, Repr

def timedelta (seconds : Seconds) : ℤ :=
  let exact := seconds * 1000000
  let below := ⌊exact⌋
  if exact - below < 1 / 2 ∨ exact - below = 1 / 2 ∧ below % 2 = 0 then below else below + 1

def roomIdPattern : List (Char → Bool) :=
  let quad := List.replicate 4 Groups.roomIdAlphabet.contains
  lit "gl-room-" ++ quad ++ lit "-" ++ quad ++ lit "-" ++ quad

def isValidRoomId (candidate : String) : Bool := fullmatch roomIdPattern (strip candidate).toList

def inviteLinkTokenLength : ℕ := 20
def inviteIdPrefix : String := "gi_"

def tokenPattern : List (Char → Bool) :=
  List.replicate inviteLinkTokenLength Groups.roomIdAlphabet.contains

def isValidInviteToken (S : InvitePrimitives) (candidate : String) : Bool :=
  fullmatch tokenPattern (S.upper (strip candidate)).toList

def normalizeInviteToken (S : InvitePrimitives) (candidate : String) :
    Except InviteFault String :=
  let cleaned := S.upper (strip candidate)
  if fullmatch tokenPattern cleaned.toList then .ok cleaned
  else .error (.validation "That does not look like a GhostLink invite token."
    "Tokens are 20 letters/digits, e.g. gl://join/<token>.")

def hashToken (S : InvitePrimitives) (normalized : String) : Except InviteFault String :=
  if normalized.toList.all fun c => decide (c.toNat < 128) then
    .ok (toHex (S.sha256 (utf8Encode normalized.toList)).toList)
  else .error .unicode

def tokenHashFor (S : InvitePrimitives) (token : String) : Except InviteFault String := do
  let normalized ← normalizeInviteToken S token
  hashToken S normalized

def inviteIdForToken (S : InvitePrimitives) (token : String) : Except InviteFault String := do
  let digest ← tokenHashFor S token
  pure (inviteIdPrefix ++ takeChars 10 digest)

def isValidInviteId (S : InvitePrimitives) (candidate : String) : Bool :=
  let cleaned := S.lower (strip candidate)
  inviteIdPrefix.toList.isPrefixOf cleaned.toList &&
    cleaned.length == inviteIdPrefix.length + 10 &&
    (cleaned.toList.drop inviteIdPrefix.length).all "0123456789abcdef".toList.contains

end Ghostlink.Invites
