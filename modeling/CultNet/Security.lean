/-
Security options and session tokens, from `src/security.rs`.

A token is a payload and its HMAC, both in base64url, with a dot between them; the
payload is the user id and the second at which the token expires, with a bar
between them.  The hash functions, the base64 engine and the range of times are
other crates', so they are parameters here.  A time is what `chrono` stores: whole
seconds since 1970 and the nanoseconds after them, which run past a second during a
leap second.
-/
import CultNet.Lib.Decimal
import CultNet.Rudp.Packet
import CultNet.Text
import CultNet.Wire.Fields

namespace CultNet

open Rudp (stringFromUtf8)

/-- The hash functions of the crates `sha2` and `hmac`. -/
structure Hashes where
  sha256 : List UInt8 → Vector UInt8 32
  hmacSha256 : List UInt8 → List UInt8 → List UInt8

/-- The seconds for which `chrono` has a date and a time. -/
structure Calendar where
  first : Int
  last : Int
  first_ge : -2 ^ 63 ≤ first
  last_lt : last < 2 ^ 63

/-- `DateTime<Utc>`. -/
structure DateTime (calendar : Calendar) where
  timestamp : Int
  nanosecond : Nat
  inRange : calendar.first ≤ timestamp ∧ timestamp ≤ calendar.last
  nanosecond_lt : nanosecond < 2000000000
  deriving DecidableEq

namespace DateTime

variable {calendar : Calendar}

instance : LE (DateTime calendar) where
  le a b := a.timestamp < b.timestamp ∨ (a.timestamp = b.timestamp ∧ a.nanosecond ≤ b.nanosecond)

instance : LT (DateTime calendar) where
  lt a b := a.timestamp < b.timestamp ∨ (a.timestamp = b.timestamp ∧ a.nanosecond < b.nanosecond)

theorem le_iff {a b : DateTime calendar} : a ≤ b ↔
    a.timestamp < b.timestamp ∨ (a.timestamp = b.timestamp ∧ a.nanosecond ≤ b.nanosecond) := Iff.rfl

theorem lt_iff {a b : DateTime calendar} : a < b ↔
    a.timestamp < b.timestamp ∨ (a.timestamp = b.timestamp ∧ a.nanosecond < b.nanosecond) := Iff.rfl

instance (a b : DateTime calendar) : Decidable (a ≤ b) := decidable_of_iff' _ le_iff

instance (a b : DateTime calendar) : Decidable (a < b) := decidable_of_iff' _ lt_iff

/-- The time without its nanoseconds. -/
def truncate (time : DateTime calendar) : DateTime calendar :=
  { time with nanosecond := 0, nanosecond_lt := by decide }

/-- `Utc.timestamp_opt(seconds, 0).single()`. -/
def timestampOpt (calendar : Calendar) (seconds : Int) : Option (DateTime calendar) :=
  if h : calendar.first ≤ seconds ∧ seconds ≤ calendar.last then
    some { timestamp := seconds, nanosecond := 0, inRange := h, nanosecond_lt := by decide }
  else none

end DateTime

/-! ### The options -/

/-- `CultNetClientSecurityOptions`. -/
structure ClientSecurityOptions where
  connectionKey : String
  encryptionKey : Vector UInt8 32
  deriving DecidableEq

/-- `CultNetServerSecurityOptions`. -/
structure ServerSecurityOptions where
  client : ClientSecurityOptions
  sessionSigningSecret : String
  sessionSigningKey : Vector UInt8 32
  isDevelopment : Bool
  deriving DecidableEq

variable (hashes : Hashes)

/-- `str::as_bytes`. -/
def asBytes (text : String) : List UInt8 := text.toUTF8.data.toList

/-- `CultNetClientSecurityOptions::new`. -/
def ClientSecurityOptions.new (connectionKey : String) : Except String ClientSecurityOptions :=
  if isBlank connectionKey then .error "Connection key must be provided"
  else .ok { connectionKey, encryptionKey := hashes.sha256 (asBytes connectionKey) }

/-- `CultNetServerSecurityOptions::new`. -/
def ServerSecurityOptions.new (connectionKey sessionSigningSecret : String) (isDevelopment : Bool) :
    Except String ServerSecurityOptions :=
  if isBlank sessionSigningSecret then .error "Session signing secret must be provided"
  else do
    let client ← ClientSecurityOptions.new hashes connectionKey
    return {
      client
      sessionSigningKey := hashes.sha256 (asBytes sessionSigningSecret)
      sessionSigningSecret
      isDevelopment
    }

/-- `CultNetServerSecurityOptions::development`. -/
def ServerSecurityOptions.development : Except String ServerSecurityOptions :=
  ServerSecurityOptions.new hashes "gamecult-dev-connection-key"
    "gamecult-dev-session-signing-secret" true

/-! ### Session tokens -/

/-- `hmac_sha256`.  A key of any length will do. -/
def hmacSha256 (key input : List UInt8) : Except String (List UInt8) :=
  .ok (hashes.hmacSha256 key input)

/-- `constant_time_eq`. -/
def constantTimeEq (left right : List UInt8) : Bool :=
  if left.length ≠ right.length then false
  else (left.zip right).foldl (fun acc pair => acc ||| (pair.1 ^^^ pair.2)) 0 == 0

/-- The `Display` of a `ParseIntError`. -/
def parseIntError : Decimal.Failure → String
  | .empty => "cannot parse integer from empty string"
  | .invalidDigit => "invalid digit found in string"
  | .posOverflow => "number too large to fit in target type"
  | .negOverflow => "number too small to fit in target type"

/-- `text.parse::<i64>()`. -/
def parseI64 (text : String) : Except String Int :=
  (Decimal.parse (-2 ^ 63) (2 ^ 63 - 1) text.toList).mapError parseIntError

/-- `ValidatedCultNetSessionToken`. -/
structure ValidatedSessionToken (calendar : Calendar) where
  userId : String
  expiresAtUtc : DateTime calendar
  deriving DecidableEq

variable {calendar : Calendar} (engine : Base64Engine)

/-- `format!("{}|{}", user_id, expires_at_utc.timestamp())`. -/
def sessionPayload (userId : String) (expiresAtUtc : DateTime calendar) : String :=
  userId ++ "|" ++ String.ofList (Decimal.display expiresAtUtc.timestamp)

/-- `CultNetSecret::create_session_token`. -/
def createSessionToken (userId : String) (expiresAtUtc : DateTime calendar)
    (options : ServerSecurityOptions) : Except String String := do
  let payload := sessionPayload userId expiresAtUtc
  let signature ← hmacSha256 hashes options.sessionSigningKey.toList (asBytes payload)
  return engine.encode (asBytes payload) ++ "." ++ engine.encode signature

/-- What a payload says once its signature is checked, from `try_validate_session_token`. -/
def readSessionPayload (payload : String) (now : DateTime calendar) :
    Except String (Option (ValidatedSessionToken calendar)) :=
  match splitOnce '|' payload with
  | none => .ok none
  | some (userId, expiresAt) => do
    let expiresAtSeconds ← parseI64 expiresAt
    match DateTime.timestampOpt calendar expiresAtSeconds with
    | none => return none
    | some expiresAtUtc =>
      if expiresAtUtc ≤ now then return none
      return some { userId, expiresAtUtc }

/-- `CultNetSecret::try_validate_session_token`, with what `Utc::now()` reads. -/
def tryValidateSessionToken (token : Option String) (options : ServerSecurityOptions)
    (now : DateTime calendar) : Except String (Option (ValidatedSessionToken calendar)) :=
  match token.filter (fun value => !isBlank value) with
  | none => .ok none
  | some token =>
    match splitOnce '.' token with
    | none => .ok none
    | some (payloadPart, signaturePart) => do
      let payload ← engine.decode payloadPart
      let signature ← engine.decode signaturePart
      let expected ← hmacSha256 hashes options.sessionSigningKey.toList payload
      if !constantTimeEq signature expected then return none
      let payload ← stringFromUtf8 payload
      readSessionPayload payload now

end CultNet
