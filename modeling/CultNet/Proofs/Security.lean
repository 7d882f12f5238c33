/-
What session tokens are worth.

A token splits at its first dot into the two parts it was made of, since neither
part has a dot, and the signature of a payload is the one the validator computes.
So a token says exactly what its payload says, whoever reads it with the same
options.  The payload is not as careful: it splits at its first bar, and nothing
keeps a bar out of a user id.  A user id without one is read back with its expiry;
a user id with one leaves a bar in what should be the number of seconds, and the
token is an error for everyone, its own maker included.
-/
import CultNet.Lib.Sha256
import CultNet.Proofs.Rudp.Codec
import CultNet.Proofs.Wire
import CultNet.Security

namespace CultNet

open Rudp (stringFromUtf8)

/-! ### Comparing signatures -/

theorem foldl_or_xor {left right : List UInt8} (h : left.length = right.length) (acc : UInt8) :
    (left.zip right).foldl (fun acc pair => acc ||| (pair.1 ^^^ pair.2)) acc = 0 ↔
      acc = 0 ∧ left = right := by
  induction left generalizing right acc with
  | nil =>
      cases right with
      | nil => simp
      | cons _ _ => cases h
  | cons a left ih =>
      cases right with
      | nil => cases h
      | cons b right =>
          rw [List.zip_cons_cons, List.foldl_cons, ih (Nat.succ.inj h)]
          simp [and_assoc]

/-- The comparison looks at every byte, and still is the comparison. -/
theorem constantTimeEq_iff {left right : List UInt8} :
    constantTimeEq left right = true ↔ left = right := by
  unfold constantTimeEq
  by_cases h : left.length = right.length
  · rw [if_neg (not_not.mpr h), beq_iff_eq, foldl_or_xor h]
    simp
  · rw [if_pos h]
    constructor
    · intro hfalse
      cases hfalse
    · intro heq
      exact absurd (congrArg List.length heq) h

/-! ### The other crates -/

/-- The hash functions themselves. -/
def libraryHashes : Hashes where
  sha256 := Sha256.hash
  hmacSha256 := Sha256.hmac

/-- The years from -262143 to 262142. -/
def libraryCalendar : Calendar where
  first := -8334601228800
  last := 8210266876799
  first_ge := by decide
  last_lt := by decide

/-- The options of a development server. -/
def developmentOptions : ServerSecurityOptions where
  client := {
    connectionKey := "gamecult-dev-connection-key"
    encryptionKey := Sha256.hash (asBytes "gamecult-dev-connection-key") }
  sessionSigningSecret := "gamecult-dev-session-signing-secret"
  sessionSigningKey := Sha256.hash (asBytes "gamecult-dev-session-signing-secret")
  isDevelopment := true

/-- The development key and secret pass their own checks. -/
theorem development_eq_ok :
    ServerSecurityOptions.development libraryHashes = .ok developmentOptions := by
  have hkey : isBlank "gamecult-dev-connection-key" = false := by decide
  have hsecret : isBlank "gamecult-dev-session-signing-secret" = false := by decide
  simp only [ServerSecurityOptions.development, ServerSecurityOptions.new,
    ClientSecurityOptions.new, hkey, hsecret]
  rfl

/-! ### Reading a payload -/

theorem parseI64_display {n : Int} (hge : -2 ^ 63 ≤ n) (hlt : n < 2 ^ 63) :
    parseI64 (String.ofList (Decimal.display n)) = .ok n := by
  rw [parseI64, String.toList_ofList,
    Decimal.parse_display (by decide) (by decide) hge (by omega)]
  rfl

/-- A text with a bar in it is no number. -/
theorem parseI64_bar {text : String} (h : '|' ∈ text.toList) :
    ∃ e, parseI64 text = .error e := by
  unfold parseI64
  cases hparse : Decimal.parse (-2 ^ 63) (2 ^ 63 - 1) text.toList with
  | error failure => exact ⟨parseIntError failure, rfl⟩
  | ok n => exact absurd hparse (Decimal.parse_invalid h (by decide) (by decide) (by decide) n)

variable {calendar : Calendar}

namespace DateTime

/-- The second of a time is a time. -/
theorem timestampOpt_timestamp (time : DateTime calendar) :
    timestampOpt calendar time.timestamp = some time.truncate := by
  rw [timestampOpt, dif_pos time.inRange]
  rfl

theorem not_le_of_lt {a b : DateTime calendar} (h : a < b) : ¬b ≤ a := by
  rw [lt_iff] at h
  rw [le_iff]
  omega

end DateTime

theorem sessionPayload_eq (userId : String) (expiresAtUtc : DateTime calendar) :
    sessionPayload userId expiresAtUtc
      = userId ++ String.singleton '|' ++ String.ofList (Decimal.display expiresAtUtc.timestamp) :=
  rfl

/-- A payload whose user id has no bar says what it was made from. -/
theorem readSessionPayload_plain {userId : String} (h : '|' ∉ userId.toList)
    {expiresAtUtc now : DateTime calendar} (hnow : now < expiresAtUtc.truncate) :
    readSessionPayload (sessionPayload userId expiresAtUtc) now
      = .ok (some ⟨userId, expiresAtUtc.truncate⟩) := by
  have hparse : parseI64 (String.ofList (Decimal.display expiresAtUtc.timestamp))
      = .ok expiresAtUtc.timestamp :=
    parseI64_display (le_trans calendar.first_ge expiresAtUtc.inRange.1)
      (lt_of_le_of_lt expiresAtUtc.inRange.2 calendar.last_lt)
  simp only [readSessionPayload, sessionPayload_eq, splitOnce_append h, hparse, Fallible.ok_bind,
    DateTime.timestampOpt_timestamp]
  rw [if_neg (DateTime.not_le_of_lt hnow)]
  rfl

/-- A payload whose user id has a bar says nothing. -/
theorem readSessionPayload_bar {userId : String} (h : '|' ∈ userId.toList)
    (expiresAtUtc now : DateTime calendar) :
    ∃ e, readSessionPayload (sessionPayload userId expiresAtUtc) now = .error e := by
  obtain ⟨before, after, rfl, hbefore⟩ := exists_first h
  -- the first bar is the one in the user id, so the bar of the format is in the seconds
  have hpayload : sessionPayload (before ++ String.singleton '|' ++ after) expiresAtUtc
      = before ++ String.singleton '|' ++ (after ++ String.singleton '|' ++
          String.ofList (Decimal.display expiresAtUtc.timestamp)) := by
    simp only [sessionPayload_eq, String.append_assoc]
  have hbar : '|' ∈ (after ++ String.singleton '|' ++
      String.ofList (Decimal.display expiresAtUtc.timestamp)).toList := by simp
  obtain ⟨e, hparse⟩ := parseI64_bar hbar
  refine ⟨e, ?_⟩
  simp only [readSessionPayload, hpayload, splitOnce_append hbefore, hparse]
  rfl

/-! ### Reading a token -/

/-- What a token relies on: base64url is lossless and has no dot. -/
structure Base64Engine.Carries (engine : Base64Engine) : Prop where
  decode_encode : ∀ bytes, engine.decode (engine.encode bytes) = .ok bytes
  noDot : ∀ bytes, '.' ∉ (engine.encode bytes).toList

/-- An engine that does what the wire formats rely on does what a token relies on. -/
theorem Base64Engine.Lawful.carries {engine : Base64Engine} (h : engine.Lawful) :
    engine.Carries where
  decode_encode := h.decode_encode
  noDot bytes hdot := absurd (h.alphabet bytes '.' hdot) (by decide)

variable (hashes : Hashes) {engine : Base64Engine}

theorem stringFromUtf8_asBytes (text : String) : stringFromUtf8 (asBytes text) = .ok text :=
  Rudp.stringFromUtf8_channelBytes text

/-- A token with a dot in it is not blank. -/
theorem not_isBlank_of_dot (before after : String) :
    isBlank (before ++ String.singleton '.' ++ after) = false := by
  simp [isBlank, isWhitespace]

/-- The validator reads off a token what its payload says. -/
theorem validate_signed (hengine : engine.Carries) (options : ServerSecurityOptions)
    (payload : String) (now : DateTime calendar) :
    tryValidateSessionToken hashes engine
        (some (engine.encode (asBytes payload) ++ String.singleton '.' ++
          engine.encode (hashes.hmacSha256 options.sessionSigningKey.toList (asBytes payload))))
        options now
      = readSessionPayload payload now := by
  have hfilter : ∀ token : String, isBlank token = false →
      (some token).filter (fun value => !isBlank value) = some token := by
    intro token htoken
    simp [htoken]
  unfold tryValidateSessionToken
  rw [hfilter _ (not_isBlank_of_dot _ _)]
  simp only [splitOnce_append (hengine.noDot _), hengine.decode_encode, Fallible.ok_bind, hmacSha256,
    constantTimeEq_iff.mpr rfl, stringFromUtf8_asBytes]
  rfl

/-- A token made and read with the same options says what its payload says. -/
theorem create_bind_validate (hengine : engine.Carries) (options : ServerSecurityOptions)
    (userId : String) (expiresAtUtc now : DateTime calendar) :
    (createSessionToken hashes engine userId expiresAtUtc options >>= fun token =>
        tryValidateSessionToken hashes engine (some token) options now)
      = readSessionPayload (sessionPayload userId expiresAtUtc) now :=
  validate_signed hashes hengine options (sessionPayload userId expiresAtUtc) now

/-- A token validates for the user it was made for exactly when the user id has no bar. -/
theorem session_token_validates_iff (hengine : engine.Carries) (options : ServerSecurityOptions)
    (userId : String) {expiresAtUtc now : DateTime calendar} (hnow : now < expiresAtUtc.truncate) :
    (createSessionToken hashes engine userId expiresAtUtc options >>= fun token =>
        tryValidateSessionToken hashes engine (some token) options now)
      = .ok (some ⟨userId, expiresAtUtc.truncate⟩) ↔ '|' ∉ userId.toList := by
  rw [create_bind_validate hashes hengine]
  constructor
  · intro hread hbar
    obtain ⟨e, herror⟩ := readSessionPayload_bar hbar expiresAtUtc now
    rw [herror] at hread
    cases hread
  · intro hplain
    exact readSessionPayload_plain hplain hnow

/-- 2027-01-15T08:00:00.25Z. -/
def someTime : DateTime libraryCalendar where
  timestamp := 1800000000
  nanosecond := 250000000
  inRange := by decide
  nanosecond_lt := by decide

/-- A minute and a quarter of a second later. -/
def aMinuteLater : DateTime libraryCalendar where
  timestamp := 1800000060
  nanosecond := 500000000
  inRange := by decide
  nanosecond_lt := by decide

theorem session_token_validates_runtime_face :
    libraryCodecs.base64.Carries ∧ someTime < aMinuteLater.truncate ∧
      (createSessionToken libraryHashes libraryCodecs.base64 "runtime-face" aMinuteLater
          developmentOptions >>= fun token =>
        tryValidateSessionToken libraryHashes libraryCodecs.base64 (some token) developmentOptions
          someTime) = .ok (some ⟨"runtime-face", aMinuteLater.truncate⟩) :=
  ⟨libraryCodecs_lawful.carries, by decide,
    (session_token_validates_iff libraryHashes libraryCodecs_lawful.carries developmentOptions
      "runtime-face" (by decide)).mpr (by decide)⟩

/-- A user id with a bar in it gets a token that is an error to read. -/
theorem session_token_bar :
    libraryCodecs.base64.Carries ∧ someTime < aMinuteLater.truncate ∧
      (createSessionToken libraryHashes libraryCodecs.base64 "a|b" aMinuteLater
          developmentOptions >>= fun token =>
        tryValidateSessionToken libraryHashes libraryCodecs.base64 (some token) developmentOptions
          someTime) = .error "invalid digit found in string" := by
  refine ⟨libraryCodecs_lawful.carries, by decide, ?_⟩
  rw [create_bind_validate libraryHashes libraryCodecs_lawful.carries]
  rfl

end CultNet
