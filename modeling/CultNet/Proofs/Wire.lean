/-
Messages across the wire.

`parse_encode_schema` and `parse_encode_legacy` are the round trips of the two
contracts.  The first is of every valid message.  The second is of every message
that the union contract takes, and gives it back except that `includeSchemaJson` is
then always present.

`parsed_message_valid_iff` is the other direction: a message that was parsed is
valid, and can be encoded again, under `cultnet.schema.v0` always, and under the
union contract where the fields of the wire value are filled.

The codecs of other crates are assumed to be lawful.  `libraryCodecs` are codecs
that are.
-/
import CultNet.Proofs.Wire.Filled
import CultNet.Proofs.Wire.Legacy
import CultNet.Proofs.Wire.Schema

namespace CultNet

open MessagePack (Value)

/-! ### Codecs -/

/-- Base64 and the conversions of JSON values from the library. -/
def libraryCodecs : Codecs where
  base64 := {
    encode := Base64.encode
    decode := fun text =>
      match Base64.decode text with
      | some bytes => .ok bytes
      | none => .error "Invalid base64url text" }
  toWire j := .ok j.toMessagePack
  fromWire w :=
    match w.toJson with
    | some j => .ok j
    | none => .error "the value has no JSON form"
  mismatch _ := "the value is no message"

theorem libraryCodecs_lawful : libraryCodecs.base64.Lawful where
  canonical text bytes h := by
    cases hdecode : Base64.decode text with
    | none => simp [libraryCodecs, hdecode] at h
    | some b =>
        simp only [libraryCodecs, hdecode] at h
        cases h
        exact Base64.encode_of_decode hdecode
  decode_encode bytes := by
    simp only [libraryCodecs, Base64.decode_encode]
  encode_nil := rfl
  alphabet _ _ h := Base64.mem_alphabet_of_mem_encode h

theorem libraryCodecs_faithful : libraryCodecs.Faithful where
  toWire_eq _ := rfl
  fromWire_eq j := by
    simp only [libraryCodecs, JsonValue.toJson_toMessagePack]

/-! ### Round trips -/

/-- Every valid message survives `cultnet.schema.v0`. -/
theorem parse_encode_schema {codecs : Codecs} (hcodecs : codecs.Faithful) {m : Message}
    (hvalid : m.validate = .ok ()) :
    ∃ w, encodeCultnetMessageForWire codecs m .cultNetSchemaV0 = .ok w ∧
      parseCultnetMessage codecs w .cultNetSchemaV0 = .ok m := by
  obtain ⟨w, hencode, hparse⟩ := parseSchemaMessage_of_encodeSchemaMessage hcodecs m
  refine ⟨w, ?_, ?_⟩
  · rw [encodeCultnetMessageForWire, hvalid]
    exact hencode
  · rw [parseCultnetMessage, hparse, Fallible.ok_bind, hvalid]
    rfl

/-- A document whose payload is `null` keeps it, and stays without a source. -/
theorem parse_encode_schema_null :
    ∃ w, encodeCultnetMessageForWire libraryCodecs
        (.documentPut "m" ⟨"s", "k", "t", .null, none, none, none, some []⟩) .cultNetSchemaV0 =
          .ok w ∧
      parseCultnetMessage libraryCodecs w .cultNetSchemaV0 =
        .ok (.documentPut "m" ⟨"s", "k", "t", .null, none, none, none, some []⟩) :=
  parse_encode_schema libraryCodecs_faithful rfl

/-- Every message that the union contract takes comes back from it. -/
theorem parse_encode_legacy {codecs : Codecs} (hengine : codecs.base64.Canonical) {m : Message}
    {w : Value} (h : encodeCultnetMessageForWire codecs m .gameCultNetworkingV0 = .ok w) :
    parseCultnetMessage codecs w .gameCultNetworkingV0 = .ok m.withIncludeSchemaJson := by
  rw [encodeCultnetMessageForWire, Fallible.check_bind_eq_ok] at h
  exact parse_of_encodeGamecultNetworkingMessage hengine h.2

/-- The three credentials of a login. -/
theorem parse_encode_legacy_login :
    parseCultnetMessage libraryCodecs
        (union 0 [.binary [110, 111, 110, 99, 101], .binary [97, 117, 116, 104], .binary [255]])
        .gameCultNetworkingV0 =
      .ok (Message.login "bm9uY2U" "YXV0aA" "_w").withIncludeSchemaJson :=
  parse_encode_legacy libraryCodecs_lawful.canonical (by rfl)

/-! ### What was parsed is valid -/

/-- A message that was parsed is valid and can be encoded again, unless it came from a union
with a field that is not filled. -/
theorem parsed_message_valid_iff {codecs : Codecs} (hengine : codecs.base64.Lawful)
    (hcodecs : codecs.Faithful) {w : Value} {contract : WireContract} {m : Message}
    (h : parseCultnetMessage codecs w contract = .ok m) :
    (m.validate = .ok () ∧ ∃ w', encodeCultnetMessageForWire codecs m contract = .ok w') ↔
      contract = .cultNetSchemaV0 ∨ legacyFilled w = true := by
  cases contract with
  | cultNetSchemaV0 =>
      obtain ⟨m', -, h⟩ := Fallible.bind_eq_ok.mp h
      obtain ⟨hvalid, h⟩ := Fallible.check_bind_eq_ok.mp h
      cases h
      obtain ⟨w', hencode, -⟩ := parse_encode_schema hcodecs hvalid
      exact iff_of_true ⟨hvalid, w', hencode⟩ (.inl rfl)
  | gameCultNetworkingV0 =>
      obtain ⟨hvalid, hencode⟩ := validate_of_parseGamecultNetworkingMessage hengine h
      constructor
      · intro ⟨hm, _⟩
        exact .inr (hvalid.mp hm)
      · intro hfilled
        have hm := hvalid.mpr (hfilled.resolve_left (by decide))
        obtain ⟨w', hw'⟩ := hencode hm
        refine ⟨hm, w', ?_⟩
        rw [encodeCultnetMessageForWire, hm]
        exact hw'

/-- A chat line that is filled. -/
theorem parsed_message_valid_chat :
    ((Message.sampleChat "hi").validate = .ok () ∧
      ∃ w', encodeCultnetMessageForWire libraryCodecs (.sampleChat "hi") .gameCultNetworkingV0 =
        .ok w') ↔
      WireContract.gameCultNetworkingV0 = .cultNetSchemaV0 ∨
        legacyFilled (union 6 [.text "hi"]) = true :=
  parsed_message_valid_iff libraryCodecs_lawful libraryCodecs_faithful (by rfl)

/-- An error without a text is parsed, and then refused by the check and by the encoder. -/
theorem parsed_message_not_valid :
    parseCultnetMessage libraryCodecs (union 4 [.text ""]) .gameCultNetworkingV0 =
        .ok (.error "") ∧
      (Message.error "").validate = .error "CultNet field error must be non-empty" ∧
      encodeCultnetMessageForWire libraryCodecs (.error "") .gameCultNetworkingV0 =
        .error "CultNet field error must be non-empty" :=
  ⟨rfl, rfl, rfl⟩

end CultNet
