/-
Advertised transport profiles against their published schema.

The check of a hello message does not look at its transport profiles, so what they
must meet is stated here field by field: the schema's constant, texts that are not
empty, a port and limits that are not zero, and no `reliableExpireAfterMs`, which
the schema does not list.  A profile is emitted as an instance exactly when it meets
all of it.
-/
import CultNet.Proofs.Wire
import CultNet.Rudp.TransportProfile
import CultNet.Schemas

namespace CultNet

open MessagePack (Value)
open WireSchema

/-! ### What the schema asks, level by level -/

/-- What the schema asks of a channel. -/
structure TransportChannel.Publishable (channel : TransportChannel) : Prop where
  channelId : channel.channelId ≠ ""
  maxPayloadBytes : ∀ n ∈ channel.maxPayloadBytes, n ≠ 0
  maxFragmentBytes : ∀ n ∈ channel.maxFragmentBytes, n ≠ 0
  maxPendingReliablePackets : ∀ n ∈ channel.maxPendingReliablePackets, n ≠ 0
  reliableExpireAfterMs : channel.reliableExpireAfterMs = none

/-- What it asks of a transport. -/
structure TransportDescriptor.Publishable (transport : TransportDescriptor) : Prop where
  transportId : transport.transportId ≠ ""
  host : ∀ text ∈ transport.host, text ≠ ""
  port : ∀ n ∈ transport.port, n ≠ 0
  path : ∀ text ∈ transport.path, text ≠ ""
  discoveryGroup : ∀ text ∈ transport.discoveryGroup, text ≠ ""
  wireContracts : ∀ texts ∈ transport.wireContracts, ∀ text ∈ texts, text ≠ ""
  channels : ∀ channel ∈ transport.channels, channel.Publishable

/-- What it asks of a profile. -/
structure TransportProfile.Publishable (profile : TransportProfile) : Prop where
  schemaVersion : profile.schemaVersion = "cultnet.transport_profile.v0"
  runtimeId : profile.runtimeId ≠ ""
  transports : ∀ transport ∈ profile.transports, transport.Publishable

theorem admits_text {text : String} :
    nonEmptyString.admits (JsonValue.toMessagePack (Serde.serialize text)) = true ↔ text ≠ "" :=
  admits_nonEmptyString

theorem admits_transportChannel {channel : TransportChannel} :
    transportChannelSchema.admits (JsonValue.toMessagePack (Serde.serialize channel)) = true ↔
      channel.Publishable := by
  refine (admits_record transportChannel).trans ?_
  have hdelivery : Enumeration.name channel.delivery ∈ ["reliable", "unreliable"] := by
    cases channel.delivery <;> decide
  have hordering : Enumeration.name channel.ordering ∈ ["ordered", "unordered", "sequenced"] := by
    cases channel.ordering <;> decide
  simp only [transportChannel, List.forall_mem_cons, fieldAdmits_always, fieldAdmits_whenSome,
    propertyAdmits_cons, propertyAdmits_nil, String.reduceEq, if_true, if_false, admits_text,
    admits_enumeration, admits_positiveInteger_u32, hdelivery, hordering, Bool.false_eq_true]
  constructor
  · rintro ⟨-, h₁, -, -, h₂, h₃, h₄, h₅, -⟩
    exact ⟨h₁, h₂, h₃, h₄, Option.eq_none_iff_forall_not_mem.mpr h₅⟩
  · intro h
    obtain ⟨h₁, h₂, h₃, h₄, h₅⟩ := h
    refine ⟨?_, h₁, trivial, trivial, h₂, h₃, h₄, by simp [h₅], by simp⟩
    simp [Serde.always]

theorem admits_port {n : UInt16} :
    (scalar [.type [.integer], .minimum 1, .maximum 65535]).admits
      (JsonValue.toMessagePack (Serde.serialize n)) = true ↔ n ≠ 0 := by
  have hle : (n.toNat : ℚ) ≤ 65535 := by
    exact_mod_cast Nat.le_of_lt_succ n.toNat_lt
  rw [admits_scalar]
  show JsonSchema.valid _ (.number (.posInt n.toUInt64)) = true ↔ _
  simp [JsonSchema.JsonType.admits, JsonNumber.value, Nat.one_le_iff_ne_zero, hle,
    ← UInt16.toNat_inj]

theorem admits_transportDescriptor {transport : TransportDescriptor} :
    transportDescriptorSchema.admits (JsonValue.toMessagePack (Serde.serialize transport)) =
      true ↔ transport.Publishable := by
  refine (admits_record transportDescriptor).trans ?_
  have hprotocol :
      Enumeration.name transport.protocol ∈ ["tcp_framed", "litenetlib", "websocket", "rudp"] := by
    cases transport.protocol <;> decide
  simp only [transportDescriptor, List.forall_mem_cons, fieldAdmits_always, fieldAdmits_whenSome,
    propertyAdmits_cons, String.reduceEq, if_true, if_false, admits_text, admits_enumeration,
    admits_port, admits_list, admits_transportChannel, hprotocol]
  constructor
  · rintro ⟨-, h₁, -, h₂, h₃, h₄, h₅, h₆, h₇, -⟩
    exact ⟨h₁, h₂, h₃, h₄, h₅, h₆, h₇⟩
  · intro h
    obtain ⟨h₁, h₂, h₃, h₄, h₅, h₆, h₇⟩ := h
    refine ⟨?_, h₁, trivial, h₂, h₃, h₄, h₅, h₆, h₇, by simp⟩
    simp [Serde.always, Serde.whenSome]

theorem admits_transportProfile {profile : TransportProfile} :
    transportProfileSchema.admits (JsonValue.toMessagePack (Serde.serialize profile)) = true ↔
      profile.Publishable := by
  have hversion : (scalar [.const (.string "cultnet.transport_profile.v0")]).admits
      (JsonValue.toMessagePack (Serde.serialize profile.schemaVersion)) = true ↔
        "cultnet.transport_profile.v0" = profile.schemaVersion := admits_const
  refine (admits_record transportProfile).trans ?_
  simp only [transportProfile, List.forall_mem_cons, fieldAdmits_always, propertyAdmits_cons,
    String.reduceEq, if_true, if_false, admits_text, admits_list, admits_transportDescriptor,
    hversion]
  constructor
  · rintro ⟨-, h₁, h₂, h₃, -⟩
    exact ⟨h₁.symm, h₂, h₃⟩
  · intro h
    obtain ⟨h₁, h₂, h₃⟩ := h
    refine ⟨?_, h₁.symm, h₂, h₃, by simp⟩
    simp [Serde.always]

/-! ### The profile of a RUDP peer -/

/-- The options stay within the bounds that the schema sets. -/
structure Rudp.TransportProfileOptions.InBounds (options : Rudp.TransportProfileOptions) :
    Prop where
  transportId : ∀ text ∈ options.transportId, text ≠ ""
  host : ∀ text ∈ options.host, text ≠ ""
  port : ∀ n ∈ options.port, n ≠ 0
  maxPayloadBytes : ∀ n ∈ options.maxPayloadBytes, n ≠ 0
  maxFragmentBytes : ∀ n ∈ options.maxFragmentBytes, n ≠ 0
  maxPendingReliablePackets : ∀ n ∈ options.maxPendingReliablePackets, n ≠ 0

/-- With options in bounds only the expiry of the media channel is in the way. -/
theorem publishable_createRudpTransportProfile {runtimeId : String}
    {options : Rudp.TransportProfileOptions} (hruntime : runtimeId ≠ "")
    (hoptions : options.InBounds) :
    (Rudp.createRudpTransportProfile runtimeId options).Publishable ↔
      options.mediaReliableExpireAfterMs = none := by
  have hchannel : ∀ channelId delivery ordering expire, channelId ≠ "" →
      ((options.channel channelId delivery ordering expire).Publishable ↔ expire = none) := by
    intro channelId delivery ordering expire hid
    exact ⟨fun h => h.reliableExpireAfterMs, fun h => ⟨hid, hoptions.maxPayloadBytes,
      hoptions.maxFragmentBytes, hoptions.maxPendingReliablePackets, h⟩⟩
  constructor
  · intro h
    have htransport := h.transports _ List.mem_cons_self
    exact (hchannel "media" .reliable .unordered _ (by decide)).mp
      (htransport.channels _ (by simp))
  · intro h
    refine ⟨rfl, hruntime, ?_⟩
    simp only [Rudp.createRudpTransportProfile, List.forall_mem_singleton]
    refine ⟨?_, hoptions.host, hoptions.port, by simp, by simp, by simp, ?_⟩
    · cases hid : options.transportId with
      | none => simp
      | some text => simpa using hoptions.transportId text hid
    · simp [hchannel, h]

/-! ### What a hello message emits -/

/-- The profiles of a hello message. -/
def Message.transportProfiles : Message → List TransportProfile
  | .hello _ _ _ _ _ _ _ _ transportProfiles _ => transportProfiles.getD []
  | _ => []

/-- The entries of `transportProfiles` in a wire value. -/
def emittedProfiles (w : Value) : List Value :=
  ((w.asMap.bind fun object => entry object "transportProfiles").bind Value.asArray).getD []

/-- A name is found among the entries of an object as it is among its members. -/
theorem entry_map_members (members : List (String × JsonValue)) (name : String) :
    entry (members.map fun m => (.text m.1, m.2.toMessagePack)) name =
      (members.lookup name).map JsonValue.toMessagePack := by
  induction members with
  | nil => rfl
  | cons m rest ih =>
      obtain ⟨key, value⟩ := m
      rw [List.map_cons, entry_cons_text, Members.lookup_cons, ih]
      by_cases hkey : key = name
      · simp [hkey]
      · simp [hkey, Ne.symm hkey]

/-- In the wire value of a message each field is found as the message has it. -/
theorem entry_serialize {m : Message} {f : String × Option JsonValue} (hf : f ∈ m.fields) :
    ((JsonValue.toMessagePack (Serde.serialize m)).asMap.bind fun object => entry object f.1) =
      f.2.map JsonValue.toMessagePack := by
  show ((JsonValue.object (Message.tagged.entries m)).toMessagePack.asMap.bind _) = _
  rw [JsonValue.toMessagePack_object, Value.asMap_map, Option.bind_some, entry_map_members,
    Message.tagged.entries_eq]
  exact congrArg _ (Serde.lookup_present (Message.tagged.nodup_entries m)
    (List.mem_cons_of_mem _ hf))

/-- The profiles are emitted one for one. -/
theorem emittedProfiles_serialize {m : Message} (hhello : m.kind = .hello) :
    emittedProfiles (JsonValue.toMessagePack (Serde.serialize m)) =
      m.transportProfiles.map fun profile =>
        JsonValue.toMessagePack (Serde.serialize profile) := by
  cases m with
  | hello runtimeId runtimeKind agentId role displayName supportedDocumentTypes
      supportedMutationContracts supportedMessageVersions transportProfiles
      supportsSchemaCatalog =>
      have hentry := entry_serialize (f := Serde.whenSome "transportProfiles" transportProfiles)
        (m := .hello runtimeId runtimeKind agentId role displayName supportedDocumentTypes
          supportedMutationContracts supportedMessageVersions transportProfiles
          supportsSchemaCatalog) (by simp [Message.fields])
      rw [emittedProfiles, Message.transportProfiles]
      refine (congrArg (fun v : Option Value => (v.bind Value.asArray).getD []) hentry).trans ?_
      cases transportProfiles with
      | none => rfl
      | some profiles =>
          show ((some (JsonValue.array (profiles.map Serde.serialize)).toMessagePack).bind
            Value.asArray).getD [] = _
          rw [toMessagePack_array, List.map_map]
          rfl
  | _ => cases hhello

/-- A hello message that is encoded emits instances of the published schema exactly when its
profiles meet what the schema asks; the profile of a RUDP peer with options in bounds does so
exactly when no expiry is set for the media channel. -/
theorem emittedProfiles_admitted_iff {codecs : Codecs} (hcodecs : codecs.Faithful) {m : Message}
    {w : Value} (hhello : m.kind = .hello)
    (h : encodeCultnetMessageForWire codecs m .cultNetSchemaV0 = .ok w) :
    ((∀ v ∈ emittedProfiles w, transportProfileSchema.admits v = true) ↔
      ∀ profile ∈ m.transportProfiles, profile.Publishable) ∧
    ∀ (runtimeId : String) (options : Rudp.TransportProfileOptions), runtimeId ≠ "" →
      options.InBounds →
      (transportProfileSchema.admits (JsonValue.toMessagePack
          (Serde.serialize (Rudp.createRudpTransportProfile runtimeId options))) = true ↔
        options.mediaReliableExpireAfterMs = none) := by
  refine ⟨?_, fun _ _ hruntime hoptions => admits_transportProfile.trans
    (publishable_createRudpTransportProfile hruntime hoptions)⟩
  have hw : w = JsonValue.toMessagePack (Serde.serialize m) := by
    have hencode := (Fallible.check_bind_eq_ok.mp h).2
    cases m with
    | hello => exact (Except.ok.inj ((hcodecs.toWire_eq _).symm.trans hencode)).symm
    | _ => cases hhello
  rw [hw, emittedProfiles_serialize hhello, List.forall_mem_map]
  exact forall₂_congr fun _ _ => admits_transportProfile

/-- A hello message with the profile of a RUDP peer. -/
def helloWith (options : Rudp.TransportProfileOptions) : Message :=
  .hello "runtime" "daemon" none none none none none none
    (some [Rudp.createRudpTransportProfile "runtime" options]) none

theorem emittedProfiles_admitted_default :
    ∃ w, encodeCultnetMessageForWire libraryCodecs (helloWith { port := some 4433 })
        .cultNetSchemaV0 = .ok w ∧
      (∀ v ∈ emittedProfiles w, transportProfileSchema.admits v = true) ∧
      transportProfileSchema.admits (JsonValue.toMessagePack
        (Serde.serialize (Rudp.createRudpTransportProfile "runtime" { port := some 4433 }))) =
          true := by
  have hbounds : Rudp.TransportProfileOptions.InBounds { port := some 4433 } := by
    constructor <;> simp
  obtain ⟨hiff, hrudp⟩ := emittedProfiles_admitted_iff libraryCodecs_faithful
    (m := helloWith { port := some 4433 }) rfl rfl
  refine ⟨_, rfl, hiff.mpr ?_, (hrudp "runtime" _ (by decide) hbounds).mpr rfl⟩
  intro profile hmem
  obtain rfl := List.mem_singleton.mp hmem
  exact (publishable_createRudpTransportProfile (by decide) hbounds).mpr rfl

/-- An expiry of half a second for the media channel, every option in bounds. -/
theorem emittedProfiles_not_admitted :
    Rudp.TransportProfileOptions.InBounds { mediaReliableExpireAfterMs := some 500 } ∧
      ∃ w, encodeCultnetMessageForWire libraryCodecs
          (helloWith { mediaReliableExpireAfterMs := some 500 }) .cultNetSchemaV0 = .ok w ∧
        ∃ v ∈ emittedProfiles w, transportProfileSchema.admits v = false := by
  refine ⟨by constructor <;> simp, _, rfl, ?_⟩
  decide +kernel

end CultNet
