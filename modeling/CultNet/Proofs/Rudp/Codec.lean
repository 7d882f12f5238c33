/-
The packet codec, read back.

An encoded packet is a fixed header of known fields followed by two tails, so
decoding it is a matter of reading each field at its offset.  Every field comes
back, and so does the payload length as long as it fits its four bytes.

The one that does not is the header length.  It is 36 plus the length of the
channel id, written into a single byte, while the encoder admits channel ids of
up to 255 bytes: from 220 bytes on the header length wraps round, the decoder
finds it at odds with the channel id length, and the packet is refused.
-/
import CultNet.Lib.Fallible
import CultNet.Rudp.Packet

namespace CultNet.Rudp

/-! ### Reading one field -/

/-- The wire form of a packet, nested to the right so that reading at an offset computes. -/
def wireOf (packet : Packet) : List UInt8 :=
  rudpMagic ++ (rudpVersion :: packetTypeToCode packet.packetType :: encodeFlags packet
    :: UInt8.ofNat (rudpFixedHeaderBytes + (channelBytes packet.channelId).length)
    :: (u32Bytes packet.connectionId ++ (u32Bytes packet.sequence ++ (u32Bytes packet.ack
    ++ (u32Bytes packet.ackMask ++ (u16Bytes packet.fragmentId ++ (u16Bytes packet.fragmentIndex
    ++ (u16Bytes packet.fragmentCount ++ (u32Bytes (UInt32.ofNat packet.payload.length)
    ++ UInt8.ofNat (channelBytes packet.channelId).length :: 0
    :: (channelBytes packet.channelId ++ packet.payload))))))))))

/-- The encoder admits every channel id of at most 255 bytes, and lays out `wireOf`. -/
theorem encode_ok_iff {packet : Packet} {wire : List UInt8} :
    encodeRudpPacket packet = .ok wire ↔
      (channelBytes packet.channelId).length ≤ 255 ∧ wire = wireOf packet := by
  unfold encodeRudpPacket wireOf
  by_cases h : 255 < (channelBytes packet.channelId).length
  · rw [if_pos h]
    simp [Nat.not_le.mpr h]
  · rw [if_neg h]
    simp only [List.append_assoc, List.cons_append, List.nil_append, Except.ok.injEq,
      Nat.le_of_not_lt h, true_and, eq_comm]

theorem length_wireOf (packet : Packet) :
    (wireOf packet).length
      = 36 + (channelBytes packet.channelId).length + packet.payload.length := by
  simp [wireOf, rudpMagic, u32Bytes, u16Bytes]
  omega

theorem u32_roundTrip (n : UInt32) : UInt32.ofNat (BigEndian.value (u32Bytes n)) = n := by
  unfold u32Bytes
  rw [BigEndian.value_bytes (by simpa using n.toNat_lt)]
  simp

theorem u16_roundTrip (n : UInt16) : UInt16.ofNat (BigEndian.value (u16Bytes n)) = n := by
  unfold u16Bytes
  rw [BigEndian.value_bytes (by simpa using n.toNat_lt)]
  simp

theorem u32At_of_slice {wire : List UInt8} {start : Nat} {n : UInt32}
    (h : slice wire start (start + 4) = u32Bytes n) : u32At wire start = n := by
  rw [u32At, h, u32_roundTrip]

theorem u16At_of_slice {wire : List UInt8} {start : Nat} {n : UInt16}
    (h : slice wire start (start + 2) = u16Bytes n) : u16At wire start = n := by
  rw [u16At, h, u16_roundTrip]

theorem packetType_roundTrip (t : PacketType) :
    packetTypeFromCode (packetTypeToCode t) = .ok t := by
  cases t <;> rfl

theorem flags_roundTrip (packet : Packet) :
    ((encodeFlags packet &&& 0b0000_0001) != 0) = packet.reliable ∧
      ((encodeFlags packet &&& 0b0000_0010) != 0) = packet.ordered ∧
      ((encodeFlags packet &&& 0b0000_0100) != 0) = packet.sequenced := by
  unfold encodeFlags
  cases packet.reliable <;> cases packet.ordered <;> cases packet.sequenced <;>
    by_cases h : 0 < packet.fragmentCount <;> simp only [h] <;> decide

/-- A channel id is the text its own bytes spell. -/
theorem stringFromUtf8_channelBytes (channelId : String) :
    stringFromUtf8 (channelBytes channelId) = .ok channelId := by
  have hvalid : (⟨channelId.toByteArray.data⟩ : ByteArray).IsValidUTF8 := channelId.isValidUTF8
  simp only [stringFromUtf8, channelBytes, String.toUTF8_eq_toByteArray, Array.toArray_toList,
    String.fromUTF8?, dif_pos hvalid]
  rfl

/-! ### Reading the whole packet -/

/-- What the decoder sees at each offset of an encoded packet. -/
structure Fields (packet : Packet) (wire : List UInt8) : Prop where
  magic : slice wire 0 4 = rudpMagic
  version : wire.getD 4 0 = rudpVersion
  typeCode : wire.getD 5 0 = packetTypeToCode packet.packetType
  flags : wire.getD 6 0 = encodeFlags packet
  headerBytes : wire.getD 7 0
    = UInt8.ofNat (rudpFixedHeaderBytes + (channelBytes packet.channelId).length)
  connectionId : u32At wire 8 = packet.connectionId
  sequence : u32At wire 12 = packet.sequence
  ack : u32At wire 16 = packet.ack
  ackMask : u32At wire 20 = packet.ackMask
  fragmentId : u16At wire 24 = packet.fragmentId
  fragmentIndex : u16At wire 26 = packet.fragmentIndex
  fragmentCount : u16At wire 28 = packet.fragmentCount
  payloadLen : u32At wire 30 = UInt32.ofNat packet.payload.length
  channelIdLen : wire.getD 34 0 = UInt8.ofNat (channelBytes packet.channelId).length

theorem fields_wireOf (packet : Packet) : Fields packet (wireOf packet) where
  magic := rfl
  version := rfl
  typeCode := rfl
  flags := rfl
  headerBytes := rfl
  connectionId := u32At_of_slice rfl
  sequence := u32At_of_slice rfl
  ack := u32At_of_slice rfl
  ackMask := u32At_of_slice rfl
  fragmentId := u16At_of_slice rfl
  fragmentIndex := u16At_of_slice rfl
  fragmentCount := u16At_of_slice rfl
  payloadLen := u32At_of_slice rfl
  channelIdLen := rfl

/-- Past the fixed header come the channel id and the payload. -/
theorem drop_header (packet : Packet) :
    (wireOf packet).drop 36 = channelBytes packet.channelId ++ packet.payload := rfl

theorem slice_channel (packet : Packet) :
    slice (wireOf packet) rudpFixedHeaderBytes
      (rudpFixedHeaderBytes + (channelBytes packet.channelId).length)
      = channelBytes packet.channelId := by
  unfold slice
  rw [show rudpFixedHeaderBytes = 36 from rfl, drop_header]
  simp

theorem drop_payload (packet : Packet) :
    (wireOf packet).drop (rudpFixedHeaderBytes + (channelBytes packet.channelId).length)
      = packet.payload := by
  rw [show rudpFixedHeaderBytes = 36 from rfl, ← List.drop_drop, drop_header]
  simp

theorem not_short (packet : Packet) : ¬ (wireOf packet).length < rudpFixedHeaderBytes := by
  rw [length_wireOf, rudpFixedHeaderBytes]
  omega

/-- The one-byte header length is right exactly when 36 more still fits in a byte. -/
theorem headerByte_eq_iff {n : Nat} (h : n ≤ 255) :
    (UInt8.ofNat (rudpFixedHeaderBytes + n)).toNat
      = rudpFixedHeaderBytes + (UInt8.ofNat n).toNat ↔ n ≤ 219 := by
  simp only [rudpFixedHeaderBytes, UInt8.toNat_ofNat']
  omega

/-- A short channel id: every field is read back. -/
theorem decode_wireOf {packet : Packet} (hpayload : packet.payload.length < 2 ^ 32)
    (hchannel : (channelBytes packet.channelId).length ≤ 219) :
    decodeRudpPacket (wireOf packet) = .ok packet := by
  have hf := fields_wireOf packet
  obtain ⟨hreliable, hordered, hsequenced⟩ := flags_roundTrip packet
  have hheader : (UInt8.ofNat (rudpFixedHeaderBytes
      + (channelBytes packet.channelId).length)).toNat
      = rudpFixedHeaderBytes + (channelBytes packet.channelId).length := by
    simp [rudpFixedHeaderBytes]
    omega
  have hchannelLen : (UInt8.ofNat (channelBytes packet.channelId).length).toNat
      = (channelBytes packet.channelId).length := by
    simp
    omega
  have hpayloadLen : (UInt32.ofNat packet.payload.length).toNat = packet.payload.length := by
    simpa using hpayload
  have hsize : (wireOf packet).length = rudpFixedHeaderBytes
      + (channelBytes packet.channelId).length + packet.payload.length := length_wireOf packet
  unfold decodeRudpPacket
  rw [if_neg (not_short packet)]
  simp only [hf.magic, hf.version, hf.typeCode, hf.headerBytes,
    hf.channelIdLen, hf.payloadLen, hheader, hchannelLen, hpayloadLen, packetType_roundTrip,
    slice_channel, drop_payload, stringFromUtf8_channelBytes, hf.flags, hf.connectionId,
    hf.sequence, hf.ack, hf.ackMask, hf.fragmentId, hf.fragmentIndex, hf.fragmentCount, hreliable,
    hordered, hsequenced, ne_eq, not_true, if_false, hsize]
  rfl

/-- A long channel id: the header length has wrapped and the decoder refuses it. -/
theorem decode_wireOf_long {packet : Packet}
    (hlong : 219 < (channelBytes packet.channelId).length)
    (hadmitted : (channelBytes packet.channelId).length ≤ 255) :
    decodeRudpPacket (wireOf packet)
      = .error "CultNet RUDP packet header length does not match the channel id length" := by
  have hf := fields_wireOf packet
  have hwrapped := mt (headerByte_eq_iff hadmitted).mp (Nat.not_le.mpr hlong)
  unfold decodeRudpPacket
  simp only [if_neg (not_short packet), hf.magic, hf.version, hf.typeCode, hf.headerBytes,
    hf.channelIdLen, packetType_roundTrip, ne_eq, not_true, if_false]
  show (if ¬ (UInt8.ofNat (rudpFixedHeaderBytes + (channelBytes packet.channelId).length)).toNat
      = rudpFixedHeaderBytes + (UInt8.ofNat (channelBytes packet.channelId).length).toNat
    then _ else _) = _
  rw [if_pos hwrapped]
  rfl

/--
**Encoding then decoding is the identity exactly for channel ids of at most 219
bytes.**  Above that the encoder still answers, and the decoder refuses what it
wrote.
-/
theorem decode_encode_iff (packet : Packet) (wire : List UInt8)
    (hpayload : packet.payload.length < 2 ^ 32) (hencode : encodeRudpPacket packet = .ok wire) :
    decodeRudpPacket wire = .ok packet ↔ (channelBytes packet.channelId).length ≤ 219 := by
  obtain ⟨hadmitted, rfl⟩ := encode_ok_iff.mp hencode
  constructor
  · intro hdecode
    by_contra hlong
    rw [decode_wireOf_long (Nat.not_le.mp hlong) hadmitted] at hdecode
    cases hdecode
  · exact decode_wireOf hpayload

/-- The packet of the crate's own codec fixture. -/
def fixturePacket : Packet where
  packetType := .data
  connectionId := 0x01020304
  sequence := 0x2a
  ack := 0x29
  ackMask := 0x80000001
  channelId := "schema"
  reliable := true
  ordered := true
  sequenced := false
  fragmentId := 7
  fragmentIndex := 1
  fragmentCount := 3
  payload := [104, 101, 108, 108, 111]

/-- The bytes the fixture pins down. -/
def fixtureWire : List UInt8 :=
  [67, 78, 82, 48, 0, 3, 11, 42, 1, 2, 3, 4, 0, 0, 0, 42, 0, 0, 0, 41, 128, 0, 0, 1, 0, 7,
    0, 1, 0, 3, 0, 0, 0, 5, 6, 0, 115, 99, 104, 101, 109, 97, 104, 101, 108, 108, 111]

theorem decode_encode_fixture : decodeRudpPacket fixtureWire = .ok fixturePacket :=
  (decode_encode_iff fixturePacket fixtureWire (by decide) (by decide)).mpr (by decide)

/-- The fixture on the shortest channel id the decoder refuses, 220 bytes long. -/
def longChannelPacket : Packet :=
  { fixturePacket with channelId := String.ofList (List.replicate 220 'a') }

/-- The encoder takes a 220-byte channel id and the decoder does not give it back. -/
theorem long_channel_not_decoded :
    longChannelPacket.payload.length < 2 ^ 32 ∧
      encodeRudpPacket longChannelPacket = .ok (wireOf longChannelPacket) ∧
      decodeRudpPacket (wireOf longChannelPacket) ≠ .ok longChannelPacket := by
  have hlength : (channelBytes longChannelPacket.channelId).length = 220 := by decide +kernel
  have hadmitted : (channelBytes longChannelPacket.channelId).length ≤ 255 := by omega
  refine ⟨by decide, encode_ok_iff.mpr ⟨hadmitted, rfl⟩, ?_⟩
  rw [decode_wireOf_long (by omega) hadmitted]
  simp

/-! ### What an accepted datagram leaves open -/

/-- `wireOf` with any flags and any reserved byte. -/
def wireWith (packet : Packet) (flags reserved : UInt8) : List UInt8 :=
  rudpMagic ++ (rudpVersion :: packetTypeToCode packet.packetType :: flags
    :: UInt8.ofNat (rudpFixedHeaderBytes + (channelBytes packet.channelId).length)
    :: (u32Bytes packet.connectionId ++ (u32Bytes packet.sequence ++ (u32Bytes packet.ack
    ++ (u32Bytes packet.ackMask ++ (u16Bytes packet.fragmentId ++ (u16Bytes packet.fragmentIndex
    ++ (u16Bytes packet.fragmentCount ++ (u32Bytes (UInt32.ofNat packet.payload.length)
    ++ UInt8.ofNat (channelBytes packet.channelId).length :: reserved
    :: (channelBytes packet.channelId ++ packet.payload))))))))))

/-- The encoder's own flags and reserved byte. -/
theorem wireWith_encodeFlags (packet : Packet) :
    wireWith packet (encodeFlags packet) 0 = wireOf packet := rfl

/-- The flags and the reserved byte stand at the offsets 6 and 35, and nowhere else. -/
theorem wireWith_eq_set (packet : Packet) (flags reserved : UInt8) :
    wireWith packet flags reserved = ((wireOf packet).set 6 flags).set 35 reserved := rfl

/-- Datagrams that differ at most in the upper five flag bits and in the reserved byte. -/
structure Alike (wire wire' : List UInt8) : Prop where
  length : wire'.length = wire.length
  bytes : ∀ i, i ≠ 6 → i ≠ 35 → wire'[i]? = wire[i]?
  flags : wire'.getD 6 0 &&& 0b0000_0111 = wire.getD 6 0 &&& 0b0000_0111

theorem alike_wireWith (packet : Packet) {flags flags' : UInt8} (reserved reserved' : UInt8)
    (h : flags' &&& 0b0000_0111 = flags &&& 0b0000_0111) :
    Alike (wireWith packet flags reserved) (wireWith packet flags' reserved') where
  length := by simp only [wireWith_eq_set, List.length_set]
  bytes := by
    intro i hflags hreserved
    simp only [wireWith_eq_set, List.getElem?_set_ne (Ne.symm hflags),
      List.getElem?_set_ne (Ne.symm hreserved)]
  flags := h

/-- What the decoder checked and read of a datagram it accepted. -/
structure Accepted (wire : List UInt8) (packet : Packet) : Prop where
  long : 36 ≤ wire.length
  magic : slice wire 0 4 = rudpMagic
  version : wire.getD 4 0 = rudpVersion
  typeCode : packetTypeFromCode (wire.getD 5 0) = .ok packet.packetType
  headerBytes : (wire.getD 7 0).toNat = 36 + (wire.getD 34 0).toNat
  size : wire.length = (wire.getD 7 0).toNat + (u32At wire 30).toNat
  channelId : stringFromUtf8 (slice wire 36 (wire.getD 7 0).toNat) = .ok packet.channelId
  packet_eq : packet = {
    packetType := packet.packetType
    reliable := (wire.getD 6 0 &&& 0b0000_0001) != 0
    ordered := (wire.getD 6 0 &&& 0b0000_0010) != 0
    sequenced := (wire.getD 6 0 &&& 0b0000_0100) != 0
    connectionId := u32At wire 8
    sequence := u32At wire 12
    ack := u32At wire 16
    ackMask := u32At wire 20
    fragmentId := u16At wire 24
    fragmentIndex := u16At wire 26
    fragmentCount := u16At wire 28
    channelId := packet.channelId
    payload := wire.drop (wire.getD 7 0).toNat }

theorem accepted_of_decode {wire : List UInt8} {packet : Packet}
    (h : decodeRudpPacket wire = .ok packet) : Accepted wire packet := by
  unfold decodeRudpPacket at h
  obtain ⟨hlong, h⟩ := Fallible.guard_throw_eq_ok.mp h
  obtain ⟨hmagic, h⟩ := Fallible.guard_throw_eq_ok.mp h
  obtain ⟨hversion, h⟩ := Fallible.guard_throw_eq_ok.mp h
  obtain ⟨packetType, htype, h⟩ := Fallible.bind_eq_ok.mp h
  obtain ⟨hheader, h⟩ := Fallible.guard_throw_eq_ok.mp h
  obtain ⟨hsize, h⟩ := Fallible.guard_throw_eq_ok.mp h
  obtain ⟨channelId, hchannel, h⟩ := Fallible.bind_eq_ok.mp h
  cases h
  exact ⟨Nat.le_of_not_lt hlong, not_not.mp hmagic, not_not.mp hversion, htype,
    not_not.mp hheader, not_not.mp hsize, hchannel, rfl⟩

theorem slice_append_drop (wire : List UInt8) {start stop : Nat} (h : start ≤ stop) :
    slice wire start stop ++ wire.drop stop = wire.drop start := by
  obtain ⟨n, rfl⟩ := Nat.exists_eq_add_of_le h
  unfold slice
  rw [Nat.add_sub_cancel_left, ← List.drop_drop, List.take_append_drop]

theorem getD_cons_drop {wire : List UInt8} {i : Nat} (h : i < wire.length) :
    wire.getD i 0 :: wire.drop (i + 1) = wire.drop i := by
  rw [List.getD_eq_getElem?_getD, List.getElem?_eq_getElem h, Option.getD_some,
    List.drop_eq_getElem_cons h]

/-- A datagram is its fields laid end to end. -/
theorem layout {wire : List UInt8} (h : 36 ≤ wire.length) :
    wire = slice wire 0 4 ++ (wire.getD 4 0 :: wire.getD 5 0 :: wire.getD 6 0 :: wire.getD 7 0
      :: (slice wire 8 12 ++ (slice wire 12 16 ++ (slice wire 16 20 ++ (slice wire 20 24
      ++ (slice wire 24 26 ++ (slice wire 26 28 ++ (slice wire 28 30 ++ (slice wire 30 34
      ++ wire.getD 34 0 :: wire.getD 35 0 :: wire.drop 36))))))))) := by
  rw [getD_cons_drop (i := 35) (by omega), getD_cons_drop (i := 34) (by omega),
    slice_append_drop wire (by decide : 30 ≤ 34), slice_append_drop wire (by decide : 28 ≤ 30),
    slice_append_drop wire (by decide : 26 ≤ 28), slice_append_drop wire (by decide : 24 ≤ 26),
    slice_append_drop wire (by decide : 20 ≤ 24), slice_append_drop wire (by decide : 16 ≤ 20),
    slice_append_drop wire (by decide : 12 ≤ 16), slice_append_drop wire (by decide : 8 ≤ 12),
    getD_cons_drop (i := 7) (by omega), getD_cons_drop (i := 6) (by omega),
    getD_cons_drop (i := 5) (by omega), getD_cons_drop (i := 4) (by omega),
    slice_append_drop wire (by decide : 0 ≤ 4), List.drop_zero]

theorem length_slice {wire : List UInt8} (start : Nat) {stop : Nat} (h : stop ≤ wire.length) :
    (slice wire start stop).length = stop - start := by
  unfold slice
  rw [List.length_take, List.length_drop]
  omega

/-- A number read at an offset is written as the bytes that were there. -/
theorem u32Bytes_u32At {wire : List UInt8} {start : Nat} (h : start + 4 ≤ wire.length) :
    u32Bytes (u32At wire start) = slice wire start (start + 4) := by
  have hlength := length_slice start h
  rw [Nat.add_sub_cancel_left] at hlength
  have hlt := BigEndian.value_lt (slice wire start (start + 4))
  have hbytes := BigEndian.bytes_value (slice wire start (start + 4))
  rw [hlength] at hlt hbytes
  unfold u32Bytes u32At
  rw [UInt32.toNat_ofNat_of_lt' hlt, hbytes]

theorem u16Bytes_u16At {wire : List UInt8} {start : Nat} (h : start + 2 ≤ wire.length) :
    u16Bytes (u16At wire start) = slice wire start (start + 2) := by
  have hlength := length_slice start h
  rw [Nat.add_sub_cancel_left] at hlength
  have hlt := BigEndian.value_lt (slice wire start (start + 2))
  have hbytes := BigEndian.bytes_value (slice wire start (start + 2))
  rw [hlength] at hlt hbytes
  unfold u16Bytes u16At
  rw [UInt16.toNat_ofNat_of_lt' hlt, hbytes]

theorem packetTypeToCode_of_fromCode {code : UInt8} {t : PacketType}
    (h : packetTypeFromCode code = .ok t) : packetTypeToCode t = code := by
  unfold packetTypeFromCode at h
  repeat' split at h
  all_goals first
    | cases h; rename_i heq; exact heq.symm
    | cases h

/-- Bytes that spell a text are the bytes of that text. -/
theorem channelBytes_of_stringFromUtf8 {bytes : List UInt8} {text : String}
    (h : stringFromUtf8 bytes = .ok text) : channelBytes text = bytes := by
  unfold stringFromUtf8 String.fromUTF8? at h
  split at h
  · rename_i heq
    cases h
    split at heq
    · cases heq
      rfl
    · cases heq
  · cases h

private theorem low_flags_table : ∀ i : Fin 256, ((if (UInt8.ofNat i.val &&& 1) != 0 then 1 else 0)
    ||| (if (UInt8.ofNat i.val &&& 2) != 0 then 2 else 0)
    ||| (if (UInt8.ofNat i.val &&& 4) != 0 then 4 else 0) : UInt8) = UInt8.ofNat i.val &&& 7 := by
  decide +kernel

/-- The three flags that are read determine the three bits they were read from. -/
theorem low_flags (flags : UInt8) :
    ((if (flags &&& 1) != 0 then 1 else 0) ||| (if (flags &&& 2) != 0 then 2 else 0)
      ||| (if (flags &&& 4) != 0 then 4 else 0) : UInt8) = flags &&& 7 := by
  have htable := low_flags_table ⟨flags.toNat, flags.toNat_lt⟩
  rwa [UInt8.ofNat_toNat] at htable

/-- The fragment bit is not among those three. -/
theorem encodeFlags_low (packet : Packet) : encodeFlags packet &&& 7 =
    (if packet.reliable then 1 else 0) ||| (if packet.ordered then 2 else 0)
      ||| (if packet.sequenced then 4 else 0) := by
  unfold encodeFlags
  cases packet.reliable <;> cases packet.ordered <;> cases packet.sequenced <;>
    by_cases h : 0 < packet.fragmentCount <;> simp only [h] <;> decide

/-- **An accepted datagram is the wire form of its packet**, up to flags and reserved byte. -/
theorem Accepted.wire_eq {wire : List UInt8} {packet : Packet} (h : Accepted wire packet) :
    wire = wireWith packet (wire.getD 6 0) (wire.getD 35 0) ∧
      wire.getD 6 0 &&& 7 = encodeFlags packet &&& 7 ∧
      (channelBytes packet.channelId).length ≤ 255 := by
  have hsize := h.size
  have hheader := h.headerBytes
  have hbyte := (wire.getD 7 0).toNat_lt
  have hlong := h.long
  have hchannel := channelBytes_of_stringFromUtf8 h.channelId
  have hlength : (channelBytes packet.channelId).length = (wire.getD 34 0).toNat := by
    rw [hchannel, length_slice _ (by omega)]
    omega
  have hpayload : packet.payload = wire.drop (wire.getD 7 0).toNat :=
    congrArg Packet.payload h.packet_eq
  have hpayloadLen : UInt32.ofNat packet.payload.length = u32At wire 30 := by
    rw [hpayload, List.length_drop, hsize, Nat.add_sub_cancel_left, UInt32.ofNat_toNat]
  have htail : channelBytes packet.channelId ++ packet.payload = wire.drop 36 := by
    rw [hchannel, hpayload, slice_append_drop wire (by omega)]
  refine ⟨?_, ?_, by omega⟩
  · have hheaderByte : UInt8.ofNat (rudpFixedHeaderBytes + (channelBytes packet.channelId).length)
        = wire.getD 7 0 := by
      rw [hlength, show rudpFixedHeaderBytes = 36 from rfl, ← hheader, UInt8.ofNat_toNat]
    have hchannelByte : UInt8.ofNat (channelBytes packet.channelId).length = wire.getD 34 0 := by
      rw [hlength, UInt8.ofNat_toNat]
    unfold wireWith
    rw [hheaderByte, hchannelByte, hpayloadLen, htail, ← h.magic, ← h.version,
      packetTypeToCode_of_fromCode h.typeCode,
      show packet.connectionId = u32At wire 8 from congrArg Packet.connectionId h.packet_eq,
      show packet.sequence = u32At wire 12 from congrArg Packet.sequence h.packet_eq,
      show packet.ack = u32At wire 16 from congrArg Packet.ack h.packet_eq,
      show packet.ackMask = u32At wire 20 from congrArg Packet.ackMask h.packet_eq,
      show packet.fragmentId = u16At wire 24 from congrArg Packet.fragmentId h.packet_eq,
      show packet.fragmentIndex = u16At wire 26 from congrArg Packet.fragmentIndex h.packet_eq,
      show packet.fragmentCount = u16At wire 28 from congrArg Packet.fragmentCount h.packet_eq,
      u32Bytes_u32At (by omega), u32Bytes_u32At (by omega), u32Bytes_u32At (by omega),
      u32Bytes_u32At (by omega), u32Bytes_u32At (by omega), u16Bytes_u16At (by omega),
      u16Bytes_u16At (by omega), u16Bytes_u16At (by omega)]
    exact layout hlong
  · rw [encodeFlags_low, ← low_flags, h.packet_eq]

/--
**An accepted datagram is determined by its packet.**  Encoding what was decoded gives the
datagram back, up to the flag bits that are not read and the reserved byte, and nothing
else tells apart two accepted datagrams of one packet.
-/
theorem encode_decode_alike {wire : List UInt8} {packet : Packet}
    (h : decodeRudpPacket wire = .ok packet) :
    (∃ wire', encodeRudpPacket packet = .ok wire' ∧ Alike wire wire') ∧
      ∀ other, decodeRudpPacket other = .ok packet → Alike wire other := by
  obtain ⟨hwire, hflags, hlength⟩ := (accepted_of_decode h).wire_eq
  refine ⟨⟨wireOf packet, encode_ok_iff.mpr ⟨hlength, rfl⟩, ?_⟩, ?_⟩
  · rw [hwire, ← wireWith_encodeFlags]
    exact alike_wireWith packet _ _ hflags.symm
  · intro other hother
    obtain ⟨hwire', hflags', -⟩ := (accepted_of_decode hother).wire_eq
    rw [hwire, hwire']
    exact alike_wireWith packet _ _ (hflags'.trans hflags.symm)

/-- The fixture with the fragment bit cleared, an unused bit set and a reserved byte. -/
theorem encode_decode_alike_fixture :
    decodeRudpPacket ((fixtureWire.set 6 0b1000_0011).set 35 9) = .ok fixturePacket ∧
      (∃ wire', encodeRudpPacket fixturePacket = .ok wire' ∧
        Alike ((fixtureWire.set 6 0b1000_0011).set 35 9) wire') := by
  have hdecode : decodeRudpPacket ((fixtureWire.set 6 0b1000_0011).set 35 9)
      = .ok fixturePacket := by decide +kernel
  exact ⟨hdecode, (encode_decode_alike hdecode).1⟩

end CultNet.Rudp
