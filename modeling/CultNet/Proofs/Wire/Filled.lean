/-
What the check of a message says of a union that was read.

The readers of `gamecult.networking.v0` look at the types of the fields only, while
the encoder asks that texts are not blank, that credentials decode and that a
descriptor lists a wire contract.  The questions here ask the same of the wire
value: `filledText` of a text, `filledBytes` of a credential, and so on up to
`filledUnion`.  Each reader has a lemma that carries the check of what it read over
to the field it read it from.
-/
import CultNet.Proofs.Contracts
import CultNet.Proofs.Wire.Fields
import CultNet.Wire.Legacy

namespace CultNet

open MessagePack (Value)

/-! ### The questions -/

/-- A text, where there is one, is not blank. -/
def filledText (v : Option Value) : Bool :=
  (v.bind Value.asStr).all fun text => !isBlank text

/-- No text of an array is blank. -/
def filledTexts (v : Option Value) : Bool :=
  (v.bind Value.asArray).all fun items => items.all fun item => filledText (some item)

/-- A credential has bytes. -/
def filledBytes (v : Option Value) : Bool :=
  (v.bind Value.asSlice).all fun bytes => !bytes.isEmpty

/-- A descriptor has its texts filled and lists a wire contract. -/
def filledDescriptor (v : Value) : Bool :=
  v.asMap.all fun object =>
    filledText (entry object "schemaId") && filledText (entry object "schemaVersion") &&
      filledText (entry object "documentType") && filledText (entry object "title") &&
      filledText (entry object "contentHash") && filledText (entry object "schemaJson") &&
      ((entry object "wireContracts").bind Value.asArray).any fun items => !items.isEmpty

/-- Every descriptor of an array. -/
def filledDescriptors (v : Option Value) : Bool :=
  (v.bind Value.asArray).all fun items => items.all filledDescriptor

/-- The fields that a tag reads are filled. -/
def filledUnion (tag : Int) (payload : List Value) : Bool :=
  match tag with
  | 0 => filledBytes payload[0]? && filledBytes payload[1]? && filledBytes payload[2]?
  | 1 =>
    filledBytes payload[0]? && filledBytes payload[1]? && filledBytes payload[2]? &&
      filledBytes payload[3]?
  | 2 | 3 => filledBytes payload[0]? && filledBytes payload[1]?
  | 4 | 5 | 6 => filledText payload[0]?
  | 7 => filledText payload[0]? && filledTexts payload[2]?
  | 8 => filledText payload[0]? && filledDescriptors payload[1]?
  | _ => true

/-- A wire value of the union contract has its fields filled. -/
def legacyFilled (input : Value) : Bool :=
  match input.asArray with
  | some [tag, payload] =>
    match tag.asI64, payload.asArray with
    | some tag, some payload => filledUnion tag payload
    | _, _ => true
  | _ => true

/-! ### One field at a time -/

section Fields

variable {v : Option Value} {fieldName field : String}

theorem requireLegacyString_eq_ok {text : String} :
    requireLegacyString v fieldName = .ok text ↔ v.bind Value.asStr = some text := by
  unfold requireLegacyString
  cases v.bind Value.asStr <;> simp

theorem requireNonEmpty_of_requireLegacyString {text : String}
    (h : requireLegacyString v fieldName = .ok text) :
    requireNonEmpty text field = .ok () ↔ filledText v = true := by
  rw [requireNonEmpty_eq_ok, filledText, requireLegacyString_eq_ok.mp h]
  simp

theorem asStr_of_requireLegacyOptionalString {text : Option String}
    (h : requireLegacyOptionalString v fieldName = .ok text) : v.bind Value.asStr = text := by
  cases v with
  | none =>
      cases h
      rfl
  | some v =>
      unfold requireLegacyOptionalString at h
      by_cases hnil : v.isNil
      · obtain rfl := Value.isNil_eq_true.mp hnil
        cases h
        rfl
      · simp only [hnil] at h
        cases hread : requireLegacyString (some v) fieldName with
        | error e =>
            rw [hread] at h
            cases h
        | ok s =>
            rw [hread] at h
            cases h
            exact requireLegacyString_eq_ok.mp hread

theorem requireOptionalNonEmpty_of_requireLegacyOptionalString {text : Option String}
    (h : requireLegacyOptionalString v fieldName = .ok text) :
    requireOptionalNonEmpty text field = .ok () ↔ filledText v = true := by
  rw [filledText, asStr_of_requireLegacyOptionalString h, requireOptionalNonEmpty_eq_ok]
  simp [Option.all_eq_true]

theorem eq_map_text_of_mapM_requireStringItem {items : List Value} {texts : List String}
    (h : items.mapM (requireStringItem fieldName) = .ok texts) : items = texts.map Value.text := by
  have hforall := Fallible.mapM_eq_ok.mp h
  clear h
  induction hforall with
  | nil => rfl
  | @cons item text _ _ hitem _ ih =>
      have htext : item.asStr = some text := by
        unfold requireStringItem at hitem
        cases hstr : item.asStr with
        | none => simp [hstr] at hitem
        | some s => simpa [hstr] using hitem
      rw [List.map_cons, ← ih, Value.asStr_eq_some.mp htext]

/-- An array that was read holds the texts that were read from it, and nothing else. -/
theorem asArray_of_requireLegacyOptionalStringArray {texts : Option (List String)}
    (h : requireLegacyOptionalStringArray v fieldName = .ok texts) :
    v.bind Value.asArray = texts.map fun texts => texts.map Value.text := by
  cases v with
  | none =>
      cases h
      rfl
  | some v =>
      unfold requireLegacyOptionalStringArray at h
      by_cases hnil : v.isNil
      · obtain rfl := Value.isNil_eq_true.mp hnil
        cases h
        rfl
      · simp only [hnil] at h
        cases harray : v.asArray with
        | none => simp [harray] at h
        | some items =>
            simp only [harray] at h
            cases hread : items.mapM (requireStringItem fieldName) with
            | error e =>
                rw [hread] at h
                cases h
            | ok texts' =>
                rw [hread] at h
                cases h
                simp [harray, eq_map_text_of_mapM_requireStringItem hread]

theorem requireOptionalStringVec_of_requireLegacyOptionalStringArray
    {texts : Option (List String)}
    (h : requireLegacyOptionalStringArray v fieldName = .ok texts) :
    requireOptionalStringVec texts field = .ok () ↔ filledTexts v = true := by
  rw [filledTexts, asArray_of_requireLegacyOptionalStringArray h, requireOptionalStringVec_eq_ok]
  simp [Option.all_eq_true, filledText]

theorem isEmpty_of_requireLegacyOptionalWireContracts {contracts : List WireContract}
    (h : requireLegacyOptionalWireContracts v fieldName = .ok contracts) :
    contracts.isEmpty = false ↔
      ((v.bind Value.asArray).any fun items => !items.isEmpty) = true := by
  obtain ⟨texts, htexts, h⟩ := Fallible.bind_eq_ok.mp h
  rw [asArray_of_requireLegacyOptionalStringArray htexts]
  cases texts with
  | none =>
      cases h
      simp
  | some texts =>
      cases Fallible.mapM_eq_ok.mp h <;> simp

end Fields

/-! ### Descriptors -/

theorem validate_of_requireLegacySchemaDescriptor {v : Value} {fieldName : String}
    {schema : SchemaDescriptor} (h : requireLegacySchemaDescriptor v fieldName = .ok schema) :
    schema.validate = .ok () ↔ filledDescriptor v = true := by
  unfold requireLegacySchemaDescriptor at h
  cases hmap : v.asMap with
  | none => simp [hmap] at h
  | some object =>
      simp only [hmap, Fallible.bind_eq_ok] at h
      obtain ⟨schemaId, h₁, kind, -, schemaVersion, h₂, documentType, h₃, title, h₄,
        wireContracts, h₅, contentHash, h₆, schemaJson, h₇, kind, -, h⟩ := h
      cases h
      simp only [SchemaDescriptor.validate, Fallible.check_bind_eq_ok,
        requireNonEmpty_of_requireLegacyString h₁,
        requireOptionalNonEmpty_of_requireLegacyOptionalString h₂,
        requireOptionalNonEmpty_of_requireLegacyOptionalString h₃,
        requireOptionalNonEmpty_of_requireLegacyOptionalString h₄,
        requireNonEmpty_of_requireLegacyString h₆,
        requireOptionalNonEmpty_of_requireLegacyOptionalString h₇, Fallible.throw_if_eq_ok,
        Bool.not_eq_true, isEmpty_of_requireLegacyOptionalWireContracts h₅]
      simp only [filledDescriptor, hmap, Option.all_some, Bool.and_eq_true, and_assoc]

theorem validate_of_requireLegacySchemaDescriptorArray {v : Option Value} {fieldName : String}
    {schemas : List SchemaDescriptor}
    (h : requireLegacySchemaDescriptorArray v fieldName = .ok schemas) :
    schemas.forM SchemaDescriptor.validate = .ok () ↔ filledDescriptors v = true := by
  unfold requireLegacySchemaDescriptorArray at h
  cases harray : v.bind Value.asArray with
  | none => simp [harray] at h
  | some items =>
      simp only [harray] at h
      rw [filledDescriptors, harray, Option.all_some, Fallible.forM_eq_ok, List.all_eq_true]
      have hvalid : List.Forall₂ (fun item schema =>
          filledDescriptor item.1 = true ↔ SchemaDescriptor.validate schema = .ok ())
          items.zipIdx schemas :=
        (Fallible.mapM_eq_ok.mp h).imp fun item schema hread =>
          (validate_of_requireLegacySchemaDescriptor hread).symm
      rw [← Fallible.forall_mem_iff_of_forall₂ hvalid]
      conv => rhs; rw [← List.zipIdx_map_fst 0 items]
      rw [List.forall_mem_map]

/-! ### Unions -/

section Unions

variable {engine : Base64Engine} {v : Option Value} {fieldName field : String}

/-- A byte string is empty exactly where its text is blank. -/
theorem isBlank_encode (hengine : engine.Lawful) (bytes : List UInt8) :
    isBlank (engine.encode bytes) = bytes.isEmpty := by
  cases bytes with
  | nil =>
      rw [hengine.encode_nil]
      rfl
  | cons b rest =>
      have hne : engine.encode (b :: rest) ≠ "" := by
        intro h
        have hdecode := hengine.decode_encode (b :: rest)
        rw [h, ← hengine.encode_nil, hengine.decode_encode] at hdecode
        cases hdecode
      obtain ⟨c, hc⟩ := List.exists_mem_of_ne_nil (engine.encode (b :: rest)).toList (by
        intro h
        exact hne (String.toList_eq_nil_iff.mp h))
      have halphabet : (Base64.alphabet.all fun c => !isWhitespace c) = true := by
        decide +kernel
      have hspace := List.all_eq_true.mp halphabet c (hengine.alphabet _ c hc)
      rw [isBlank, List.isEmpty_cons, List.all_eq_false]
      exact ⟨c, hc, by simpa using hspace⟩

theorem requireLegacyBytes_eq_ok {text : String} :
    requireLegacyBytes engine v fieldName = .ok text ↔
      ∃ bytes, v.bind Value.asSlice = some bytes ∧ engine.encode bytes = text := by
  unfold requireLegacyBytes
  cases v.bind Value.asSlice <;> simp

theorem requireNonEmpty_of_requireLegacyBytes (hengine : engine.Lawful) {text : String}
    (h : requireLegacyBytes engine v fieldName = .ok text) :
    requireNonEmpty text field = .ok () ↔ filledBytes v = true := by
  obtain ⟨bytes, hbytes, rfl⟩ := requireLegacyBytes_eq_ok.mp h
  rw [requireNonEmpty_eq_ok, isBlank_encode hengine, filledBytes, hbytes]
  simp

/-- A credential that was read and is not blank can be written again. -/
theorem legacyBytes_of_requireLegacyBytes (hengine : engine.Lawful) {text : String}
    (h : requireLegacyBytes engine v fieldName = .ok text)
    (hfilled : requireNonEmpty text field = .ok ()) :
    ∃ u, ∀ fieldName', legacyBytes engine text fieldName' = .ok u := by
  obtain ⟨bytes, -, rfl⟩ := requireLegacyBytes_eq_ok.mp h
  rw [requireNonEmpty_eq_ok] at hfilled
  refine ⟨.binary bytes, fun fieldName' => legacyBytes_eq_ok.mpr ⟨?_, bytes, ?_, rfl⟩⟩
  · simp [hfilled]
  · exact hengine.decode_encode bytes

/-- The check of a message that was read asks what `filledUnion` asks of the fields. -/
theorem validate_of_parseUnion (hengine : engine.Lawful) {tag : Int} {payload : List Value}
    {m : Message} (h : parseUnion engine tag payload = .ok m) :
    m.validate = .ok () ↔ filledUnion tag payload = true := by
  unfold parseUnion at h
  split at h
  case h_1 =>
    -- login
    simp only [Fallible.bind_eq_ok] at h
    obtain ⟨nonce, h₁, auth, h₂, password, h₃, h⟩ := h
    cases h
    rw [Message.validate, Fallible.check_bind_eq_ok, Fallible.check_bind_eq_ok,
      requireNonEmpty_of_requireLegacyBytes hengine h₁,
      requireNonEmpty_of_requireLegacyBytes hengine h₂,
      requireNonEmpty_of_requireLegacyBytes hengine h₃]
    simp [filledUnion, and_assoc]
  case h_2 =>
    -- register
    simp only [Fallible.bind_eq_ok] at h
    obtain ⟨nonce, h₁, email, h₂, password, h₃, name, h₄, h⟩ := h
    cases h
    rw [Message.validate, Fallible.check_bind_eq_ok, Fallible.check_bind_eq_ok,
      Fallible.check_bind_eq_ok, requireNonEmpty_of_requireLegacyBytes hengine h₁,
      requireNonEmpty_of_requireLegacyBytes hengine h₂,
      requireNonEmpty_of_requireLegacyBytes hengine h₃,
      requireNonEmpty_of_requireLegacyBytes hengine h₄]
    simp [filledUnion, and_assoc]
  case h_3 | h_4 =>
    -- verify and login success
    simp only [Fallible.bind_eq_ok] at h
    obtain ⟨nonce, h₁, session, h₂, h⟩ := h
    cases h
    rw [Message.validate, Fallible.check_bind_eq_ok,
      requireNonEmpty_of_requireLegacyBytes hengine h₁,
      requireNonEmpty_of_requireLegacyBytes hengine h₂]
    simp [filledUnion]
  case h_5 | h_6 | h_7 =>
    -- error, change of name and chat
    obtain ⟨text, h₁, h⟩ := Fallible.bind_eq_ok.mp h
    cases h
    exact requireNonEmpty_of_requireLegacyString h₁
  case h_8 =>
    -- schema catalog request
    simp only [Fallible.bind_eq_ok] at h
    obtain ⟨messageId, h₁, includeSchemaJson, -, schemaIds, h₂, kinds, -, h⟩ := h
    cases h
    rw [Message.validate, Fallible.check_bind_eq_ok, requireNonEmpty_of_requireLegacyString h₁,
      requireOptionalStringVec_of_requireLegacyOptionalStringArray h₂]
    simp [filledUnion]
  case h_9 =>
    -- schema catalog response
    simp only [Fallible.bind_eq_ok] at h
    obtain ⟨messageId, h₁, schemas, h₂, h⟩ := h
    cases h
    rw [Message.validate, Fallible.check_bind_eq_ok, requireNonEmpty_of_requireLegacyString h₁,
      validate_of_requireLegacySchemaDescriptorArray h₂]
    simp [filledUnion]
  case h_10 => cases h

/-- The check is all that the encoder asks of a message that was read. -/
theorem encode_of_parseUnion (hengine : engine.Lawful) {tag : Int} {payload : List Value}
    {m : Message} (h : parseUnion engine tag payload = .ok m) (hvalid : m.validate = .ok ()) :
    ∃ w, encodeGamecultNetworkingMessage engine m = .ok w := by
  unfold parseUnion at h
  split at h
  case h_1 =>
    simp only [Fallible.bind_eq_ok] at h
    obtain ⟨nonce, h₁, auth, h₂, password, h₃, h⟩ := h
    cases h
    rw [Message.validate, Fallible.check_bind_eq_ok, Fallible.check_bind_eq_ok] at hvalid
    obtain ⟨hnonce, hauth, hpassword⟩ := hvalid
    obtain ⟨v₁, hv₁⟩ := legacyBytes_of_requireLegacyBytes hengine h₁ hnonce
    obtain ⟨v₂, hv₂⟩ := legacyBytes_of_requireLegacyBytes hengine h₂ hauth
    obtain ⟨v₃, hv₃⟩ := legacyBytes_of_requireLegacyBytes hengine h₃ hpassword
    exact ⟨_, by rw [encodeGamecultNetworkingMessage, hv₁, hv₂, hv₃]; rfl⟩
  case h_2 =>
    simp only [Fallible.bind_eq_ok] at h
    obtain ⟨nonce, h₁, email, h₂, password, h₃, name, h₄, h⟩ := h
    cases h
    rw [Message.validate, Fallible.check_bind_eq_ok, Fallible.check_bind_eq_ok,
      Fallible.check_bind_eq_ok] at hvalid
    obtain ⟨hnonce, hemail, hpassword, hname⟩ := hvalid
    obtain ⟨v₁, hv₁⟩ := legacyBytes_of_requireLegacyBytes hengine h₁ hnonce
    obtain ⟨v₂, hv₂⟩ := legacyBytes_of_requireLegacyBytes hengine h₂ hemail
    obtain ⟨v₃, hv₃⟩ := legacyBytes_of_requireLegacyBytes hengine h₃ hpassword
    obtain ⟨v₄, hv₄⟩ := legacyBytes_of_requireLegacyBytes hengine h₄ hname
    exact ⟨_, by rw [encodeGamecultNetworkingMessage, hv₁, hv₂, hv₃, hv₄]; rfl⟩
  case h_3 | h_4 =>
    simp only [Fallible.bind_eq_ok] at h
    obtain ⟨nonce, h₁, session, h₂, h⟩ := h
    cases h
    rw [Message.validate, Fallible.check_bind_eq_ok] at hvalid
    obtain ⟨hnonce, hsession⟩ := hvalid
    obtain ⟨v₁, hv₁⟩ := legacyBytes_of_requireLegacyBytes hengine h₁ hnonce
    obtain ⟨v₂, hv₂⟩ := legacyBytes_of_requireLegacyBytes hengine h₂ hsession
    exact ⟨_, by rw [encodeGamecultNetworkingMessage, hv₁, hv₂]; rfl⟩
  case h_5 | h_6 | h_7 =>
    obtain ⟨text, -, h⟩ := Fallible.bind_eq_ok.mp h
    cases h
    exact ⟨_, rfl⟩
  case h_8 =>
    simp only [Fallible.bind_eq_ok] at h
    obtain ⟨messageId, -, includeSchemaJson, -, schemaIds, -, kinds, -, h⟩ := h
    cases h
    exact ⟨_, rfl⟩
  case h_9 =>
    -- a descriptor is always written
    simp only [Fallible.bind_eq_ok] at h
    obtain ⟨messageId, -, schemas, -, h⟩ := h
    cases h
    obtain ⟨vs, hvs⟩ := Fallible.exists_mapM_eq_ok (f := legacySchemaDescriptor)
      (fun schema => ⟨_, rfl⟩) schemas
    exact ⟨_, by rw [encodeGamecultNetworkingMessage, hvs]; rfl⟩
  case h_10 => cases h

/-- What a wire value that was read is made of. -/
theorem parseUnion_of_parseGamecultNetworkingMessage {w : Value} {m : Message}
    (h : parseGamecultNetworkingMessage engine w = .ok m) :
    ∃ tag payload t fields, w.asArray = some [tag, payload] ∧ tag.asI64 = some t ∧
      payload.asArray = some fields ∧ parseUnion engine t fields = .ok m := by
  unfold parseGamecultNetworkingMessage at h
  split at h
  case h_1 tag payload harray =>
    cases htag : tag.asI64 with
    | none => simp [htag] at h
    | some t =>
        cases hpayload : payload.asArray with
        | none => simp [htag, hpayload] at h
        | some fields =>
            simp only [htag, hpayload] at h
            exact ⟨tag, payload, t, fields, harray, htag, hpayload, h⟩
  case h_2 => cases h

/-- The same of a wire value. -/
theorem validate_of_parseGamecultNetworkingMessage (hengine : engine.Lawful) {w : Value}
    {m : Message} (h : parseGamecultNetworkingMessage engine w = .ok m) :
    (m.validate = .ok () ↔ legacyFilled w = true) ∧
      (m.validate = .ok () → ∃ w', encodeGamecultNetworkingMessage engine m = .ok w') := by
  obtain ⟨tag, payload, t, fields, harray, htag, hpayload, h⟩ :=
    parseUnion_of_parseGamecultNetworkingMessage h
  have hfilled : legacyFilled w = filledUnion t fields := by
    unfold legacyFilled
    rw [harray]
    simp only [htag, hpayload]
  rw [hfilled]
  exact ⟨validate_of_parseUnion hengine h, encode_of_parseUnion hengine h⟩

end Unions

end CultNet
