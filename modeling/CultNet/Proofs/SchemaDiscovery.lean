/-
A schema catalog against the check of the encoder.

What a registry keeps is the last registration of each schema id, with its content
hash.  Registering makes sure of the id, of the wire contracts and, through the
hash, of the schema itself; the three texts that a registration may leave out it
takes as they are.  The encoder refuses a descriptor whose text is there and
blank, so a catalog can be sent exactly when no registration that it lists has
such a text.
-/
import CultNet.Proofs.Contracts
import CultNet.Proofs.Wire
import CultNet.SchemaDiscovery

namespace CultNet

/-! ### The content hash -/

theorem isWhitespace_hexDigit : ∀ n < 16, isWhitespace (hexDigit n) = false := by
  decide

/-- A digest of at least one byte has a text. -/
theorem isBlank_lowerHex {bytes : List UInt8} (h : bytes ≠ []) :
    isBlank (lowerHex bytes) = false := by
  obtain ⟨b, rest, rfl⟩ := List.exists_cons_of_ne_nil h
  have hdigit : isWhitespace (hexDigit (b.toNat / 16)) = false :=
    isWhitespace_hexDigit _ (Nat.div_lt_of_lt_mul b.toNat_lt)
  simp [isBlank, lowerHex, hdigit]

variable {hashing : SchemaHashing}

/-- A schema that has a hash is not blank, and neither is the hash. -/
theorem canonicalSchemaHash_filled (hhashing : hashing.Lawful) {schemaJson contentHash : String}
    (h : canonicalSchemaHash hashing schemaJson = .ok contentHash) :
    isBlank schemaJson = false ∧ isBlank contentHash = false := by
  obtain ⟨value, hvalue, h⟩ := Fallible.bind_eq_ok.mp h
  cases h
  refine ⟨by simpa using hhashing.fromStr_blank _ _ hvalue, isBlank_lowerHex ?_⟩
  intro hnil
  have hlength := hhashing.sha256_length (stableStringify hashing value.json).toUTF8.data.toList
  rw [hnil] at hlength
  cases hlength

/-! ### What registering keeps -/

/-- The descriptor of a registration, with its content hash. -/
def SchemaRegistration.descriptor (r : SchemaRegistration) (contentHash : String) :
    SchemaDescriptor where
  schemaId := r.schemaId
  kind := r.kind
  schemaVersion := r.schemaVersion
  documentType := r.documentType
  title := r.title
  wireContracts := r.wireContracts
  contentHash
  schemaJson := r.schemaJson

/-- A registration is taken in, and this is what it is kept as. -/
def SchemaRegistration.KeptAs (hashing : SchemaHashing) (r : SchemaRegistration)
    (descriptor : SchemaDescriptor) : Prop :=
  isBlank r.schemaId = false ∧ r.wireContracts.isEmpty = false ∧
    ∃ schemaJson contentHash, r.schemaJson = some schemaJson ∧
      canonicalSchemaHash hashing schemaJson = .ok contentHash ∧
      descriptor = r.descriptor contentHash

/-- The texts that a registration may leave out are not blank where it has them. -/
def SchemaRegistration.Filled (r : SchemaRegistration) : Prop :=
  (∀ text ∈ r.schemaVersion, isBlank text = false) ∧
    (∀ text ∈ r.documentType, isBlank text = false) ∧ ∀ text ∈ r.title, isBlank text = false

namespace SchemaRegistry

theorem register_eq_ok {registry registry' : SchemaRegistry} {r : SchemaRegistration} :
    register hashing registry r = .ok registry' ↔
      ∃ d, r.KeptAs hashing d ∧ registry' = ⟨registry.entries.insert d.schemaId d⟩ := by
  unfold register SchemaRegistration.KeptAs
  by_cases hid : isBlank r.schemaId
  · simp [hid]
  by_cases hcontracts : r.wireContracts.isEmpty
  · simp [hid, hcontracts]
  cases hjson : r.schemaJson with
  | none => simp [hid, hcontracts]
  | some schemaJson =>
      simp only [hid, hcontracts]
      constructor
      · intro h
        obtain ⟨contentHash, hhash, h⟩ := Fallible.bind_eq_ok.mp h
        cases h
        exact ⟨_, ⟨trivial, trivial, schemaJson, contentHash, rfl, hhash, rfl⟩, by
          rw [SchemaRegistration.descriptor, hjson]⟩
      · intro ⟨d, ⟨_, _, _, contentHash, hsome, hhash, hd⟩, hregistry⟩
        cases hsome
        subst hd hregistry
        rw [SchemaRegistration.descriptor, hjson]
        exact Fallible.bind_eq_ok.mpr ⟨contentHash, hhash, rfl⟩

/-- Registering one after another keeps the descriptors, each under its schema id. -/
theorem entries_foldlM_register {registrations : List SchemaRegistration} :
    ∀ {registry registry' : SchemaRegistry},
      registrations.foldlM (register hashing) registry = .ok registry' →
        ∃ ds, List.Forall₂ (SchemaRegistration.KeptAs hashing) registrations ds ∧
          registry'.entries = ds.foldl (fun m d => m.insert d.schemaId d) registry.entries := by
  induction registrations with
  | nil =>
      intro registry registry' h
      cases h
      exact ⟨[], .nil, rfl⟩
  | cons r rest ih =>
      intro registry registry' h
      rw [List.foldlM_cons] at h
      obtain ⟨next, hnext, hrest⟩ := Fallible.bind_eq_ok.mp h
      obtain ⟨d, hd, rfl⟩ := register_eq_ok.mp hnext
      obtain ⟨ds, hds, hentries⟩ := ih hrest
      exact ⟨d :: ds, .cons hd hds, hentries⟩

end SchemaRegistry

/-! ### The registrations that stand -/

/-- A registration that no later one of the same schema id has replaced. -/
def Stands (registrations : List SchemaRegistration) (r : SchemaRegistration) : Prop :=
  registrations.reverse.find? (fun other => other.schemaId = r.schemaId) = some r

/-- A registration that the filters of a request let through. -/
def SchemaRegistration.Requested (schemaIds : Option (List String))
    (kinds : Option (List SchemaKind)) (r : SchemaRegistration) : Prop :=
  (∀ ids ∈ schemaIds, r.schemaId ∈ ids) ∧ ∀ kinds' ∈ kinds, r.kind ∈ kinds'

theorem SchemaRegistration.KeptAs.schemaId_eq {r : SchemaRegistration} {d : SchemaDescriptor}
    (h : r.KeptAs hashing d) : d.schemaId = r.schemaId := by
  obtain ⟨_, _, _, _, _, _, rfl⟩ := h
  rfl

/-- Under each schema id a registry holds what stands of the registrations. -/
theorem SchemaRegistry.rel_entries {registrations : List SchemaRegistration}
    {registry : SchemaRegistry} (h : registerAll hashing registrations = .ok registry)
    (schemaId : String) :
    Option.Rel (SchemaRegistration.KeptAs hashing)
      (registrations.reverse.find? fun r => r.schemaId = schemaId)
      registry.entries[schemaId]? := by
  obtain ⟨ds, hds, hentries⟩ := entries_foldlM_register h
  have hfound : registry.entries[schemaId]? =
      ds.reverse.find? fun d => d.schemaId = schemaId := by
    rw [hentries, OrderedMap.getElem?_foldl_insert]
    simp [new]
  rw [hfound]
  refine Fallible.find?_of_forall₂ (List.forall₂_reverse_iff.mpr hds) fun r d hkept => ?_
  rw [hkept.schemaId_eq]

/-- So a question about the entries is one about the registrations that stand. -/
theorem SchemaRegistry.forall_values_iff {registrations : List SchemaRegistration}
    {registry : SchemaRegistry} (h : registerAll hashing registrations = .ok registry)
    {P : SchemaDescriptor → Prop} {Q : SchemaRegistration → Prop}
    (hPQ : ∀ r d, r.KeptAs hashing d → (P d ↔ Q r)) :
    (∀ d ∈ registry.entries.values, P d) ↔ ∀ r, Stands registrations r → Q r := by
  constructor
  · intro hall r hstands
    have hrel := rel_entries h r.schemaId
    rw [hstands] at hrel
    cases hentry : registry.entries[r.schemaId]? with
    | none =>
        rw [hentry] at hrel
        cases hrel
    | some d =>
        rw [hentry] at hrel
        cases hrel with
        | some hkept => exact (hPQ r d hkept).mp (hall d (OrderedMap.mem_values.mpr ⟨_, hentry⟩))
  · intro hall d hd
    obtain ⟨schemaId, hentry⟩ := OrderedMap.mem_values.mp hd
    have hrel := rel_entries h schemaId
    rw [hentry] at hrel
    cases hfind : registrations.reverse.find? fun r => r.schemaId = schemaId with
    | none =>
        rw [hfind] at hrel
        cases hrel
    | some r =>
        rw [hfind] at hrel
        obtain rfl : r.schemaId = schemaId := by simpa using List.find?_some hfind
        cases hrel with
        | some hkept => exact (hPQ r d hkept).mpr (hall r hfind)

/-! ### The catalog -/

/-- A registration that was taken in is listed as a descriptor that passes the check exactly
when its texts are not blank. -/
theorem SchemaRegistration.KeptAs.validate_iff (hhashing : hashing.Lawful)
    {r : SchemaRegistration} {d : SchemaDescriptor} (h : r.KeptAs hashing d)
    (includeSchemaJson : Bool) :
    (sanitizeDescriptor d includeSchemaJson).validate = .ok () ↔ r.Filled := by
  obtain ⟨hid, hcontracts, schemaJson, contentHash, hjson, hhash, rfl⟩ := h
  obtain ⟨hfilledJson, hfilledHash⟩ := canonicalSchemaHash_filled hhashing hhash
  rw [SchemaDescriptor.validate_eq_ok, Filled]
  cases includeSchemaJson with
  | false => simp [sanitizeDescriptor, descriptor, hid, hcontracts, hfilledHash]
  | true => simp [sanitizeDescriptor, descriptor, hid, hcontracts, hfilledHash, hjson, hfilledJson]

theorem SchemaRegistration.KeptAs.selects_iff {r : SchemaRegistration} {d : SchemaDescriptor}
    (h : r.KeptAs hashing d) (options : SchemaCatalogOptions) :
    SchemaRegistry.selects options d = true ↔ r.Requested options.schemaIds options.kinds := by
  obtain ⟨_, _, _, _, _, _, rfl⟩ := h
  simp [SchemaRegistry.selects, Requested, descriptor, Option.all_eq_true]

/-- The check of what a registry lists. -/
theorem SchemaRegistry.validate_list_iff (hhashing : hashing.Lawful)
    {registrations : List SchemaRegistration} {registry : SchemaRegistry}
    (h : registerAll hashing registrations = .ok registry) (options : SchemaCatalogOptions) :
    (registry.list options).forM SchemaDescriptor.validate = .ok () ↔
      ∀ r, Stands registrations r → r.Requested options.schemaIds options.kinds → r.Filled := by
  rw [Fallible.forM_eq_ok, list, List.forall_mem_map]
  simp only [List.mem_filter, and_imp]
  refine forall_values_iff h fun r d hkept => ?_
  rw [hkept.selects_iff, hkept.validate_iff hhashing]

/-- A catalog is encoded under both contracts exactly when its check passes. -/
theorem encode_schemaCatalogResponse_iff {codecs : Codecs} (hcodecs : codecs.Faithful)
    (messageId : String) (schemas : List SchemaDescriptor) :
    (∀ contract, ∃ w, encodeCultnetMessageForWire codecs
        (.schemaCatalogResponse messageId schemas) contract = .ok w) ↔
      (Message.schemaCatalogResponse messageId schemas).validate = .ok () := by
  constructor
  · intro h
    obtain ⟨w, hw⟩ := h .cultNetSchemaV0
    exact (Fallible.check_bind_eq_ok.mp hw).1
  · intro hvalid contract
    cases contract with
    | cultNetSchemaV0 =>
        exact ⟨_, Fallible.check_bind_eq_ok.mpr ⟨hvalid, hcodecs.toWire_eq _⟩⟩
    | gameCultNetworkingV0 =>
        obtain ⟨vs, hvs⟩ := Fallible.exists_mapM_eq_ok (f := legacySchemaDescriptor)
          (fun schema => ⟨_, rfl⟩) schemas
        exact ⟨_, Fallible.check_bind_eq_ok.mpr
          ⟨hvalid, Fallible.bind_eq_ok.mpr ⟨vs, hvs, rfl⟩⟩⟩

/-- A catalog can be sent exactly when no registration that stands and is requested has a text
that is there and blank. -/
theorem SchemaRegistry.createCatalogResponse_sendable_iff {codecs : Codecs}
    (hcodecs : codecs.Faithful) (hhashing : hashing.Lawful)
    {registrations : List SchemaRegistration} {registry : SchemaRegistry}
    (hregistry : registerAll hashing registrations = .ok registry)
    {messageId : String} {includeSchemaJson : Option Bool} {schemaIds : Option (List String)}
    {kinds : Option (List SchemaKind)}
    (hrequest : (Message.schemaCatalogRequest messageId includeSchemaJson schemaIds
      kinds).validate = .ok ()) :
    ∃ response, registry.createCatalogResponse
        (.schemaCatalogRequest messageId includeSchemaJson schemaIds kinds) = .ok response ∧
      ((∀ contract, ∃ w, encodeCultnetMessageForWire codecs response contract = .ok w) ↔
        ∀ r, Stands registrations r → r.Requested schemaIds kinds → r.Filled) := by
  refine ⟨_, rfl, ?_⟩
  rw [encode_schemaCatalogResponse_iff hcodecs, Message.validate, Fallible.check_bind_eq_ok,
    validate_list_iff hhashing hregistry]
  rw [Message.validate, Fallible.check_bind_eq_ok] at hrequest
  simp [hrequest.1]

/-- A schema, and a parser and a hash that do with `\x7b\x7d` what the real ones do. -/
def emptySchemaHashing : SchemaHashing where
  fromStr text := if text = "\x7b\x7d" then .ok (.object []) else .error "not the empty schema"
  stringText := debugStr
  numberText _ := ""
  sha256 _ := [0x44, 0x13, 0x6f, 0xa3, 0x55, 0xb3, 0x67, 0x8a, 0x11, 0x46, 0xad, 0x16, 0xf7, 0xe8,
    0x64, 0x9e, 0x94, 0xfb, 0x4f, 0xc2, 0x1f, 0xe7, 0x7e, 0x83, 0x10, 0xc0, 0x60, 0xf6, 0x1c, 0xaa,
    0xff, 0x8a]

theorem emptySchemaHashing_lawful : emptySchemaHashing.Lawful where
  fromStr_blank text value h := by
    unfold emptySchemaHashing at h
    by_cases htext : text = "\x7b\x7d"
    · subst htext
      decide
    · simp [htext] at h
  sha256_length _ := rfl

/-- A registration of the empty schema under a title. -/
def titled (title : String) : SchemaRegistration where
  schemaId := "example.schema.v0"
  kind := .documentPayload
  wireContracts := [.cultNetSchemaV0]
  title := some title
  schemaJson := some "\x7b\x7d"

theorem SchemaRegistry.createCatalogResponse_sendable_titled :
    ∃ registry response, registerAll emptySchemaHashing [titled "Example"] = .ok registry ∧
      registry.createCatalogResponse (.schemaCatalogRequest "m" none none none) = .ok response ∧
      ∀ contract, ∃ w, encodeCultnetMessageForWire libraryCodecs response contract = .ok w := by
  obtain ⟨registry, hregistry⟩ :
      ∃ registry, registerAll emptySchemaHashing [titled "Example"] = .ok registry := ⟨_, rfl⟩
  have hrequest : (Message.schemaCatalogRequest "m" none none none).validate = .ok () := by decide
  obtain ⟨response, hresponse, hiff⟩ := createCatalogResponse_sendable_iff
    libraryCodecs_faithful emptySchemaHashing_lawful hregistry hrequest
  refine ⟨registry, response, hregistry, hresponse, hiff.mpr fun r hstands _ => ?_⟩
  have hr : (titled "Example").schemaId = r.schemaId ∧ titled "Example" = r := by
    simpa [Stands, List.find?_singleton] using hstands
  obtain ⟨-, rfl⟩ := hr
  have htitle : isBlank "Example" = false := by decide
  simpa [SchemaRegistration.Filled, titled] using htitle

/-- A title of no characters is taken in, and no catalog that lists it can be sent. -/
theorem SchemaRegistry.createCatalogResponse_unsendable :
    ∃ registry response, registerAll emptySchemaHashing [titled ""] = .ok registry ∧
      (Message.schemaCatalogRequest "m" none none none).validate = .ok () ∧
      registry.createCatalogResponse (.schemaCatalogRequest "m" none none none) = .ok response ∧
      ∀ codecs contract, encodeCultnetMessageForWire codecs response contract =
        .error "CultNet field title must be non-empty" :=
  ⟨_, _, rfl, rfl, rfl, fun _ _ => rfl⟩

end CultNet
