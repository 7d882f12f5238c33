/-
The canonical text of a schema.

`stableStringify` sorts the members of every object before it writes them, so what
it writes is the compact text of the value, whatever order the members of the tree
are in.  A compact text is of one value only.  So two trees have the same canonical
text exactly when they are the same value, and two registrations get the same input
for their content hashes exactly when their schemas are.
-/
import CultNet.Lib.JsonText
import CultNet.Lib.Sha256
import CultNet.Proofs.SchemaDiscovery

namespace CultNet

/-! ### The canonical text is the compact text of the value -/

/-- The tokens that `serde_json` writes. -/
def SchemaHashing.tokens (hashing : SchemaHashing) : JsonText.Tokens where
  number n := (hashing.numberText n).toList
  string s := (hashing.stringText s).toList

variable (hashing : SchemaHashing)

theorem stableItems_eq (items : List Json) :
    stableItems hashing items = items.map (stableStringify hashing) := by
  induction items with
  | nil => rfl
  | cons item rest ih => rw [stableItems, ih, List.map_cons]

theorem stableMembers_eq (members : List (String × Json)) :
    stableMembers hashing members = members.map fun m => (m.1, stableStringify hashing m.2) := by
  induction members with
  | nil => rfl
  | cons m rest ih => rw [stableMembers, ih, List.map_cons]

/-- The compact text of a value. -/
def compactText (value : JsonValue) : List Char := JsonText.compact hashing.tokens value.json

theorem compactText_array (items : List JsonValue) : compactText hashing (.array items)
    = '[' :: ([','].intercalate (items.map (compactText hashing)) ++ [']']) := by
  rw [compactText, JsonValue.array, JsonText.compact, JsonText.compactItems_eq, List.map_map]
  rfl

theorem compactText_object (members : List (String × JsonValue)) :
    compactText hashing (.object members)
      = '\x7b' :: ([','].intercalate ((Members.ofList members).map fun m =>
          (hashing.stringText m.1).toList ++ ':' :: compactText hashing m.2) ++ ['\x7d']) := by
  rw [compactText, JsonValue.object, JsonValue.sortedObject, JsonText.compact,
    JsonText.compactMembers_eq, List.map_map]
  rfl

/-- Members are sorted by their keys, and the texts of their values go along. -/
theorem sorted_stableMembers {members : List (String × Json)}
    (hkeys : (members.map Prod.fst).Nodup)
    (htext : ∀ m ∈ members, (stableStringify hashing m.2).toList = compactText hashing m.2.value) :
    ((stableMembers hashing members).insertionSort fun a b => a.1 ≤ b.1)
      = (Members.ofList (members.map fun m => (m.1, m.2.value))).map fun m =>
          (m.1, String.ofList (compactText hashing m.2)) := by
  have htexts : stableMembers hashing members
      = (members.map fun m => (m.1, m.2.value)).map fun m =>
          (m.1, String.ofList (compactText hashing m.2)) := by
    rw [stableMembers_eq, List.map_map]
    refine List.map_congr_left fun m hm => Prod.ext rfl ?_
    show stableStringify hashing m.2 = String.ofList (compactText hashing m.2.value)
    rw [← htext m hm, String.ofList_toList]
  have hvalues : ((members.map fun m => (m.1, m.2.value)).map Prod.fst).Nodup := by
    rwa [Members.map_keys]
  have hnodup : ((stableMembers hashing members).map Prod.fst).Nodup := by
    rwa [stableMembers_eq, Members.map_keys]
  rw [Members.insertionSort_eq_ofList hnodup, htexts]
  exact Members.ofList_map hvalues fun value => String.ofList (compactText hashing value)

theorem toList_stableStringify {v : Json} (hv : v.Distinct) :
    (stableStringify hashing v).toList = compactText hashing v.value := by
  induction hv with
  | null => simp [stableStringify, compactText, Json.value, JsonValue.null, JsonText.compact]
  | bool b =>
      cases b <;> simp [stableStringify, compactText, Json.value, JsonValue.bool, JsonText.compact]
  | number n => rfl
  | string s => rfl
  | @array items _ ih =>
      have hitems : items.map (String.toList ∘ stableStringify hashing)
          = items.map (compactText hashing ∘ Json.value) := List.map_congr_left ih
      rw [Json.value_array, compactText_array, stableStringify, stableItems_eq]
      simp [String.toList_intercalate, hitems]
  | @object members hkeys _ ih =>
      rw [Json.value_object, compactText_object, stableStringify]
      simp [sorted_stableMembers hashing hkeys ih, String.toList_intercalate, Function.comp_def]

variable {hashing}

/-- What the canonical text relies on of `serde_json`. -/
def SchemaHashing.Renders (hashing : SchemaHashing) : Prop := hashing.tokens.Lawful

/-- Canonical texts are the same when the values are. -/
theorem stableStringify_eq_iff (hrenders : hashing.Renders) {v w : Json} (hv : v.Distinct)
    (hw : w.Distinct) :
    stableStringify hashing v = stableStringify hashing w ↔ v.value = w.value := by
  rw [← String.toList_inj, toList_stableStringify hashing hv, toList_stableStringify hashing hw]
  exact ⟨JsonText.compact_injective hrenders, fun h => by rw [h]⟩

/-! ### The input of the content hash -/

/-- The bytes that are hashed for a schema. -/
def hashInput (hashing : SchemaHashing) (document : JsonValue) : List UInt8 :=
  (stableStringify hashing document.json).toUTF8.data.toList

theorem hashInput_eq_iff (hrenders : hashing.Renders) {document other : JsonValue} :
    hashInput hashing document = hashInput hashing other ↔ document = other := by
  have hbytes : hashInput hashing document = hashInput hashing other ↔
      stableStringify hashing document.json = stableStringify hashing other.json := by
    constructor
    · intro h
      exact String.toByteArray_inj.mp (ByteArray.ext (Array.toList_inj.mp h))
    · intro h
      rw [hashInput, h]
      rfl
  rw [hbytes, stableStringify_eq_iff hrenders document.canonical.distinct other.canonical.distinct,
    JsonValue.value_json, JsonValue.value_json]

/-- The registration carries a schema that reads as this document. -/
def SchemaRegistration.Carries (hashing : SchemaHashing) (r : SchemaRegistration)
    (document : JsonValue) : Prop :=
  ∃ schemaJson, r.schemaJson = some schemaJson ∧ hashing.fromStr schemaJson = .ok document

/-- A registration that is taken in is kept with the hash of its document. -/
theorem SchemaRegistry.register_hashes {registry registry' : SchemaRegistry}
    {r : SchemaRegistration} (h : register hashing registry r = .ok registry') :
    ∃ document, r.Carries hashing document ∧
      (registry'.get r.schemaId true).map SchemaDescriptor.contentHash
        = some (lowerHex (hashing.sha256 (hashInput hashing document))) := by
  obtain ⟨d, ⟨_, _, schemaJson, contentHash, hjson, hhash, rfl⟩, rfl⟩ := register_eq_ok.mp h
  obtain ⟨document, hdocument, hhash⟩ := Fallible.bind_eq_ok.mp hhash
  cases hhash
  refine ⟨document, ⟨schemaJson, hjson, hdocument⟩, ?_⟩
  rw [SchemaRegistry.get]
  simp only [SchemaRegistration.descriptor, OrderedMap.getElem?_insert_eq]
  rfl

/-- The canonical text identifies a schema: two trees have the same text exactly when they are the
same value, and two registrations that are taken in are kept with hashes of the same input exactly
when they carry the same document. -/
theorem canonical_text_identifies (hrenders : hashing.Renders) :
    (∀ v w : Json, v.Distinct → w.Distinct →
      (stableStringify hashing v = stableStringify hashing w ↔ v.value = w.value)) ∧
    ∀ (registry registry' other other' : SchemaRegistry) (r s : SchemaRegistration),
      registry.register hashing r = .ok registry' → other.register hashing s = .ok other' →
      ∃ document otherDocument, r.Carries hashing document ∧ s.Carries hashing otherDocument ∧
        (registry'.get r.schemaId true).map SchemaDescriptor.contentHash
          = some (lowerHex (hashing.sha256 (hashInput hashing document))) ∧
        (other'.get s.schemaId true).map SchemaDescriptor.contentHash
          = some (lowerHex (hashing.sha256 (hashInput hashing otherDocument))) ∧
        (hashInput hashing document = hashInput hashing otherDocument ↔
          document = otherDocument) := by
  refine ⟨fun v w hv hw => stableStringify_eq_iff hrenders hv hw, ?_⟩
  intro registry registry' other other' r s hr hs
  obtain ⟨document, hdocument, hhash⟩ := SchemaRegistry.register_hashes hr
  obtain ⟨otherDocument, hother, hotherHash⟩ := SchemaRegistry.register_hashes hs
  exact ⟨document, otherDocument, hdocument, hother, hhash, hotherHash, hashInput_eq_iff hrenders⟩

/-- Plain tokens, SHA-256, and a parser of the empty schema. -/
def plainHashing : SchemaHashing where
  fromStr := emptySchemaHashing.fromStr
  stringText s := String.ofList (JsonText.plainTokens.string s)
  numberText n := String.ofList (JsonText.plainTokens.number n)
  sha256 bytes := (Sha256.hash bytes).toList

theorem plainHashing_renders : plainHashing.Renders := by
  have htokens : plainHashing.tokens = JsonText.plainTokens := by
    simp only [SchemaHashing.tokens, plainHashing, String.toList_ofList]
  rw [SchemaHashing.Renders, htokens]
  exact JsonText.plainTokens_lawful

/-- The order of two members does not show. -/
theorem canonical_text_identifies_swapped :
    stableStringify plainHashing
        (.object [("type", .string "object"), ("minProperties", .number (.posInt 1))])
      = stableStringify plainHashing
        (.object [("minProperties", .number (.posInt 1)), ("type", .string "object")]) := by
  have hdistinct : Json.Distinct
      (.object [("type", .string "object"), ("minProperties", .number (.posInt 1))]) := by
    refine .object (by decide) fun m hm => ?_
    rcases List.mem_pair.mp hm with rfl | rfl
    · exact .string _
    · exact .number _
  have hswapped : Json.Distinct
      (.object [("minProperties", .number (.posInt 1)), ("type", .string "object")]) := by
    refine .object (by decide) fun m hm => ?_
    rcases List.mem_pair.mp hm with rfl | rfl
    · exact .number _
    · exact .string _
  refine ((canonical_text_identifies plainHashing_renders).1 _ _ hdistinct hswapped).mpr ?_
  rw [Json.value_object_eq_iff (by decide) (by decide)]
  intro key
  rw [Members.lookup_cons, Members.lookup_cons, Members.lookup_cons, Members.lookup_cons]
  by_cases htype : key = "type"
  · subst htype
    rfl
  · simp [htype]

end CultNet
