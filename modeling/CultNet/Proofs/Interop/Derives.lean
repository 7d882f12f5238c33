/-
What the derives of the records promise.

A value is read back from its payload, and no payload is empty.  The derives are of
another crate; `libraryInteropCodecs` keep the promise, with the fields of a record
in an array, in the order of their keys.
-/
import CultNet.Interop.Peer
import CultNet.Lib.MessagePackBytes
import CultNet.Wire

namespace CultNet.Interop

/-- A value is read back from its payload, which is not empty. -/
structure PayloadCodec.Lawful {T : Type} (codec : PayloadCodec T) : Prop where
  decode_encode : ∀ value payload, codec.encode value = .ok payload →
    codec.decode payload = .ok value
  encode_ne_nil : ∀ value, codec.encode value ≠ .ok []

/-- The derives keep their promise. -/
structure InteropCodecs.Lawful (codecs : InteropCodecs) : Prop where
  note : codecs.note.Lawful
  mutationIntent : codecs.mutationIntent.Lawful
  mutationReceipt : codecs.mutationReceipt.Lawful
  fireCommand : codecs.fireCommand.Lawful
  fireReceipt : codecs.fireReceipt.Lawful

/-! ### Fields in an array -/

open MessagePack

/-- How a field of a record is written. -/
class Field (α : Type) where
  write : α → Value
  read : Value → Option α
  read_write : ∀ a, read (write a) = some a
  depth_write : ∀ a, (write a).depth ≤ 1

attribute [simp] Field.read_write

instance : Field String where
  write text := .string (.valid text)
  read
    | .string (.valid text) => some text
    | _ => none
  read_write _ := rfl
  depth_write _ := Nat.zero_le _

instance : Field Bool where
  write value := .boolean value
  read
    | .boolean value => some value
    | _ => none
  read_write _ := rfl
  depth_write _ := Nat.zero_le _

instance : Field UInt32 where
  write n := .integer (.ofUInt64 n.toUInt64)
  read
    | .integer n => if 0 ≤ n.val ∧ n.val < 2 ^ 32 then some (UInt32.ofNat n.val.toNat) else none
    | _ => none
  read_write n := by
    have hbound : n.toNat < 4294967296 := n.toNat_lt
    simp [hbound]
  depth_write _ := Nat.zero_le _

theorem itemsDepth_le {items : List Value} {k : Nat} (h : ∀ item ∈ items, item.depth ≤ k) :
    Value.itemsDepth items ≤ k := by
  induction items with
  | nil => exact Nat.zero_le _
  | cons item rest ih =>
      rw [List.forall_mem_cons] at h
      exact Nat.max_le.mpr ⟨h.1, ih h.2⟩

instance : Field (List String) where
  write texts := .array (texts.map Field.write)
  read
    | .array items => items.mapM Field.read
    | _ => none
  read_write texts := Fallible.mapM_map_of_leftInverse Field.read_write texts
  depth_write texts := by
    refine Nat.succ_le_succ (itemsDepth_le fun item hitem => ?_)
    obtain ⟨text, -, rfl⟩ := List.mem_map.mp hitem
    exact Nat.le_refl 0

/-- How the fields of a record are written one after another. -/
class Fields (α : Type) where
  write : α → List Value
  read : List Value → Option α
  read_write : ∀ a, read (write a) = some a
  depth_write : ∀ a, ∀ item ∈ write a, item.depth ≤ 1

instance : Fields Unit where
  write _ := []
  read _ := some ()
  read_write _ := rfl
  depth_write _ := by simp

instance {α β : Type} [Field α] [Fields β] : Fields (α × β) where
  write fields := Field.write fields.1 :: Fields.write fields.2
  read
    | item :: rest => (Field.read item).bind fun a => (Fields.read rest).map fun b => (a, b)
    | [] => none
  read_write fields := by simp [Fields.read_write]
  depth_write fields := by
    simp only [List.forall_mem_cons]
    exact ⟨Field.depth_write _, Fields.depth_write _⟩

section Positional

variable {T α : Type} [Fields α] (toFields : T → α) (ofFields : α → T)

/-- The payload of a record is an array of its fields, if the lengths in it fit. -/
def positional : PayloadCodec T where
  encode value :=
    let payload := (Value.array (Fields.write (toFields value))).write
    if payload.length < 2 ^ 32 then .ok payload else .error "a length does not fit"
  decode payload :=
    match MessagePack.read rmpDepthLimit payload with
    | some (.array items, _) =>
      match Fields.read items with
      | some fields => .ok (ofFields fields)
      | none => .error "the array is no record"
    | _ => .error "the payload is no array"
  fromValue _ := .error "a record is not read from JSON"

theorem positional_encode_eq_ok {value : T} {payload : List UInt8}
    (h : (positional toFields ofFields).encode value = .ok payload) :
    payload.length < 2 ^ 32 ∧ payload = (Value.array (Fields.write (toFields value))).write := by
  simp only [positional] at h
  split at h
  · rename_i hfits
    rw [← Except.ok.inj h]
    exact ⟨hfits, rfl⟩
  · simp at h

theorem positional_lawful (hfields : ∀ value, ofFields (toFields value) = value) :
    (positional toFields ofFields).Lawful where
  decode_encode value payload h := by
    obtain ⟨hfits, rfl⟩ := positional_encode_eq_ok toFields ofFields h
    have hdepth : (Value.array (Fields.write (toFields value))).depth ≤ rmpDepthLimit := by
      have hitems := itemsDepth_le (Fields.depth_write (toFields value))
      simp only [Value.depth, rmpDepthLimit]
      omega
    have hread := MessagePack.read_write _ hdepth hfits []
    rw [List.append_nil] at hread
    simp [positional, hread, Fields.read_write, hfields]
  encode_ne_nil value h := by
    have hlength := congrArg List.length (positional_encode_eq_ok toFields ofFields h).2
    have hhead := (Value.array (Fields.write (toFields value))).head.length_write_pos
    rw [Value.write, List.length_append, List.length_nil] at hlength
    omega

end Positional

/-- The five records. -/
instance libraryInteropCodecs : InteropCodecs where
  note := positional
    (fun note => (note.schemaVersion, note.documentId, note.authorRuntimeId, note.title, note.body,
      note.tags, ()))
    fun (schemaVersion, documentId, authorRuntimeId, title, body, tags, _) =>
      { schemaVersion, documentId, authorRuntimeId, title, body, tags }
  mutationIntent := positional
    (fun intent => (intent.schemaVersion, intent.intentId, intent.targetDocumentId,
      intent.appendBody, intent.appendTag, ()))
    fun (schemaVersion, intentId, targetDocumentId, appendBody, appendTag, _) =>
      { schemaVersion, intentId, targetDocumentId, appendBody, appendTag }
  mutationReceipt := positional
    (fun receipt => (receipt.schemaVersion, receipt.intentId, receipt.accepted, receipt.documentId,
      receipt.body, receipt.tags, ()))
    fun (schemaVersion, intentId, accepted, documentId, body, tags, _) =>
      { schemaVersion, intentId, accepted, documentId, body, tags }
  fireCommand := positional
    (fun command => (command.schemaVersion, command.commandId, command.characterId,
      command.weaponId, ()))
    fun (schemaVersion, commandId, characterId, weaponId, _) =>
      { schemaVersion, commandId, characterId, weaponId }
  fireReceipt := positional
    (fun receipt => (receipt.schemaVersion, receipt.commandId, receipt.accepted,
      receipt.characterId, receipt.weaponId, receipt.shotsFired, receipt.ammoRemaining, ()))
    fun (schemaVersion, commandId, accepted, characterId, weaponId, shotsFired, ammoRemaining, _) =>
      { schemaVersion, commandId, accepted, characterId, weaponId, shotsFired, ammoRemaining }

theorem libraryInteropCodecs_lawful : libraryInteropCodecs.Lawful where
  note := positional_lawful _ _ fun _ => rfl
  mutationIntent := positional_lawful _ _ fun _ => rfl
  mutationReceipt := positional_lawful _ _ fun _ => rfl
  fireCommand := positional_lawful _ _ fun _ => rfl
  fireReceipt := positional_lawful _ _ fun _ => rfl

end CultNet.Interop
