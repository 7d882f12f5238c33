/-
JSON values.

`Json` is the syntax tree, with the members of an object in a list.  A map from
keys to values lists every key once and in order; `Canonical` says that of every
object of a tree, and a `JsonValue` is a tree with the proof.  An object is built
by inserting its members one after another, as into an ordered map, so building
cannot break the invariant.

Numbers come in the three kinds a decoder tells apart: unsigned 64-bit, negative
64-bit and finite binary64, the last kept as its bits.
-/
import Mathlib.Data.List.Basic
import Mathlib.Data.List.Sort
import Mathlib.Data.String.Basic

/-- A finite binary64 number, as its bits: 0.0 and -0.0 are two of them, and unlike a comparison
of the numbers equality tells them apart. -/
structure FiniteDouble where
  bits : UInt64
  finite : bits >>> 52 &&& 0x7FF ≠ 0x7FF
  deriving DecidableEq

/-- A number of a JSON text. -/
inductive JsonNumber where
  | posInt (value : UInt64)
  | negInt (value : Int64) (negative : value < 0)
  | float (value : FiniteDouble)
  deriving DecidableEq

/-- A JSON tree. -/
inductive Json where
  | null
  | bool (value : Bool)
  | number (value : JsonNumber)
  | string (value : String)
  | array (items : List Json)
  | object (members : List (String × Json))

/-! ### Ordered members -/

namespace Members

variable {α β : Type}

/-- Every key once, in increasing order. -/
def Sorted (members : List (String × α)) : Prop :=
  members.Pairwise (fun a b => a.1 < b.1)

/-- Bind a key, replacing what it was bound to. -/
def insert (key : String) (value : α) : List (String × α) → List (String × α)
  | [] => [(key, value)]
  | (k, v) :: rest =>
    if key < k then (key, value) :: (k, v) :: rest
    else if key = k then (key, value) :: rest
    else (k, v) :: insert key value rest

/-- Bind the keys of a list one after another. -/
def ofList (members : List (String × α)) : List (String × α) :=
  members.foldl (fun acc m => insert m.1 m.2 acc) []

theorem mem_of_mem_insert {key : String} {value : α} {members : List (String × α)}
    {m : String × α} (h : m ∈ insert key value members) : m = (key, value) ∨ m ∈ members := by
  induction members with
  | nil => simpa [insert] using h
  | cons head rest ih =>
      unfold insert at h
      split at h
      · simpa using h
      · split at h
        · rcases List.mem_cons.mp h with rfl | h
          · exact .inl rfl
          · exact .inr (List.mem_cons_of_mem _ h)
        · rcases List.mem_cons.mp h with rfl | h
          · exact .inr List.mem_cons_self
          · exact (ih h).imp_right (List.mem_cons_of_mem _)

theorem Sorted.insert {members : List (String × α)} (h : Sorted members) (key : String)
    (value : α) : Sorted (insert key value members) := by
  induction members with
  | nil => simp [Members.insert, Sorted]
  | cons head rest ih =>
      obtain ⟨hhead, hrest⟩ := List.pairwise_cons.mp h
      unfold Members.insert
      split
      case isTrue hlt =>
        refine List.pairwise_cons.mpr ⟨?_, h⟩
        intro m hm
        rcases List.mem_cons.mp hm with rfl | hm
        · exact hlt
        · exact hlt.trans (hhead m hm)
      case isFalse hnlt =>
        split
        case isTrue heq =>
          exact List.pairwise_cons.mpr ⟨fun m hm => heq ▸ hhead m hm, hrest⟩
        case isFalse hne =>
          have hgt : head.1 < key := lt_of_le_of_ne (not_lt.mp hnlt) (Ne.symm hne)
          refine List.pairwise_cons.mpr ⟨?_, ih hrest⟩
          intro m hm
          rcases mem_of_mem_insert hm with rfl | hm
          · exact hgt
          · exact hhead m hm

theorem sorted_foldl (members : List (String × α)) :
    ∀ acc : List (String × α), Sorted acc →
      Sorted (members.foldl (fun acc m => insert m.1 m.2 acc) acc) := by
  induction members with
  | nil => intro acc h; exact h
  | cons m rest ih => intro acc h; exact ih _ (h.insert m.1 m.2)

theorem sorted_ofList (members : List (String × α)) : Sorted (ofList members) :=
  sorted_foldl members [] List.Pairwise.nil

theorem lookup_cons (k a : String) (v : α) (rest : List (String × α)) :
    ((k, v) :: rest).lookup a = if a = k then some v else rest.lookup a := by
  rw [List.lookup_cons]
  by_cases h : a = k
  · simp [h]
  · simp [h, beq_false_of_ne h]

theorem lookup_insert (key a : String) (value : α) (members : List (String × α)) :
    (insert key value members).lookup a = if a = key then some value else members.lookup a := by
  induction members with
  | nil => exact lookup_cons key a value []
  | cons head rest ih =>
      obtain ⟨k, v⟩ := head
      unfold insert
      split
      case isTrue => exact lookup_cons ..
      case isFalse =>
        split
        case isTrue heq =>
          subst heq
          rw [lookup_cons, lookup_cons]
          by_cases h : a = key <;> simp [h]
        case isFalse hne =>
          rw [lookup_cons, lookup_cons, ih]
          by_cases h : a = k
          · subst h
            simp [Ne.symm hne]
          · simp [h]

/-- A key that is not bound again keeps its value. -/
theorem lookup_foldl_of_notMem {members : List (String × α)} {a : String}
    (h : a ∉ members.map Prod.fst) :
    ∀ acc : List (String × α),
      (members.foldl (fun acc m => insert m.1 m.2 acc) acc).lookup a = acc.lookup a := by
  induction members with
  | nil => intro acc; rfl
  | cons m rest ih =>
      intro acc
      simp only [List.map_cons, List.mem_cons, not_or] at h
      rw [List.foldl_cons, ih h.2, lookup_insert, if_neg h.1]

/-- Where no key is bound twice, every binding of the list is found. -/
theorem lookup_foldl_of_mem {members : List (String × α)} {a : String} {v : α}
    (hnodup : (members.map Prod.fst).Nodup) (h : (a, v) ∈ members) :
    ∀ acc : List (String × α),
      (members.foldl (fun acc m => insert m.1 m.2 acc) acc).lookup a = some v := by
  induction members with
  | nil => simp at h
  | cons m rest ih =>
      intro acc
      obtain ⟨hm, hrest⟩ := List.nodup_cons.mp hnodup
      rw [List.foldl_cons]
      rcases List.mem_cons.mp h with rfl | h
      · rw [lookup_foldl_of_notMem hm, lookup_insert, if_pos rfl]
      · exact ih hrest h _

theorem insert_of_forall_lt {key : String} {value : α} {members : List (String × α)}
    (h : ∀ m ∈ members, m.1 < key) : insert key value members = members ++ [(key, value)] := by
  induction members with
  | nil => rfl
  | cons m rest ih =>
      have hm : m.1 < key := h m List.mem_cons_self
      unfold insert
      rw [if_neg (lt_asymm hm), if_neg (ne_of_gt hm),
        ih fun m' hm' => h m' (List.mem_cons_of_mem _ hm')]
      rfl

theorem foldl_insert_of_sorted {members : List (String × α)} :
    ∀ acc : List (String × α), Sorted (acc ++ members) →
      members.foldl (fun acc m => insert m.1 m.2 acc) acc = acc ++ members := by
  induction members with
  | nil => intro acc _; exact (List.append_nil acc).symm
  | cons m rest ih =>
      intro acc h
      have hm : ∀ m' ∈ acc, m'.1 < m.1 := fun m' hm' =>
        (List.pairwise_append.mp h).2.2 m' hm' m List.mem_cons_self
      rw [List.foldl_cons, insert_of_forall_lt hm, ih _ (by simpa using h)]
      simp

/-- Binding members that are in order gives these members. -/
theorem ofList_of_sorted {members : List (String × α)} (h : Sorted members) :
    ofList members = members :=
  foldl_insert_of_sorted [] h

/-- A new key is one more member, wherever it goes. -/
theorem insert_perm {key : String} {value : α} {members : List (String × α)}
    (h : key ∉ members.map Prod.fst) :
    (insert key value members).Perm ((key, value) :: members) := by
  induction members with
  | nil => exact List.Perm.refl _
  | cons m rest ih =>
      simp only [List.map_cons, List.mem_cons, not_or] at h
      unfold insert
      by_cases hlt : key < m.1
      · rw [if_pos hlt]
      · rw [if_neg hlt, if_neg h.1]
        exact ((ih h.2).cons m).trans (List.Perm.swap ..)

theorem foldl_insert_perm (members : List (String × α)) :
    ∀ acc : List (String × α), ((acc ++ members).map Prod.fst).Nodup →
      (members.foldl (fun acc m => insert m.1 m.2 acc) acc).Perm (acc ++ members) := by
  induction members with
  | nil => intro acc _; simp
  | cons m rest ih =>
      intro acc hnodup
      have hmiddle : (acc ++ m :: rest).Perm ((m :: acc) ++ rest) := List.perm_middle
      have hm : m.1 ∉ acc.map Prod.fst := by
        have hcons := (hmiddle.map Prod.fst).nodup_iff.mp hnodup
        simp only [List.cons_append, List.map_cons, List.map_append, List.nodup_cons,
          List.mem_append, not_or] at hcons
        exact hcons.1.1
      have hperm : (insert m.1 m.2 acc ++ rest).Perm (acc ++ m :: rest) :=
        ((insert_perm hm).append_right rest).trans hmiddle.symm
      rw [List.foldl_cons]
      exact (ih _ ((hperm.map Prod.fst).nodup_iff.mpr hnodup)).trans hperm

/-- Where no key is bound twice, an object has the members it was made of. -/
theorem ofList_perm {members : List (String × α)} (h : (members.map Prod.fst).Nodup) :
    (ofList members).Perm members :=
  foldl_insert_perm members [] h

/-- Members that are in order are determined by which they are. -/
theorem Sorted.eq_of_perm {members others : List (String × α)} (hmembers : Sorted members)
    (hothers : Sorted others) (h : members.Perm others) : members = others :=
  h.eq_of_pairwise (fun _ _ _ _ hlt hgt => absurd hgt (lt_asymm hlt)) hmembers hothers

theorem Sorted.nodup_keys {members : List (String × α)} (h : Sorted members) :
    (members.map Prod.fst).Nodup :=
  List.pairwise_map.mpr (h.imp fun hlt => ne_of_lt hlt)

theorem Sorted.map {members : List (String × α)} (h : Sorted members) (f : α → β) :
    Sorted (members.map fun m => (m.1, f m.2)) :=
  List.pairwise_map.mpr h

/-- Sorting by the keys puts members in order, where no key is bound twice. -/
theorem insertionSort_eq_ofList {members : List (String × α)} (h : (members.map Prod.fst).Nodup) :
    (members.insertionSort fun a b => a.1 ≤ b.1) = ofList members := by
  have hperm : (members.insertionSort fun a b => a.1 ≤ b.1).Perm members :=
    List.perm_insertionSort _ _
  have : Std.Total fun a b : String × α => a.1 ≤ b.1 := ⟨fun a b => le_total a.1 b.1⟩
  have : IsTrans (String × α) fun a b => a.1 ≤ b.1 := ⟨fun _ _ _ => le_trans⟩
  have hle := List.pairwise_insertionSort (fun a b : String × α => a.1 ≤ b.1) members
  have hne := List.pairwise_map.mp ((hperm.map Prod.fst).nodup_iff.mpr h)
  have hsorted : Sorted (members.insertionSort fun a b => a.1 ≤ b.1) :=
    (hle.and hne).imp fun hab => lt_of_le_of_ne hab.1 hab.2
  exact hsorted.eq_of_perm (sorted_ofList members) (hperm.trans (ofList_perm h).symm)

theorem map_keys (members : List (String × α)) (f : α → β) :
    (members.map fun m => (m.1, f m.2)).map Prod.fst = members.map Prod.fst := by
  rw [List.map_map]
  rfl

/-- Binding is indifferent to the values. -/
theorem ofList_map {members : List (String × α)} (h : (members.map Prod.fst).Nodup) (f : α → β) :
    ofList (members.map fun m => (m.1, f m.2)) = (ofList members).map fun m => (m.1, f m.2) :=
  (sorted_ofList _).eq_of_perm ((sorted_ofList members).map f)
    ((ofList_perm (by rwa [map_keys])).trans ((ofList_perm h).map _).symm)

/-- What a key is bound to is what the list says, where no key is bound twice. -/
theorem mem_iff_lookup {members : List (String × α)} (h : (members.map Prod.fst).Nodup)
    {key : String} {value : α} : (key, value) ∈ members ↔ members.lookup key = some value := by
  induction members with
  | nil => simp
  | cons m rest ih =>
      obtain ⟨hm, hrest⟩ := List.nodup_cons.mp h
      obtain ⟨k, v⟩ := m
      rw [List.mem_cons, lookup_cons, Prod.mk.injEq]
      by_cases hk : key = k
      · subst hk
        have hnot : (key, value) ∉ rest := fun hmem => hm (List.mem_map.mpr ⟨_, hmem, rfl⟩)
        simp [hnot, eq_comm]
      · simp [hk, ih hrest]

/-- Two lists of members make the same object when every key is bound alike. -/
theorem ofList_eq_iff {members others : List (String × α)} (hmembers : (members.map Prod.fst).Nodup)
    (hothers : (others.map Prod.fst).Nodup) :
    ofList members = ofList others ↔ ∀ key, members.lookup key = others.lookup key := by
  have hlookup : ∀ {ms : List (String × α)}, (ms.map Prod.fst).Nodup → ∀ key,
      (ofList ms).lookup key = ms.lookup key := by
    intro ms hms key
    refine Option.ext fun value => ?_
    rw [← mem_iff_lookup (sorted_ofList ms).nodup_keys, ← mem_iff_lookup hms,
      (ofList_perm hms).mem_iff]
  constructor
  · intro h key
    rw [← hlookup hmembers, h, hlookup hothers]
  · intro h
    refine (sorted_ofList members).eq_of_perm (sorted_ofList others)
      ((ofList_perm hmembers).trans (List.Perm.trans ?_ (ofList_perm hothers).symm))
    refine (List.perm_ext_iff_of_nodup hmembers.of_map hothers.of_map).mpr fun m => ?_
    rw [mem_iff_lookup hmembers, mem_iff_lookup hothers, h]

end Members

/-! ### Values -/

/-- Every object of the tree lists its keys once and in increasing order. -/
inductive Json.Canonical : Json → Prop
  | null : Canonical .null
  | bool (value : Bool) : Canonical (.bool value)
  | number (value : JsonNumber) : Canonical (.number value)
  | string (value : String) : Canonical (.string value)
  | array {items : List Json} (hitems : ∀ j ∈ items, Canonical j) : Canonical (.array items)
  | object {members : List (String × Json)} (hsorted : Members.Sorted members)
      (hmembers : ∀ m ∈ members, Canonical m.2) : Canonical (.object members)

/-- A JSON value: a tree whose objects are maps. -/
@[ext]
structure JsonValue where
  json : Json
  canonical : json.Canonical

namespace JsonValue

/-- The outermost layer of a value. -/
inductive View where
  | null
  | bool (value : Bool)
  | number (value : JsonNumber)
  | string (value : String)
  | array (items : List JsonValue)
  | object (members : List (String × JsonValue))

def null : JsonValue := ⟨.null, .null⟩
def bool (value : Bool) : JsonValue := ⟨.bool value, .bool value⟩
def number (value : JsonNumber) : JsonValue := ⟨.number value, .number value⟩
def string (value : String) : JsonValue := ⟨.string value, .string value⟩

def array (items : List JsonValue) : JsonValue where
  json := .array (items.map JsonValue.json)
  canonical := .array (by
    intro j hj
    obtain ⟨v, -, rfl⟩ := List.mem_map.mp hj
    exact v.canonical)

/-- The object of members that are in order already. -/
def sortedObject (members : List (String × JsonValue)) (h : Members.Sorted members) :
    JsonValue where
  json := .object (members.map fun m => (m.1, m.2.json))
  canonical := .object (by rw [Members.Sorted, List.pairwise_map]; exact h) (by
    intro m hm
    obtain ⟨v, -, rfl⟩ := List.mem_map.mp hm
    exact v.2.canonical)

/-- The object that binds these members one after another. -/
def object (members : List (String × JsonValue)) : JsonValue :=
  sortedObject (Members.ofList members) (Members.sorted_ofList members)

/-- Look at the outermost layer of a value. -/
def view : JsonValue → View
  | ⟨.null, _⟩ => .null
  | ⟨.bool value, _⟩ => .bool value
  | ⟨.number value, _⟩ => .number value
  | ⟨.string value, _⟩ => .string value
  | ⟨.array items, h⟩ =>
    .array (items.attach.map fun j => ⟨j.1, by cases h with | array h => exact h j.1 j.2⟩)
  | ⟨.object members, h⟩ =>
    .object (members.attach.map fun m =>
      (m.1.1, ⟨m.1.2, by cases h with | object _ h => exact h m.1 m.2⟩))

@[simp] theorem view_null : null.view = .null := rfl
@[simp] theorem view_bool (b : Bool) : (bool b).view = .bool b := rfl
@[simp] theorem view_number (n : JsonNumber) : (number n).view = .number n := rfl
@[simp] theorem view_string (s : String) : (string s).view = .string s := rfl

@[simp] theorem view_array (items : List JsonValue) : (array items).view = .array items := by
  unfold view array
  simp only [View.array.injEq]
  rw [List.attach_map, List.map_map]
  exact List.attach_map_subtype_val items

theorem view_sortedObject (members : List (String × JsonValue)) (h : Members.Sorted members) :
    (sortedObject members h).view = .object members := by
  unfold view sortedObject
  simp only [View.object.injEq]
  rw [List.attach_map, List.map_map]
  exact List.attach_map_subtype_val members

@[simp] theorem view_object (members : List (String × JsonValue)) :
    (object members).view = .object (Members.ofList members) :=
  view_sortedObject _ _

end JsonValue

/-! ### The value of a tree -/

namespace Json

/-- No object of the tree binds a key twice. -/
inductive Distinct : Json → Prop
  | null : Distinct .null
  | bool (value : Bool) : Distinct (.bool value)
  | number (value : JsonNumber) : Distinct (.number value)
  | string (value : String) : Distinct (.string value)
  | array {items : List Json} (hitems : ∀ j ∈ items, Distinct j) : Distinct (.array items)
  | object {members : List (String × Json)} (hkeys : (members.map Prod.fst).Nodup)
      (hmembers : ∀ m ∈ members, Distinct m.2) : Distinct (.object members)

mutual

/-- The value that a tree stands for: the order of members is forgotten. -/
def value : Json → JsonValue
  | .null => .null
  | .bool b => .bool b
  | .number n => .number n
  | .string s => .string s
  | .array items => .array (itemValues items)
  | .object members => .object (memberValues members)

def itemValues : List Json → List JsonValue
  | [] => []
  | item :: rest => item.value :: itemValues rest

def memberValues : List (String × Json) → List (String × JsonValue)
  | [] => []
  | (key, item) :: rest => (key, item.value) :: memberValues rest

end

theorem itemValues_eq (items : List Json) : itemValues items = items.map value := by
  induction items with
  | nil => rfl
  | cons item rest ih => rw [itemValues, ih, List.map_cons]

theorem memberValues_eq (members : List (String × Json)) :
    memberValues members = members.map fun m => (m.1, m.2.value) := by
  induction members with
  | nil => rfl
  | cons m rest ih => rw [memberValues, ih, List.map_cons]

theorem value_array (items : List Json) :
    (array items).value = JsonValue.array (items.map value) := by
  rw [value, itemValues_eq]

theorem value_object (members : List (String × Json)) :
    (object members).value = JsonValue.object (members.map fun m => (m.1, m.2.value)) := by
  rw [value, memberValues_eq]

/-- Two objects have the same value when every key is bound to the same value. -/
theorem value_object_eq_iff {members others : List (String × Json)}
    (hmembers : (members.map Prod.fst).Nodup) (hothers : (others.map Prod.fst).Nodup) :
    (object members).value = (object others).value ↔
      ∀ key, (members.lookup key).map value = (others.lookup key).map value := by
  have hlookup : ∀ (ms : List (String × Json)) key,
      (ms.map fun m => (m.1, m.2.value)).lookup key = (ms.lookup key).map value := by
    intro ms key
    induction ms with
    | nil => rfl
    | cons m rest ih =>
        rw [List.map_cons, Members.lookup_cons, Members.lookup_cons, ih]
        split <;> rfl
  rw [value_object, value_object]
  simp only [← hlookup]
  rw [← Members.ofList_eq_iff (by rwa [Members.map_keys]) (by rwa [Members.map_keys])]
  constructor
  · intro h
    simpa using congrArg JsonValue.view h
  · intro h
    exact JsonValue.ext (by simp only [JsonValue.object, JsonValue.sortedObject, h])

/-- A canonical tree is the tree of its value. -/
theorem Canonical.json_value {j : Json} (h : j.Canonical) : j.value.json = j := by
  induction h with
  | null => rfl
  | bool b => rfl
  | number n => rfl
  | string s => rfl
  | @array items _ ih =>
      have hitems : items.map (JsonValue.json ∘ value) = items.map id := List.map_congr_left ih
      rw [value_array]
      show Json.array ((items.map value).map JsonValue.json) = _
      rw [List.map_map, hitems, List.map_id]
  | @object members hsorted _ ih =>
      have hmembers : (members.map fun m => (m.1, m.2.value.json)) = members.map id :=
        List.map_congr_left fun m hm => Prod.ext rfl (ih m hm)
      rw [value_object]
      show Json.object ((Members.ofList (members.map fun m => (m.1, m.2.value))).map _) = _
      rw [Members.ofList_of_sorted (hsorted.map value), List.map_map]
      exact congrArg Json.object (hmembers.trans (List.map_id members))

theorem Canonical.distinct {j : Json} (h : j.Canonical) : j.Distinct := by
  induction h with
  | null => exact .null
  | bool b => exact .bool b
  | number n => exact .number n
  | string s => exact .string s
  | array _ ih => exact .array ih
  | object hsorted _ ih => exact .object hsorted.nodup_keys ih

end Json

theorem JsonValue.value_json (v : JsonValue) : v.json.value = v :=
  JsonValue.ext v.canonical.json_value
