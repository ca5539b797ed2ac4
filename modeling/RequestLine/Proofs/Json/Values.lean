import RequestLine.Json.Reader
import Mathlib.Data.List.Induction
import Mathlib.Data.List.Nodup

/-!
# Values inside values

Properties of a value that speak of every value inside it: that all numbers are integers, that the
names of each object are distinct, and that no object begins with the name that marks an embedded
text. All are of the form `Everywhere P`, so what arrays and objects do to them is said once
(`everywhere_array`, `everywhere_object`).
-/

namespace RequestLine.Json

/-! ## Induction -/

theorem sizeOf_item_lt {items : List Json} {v : Json} (h : v ∈ items) :
    sizeOf v < sizeOf (Json.array items) := by
  have := List.sizeOf_lt_of_mem h
  simp only [Json.array.sizeOf_spec]
  omega

theorem sizeOf_member_lt {members : List (String × Json)} {m : String × Json} (h : m ∈ members) :
    sizeOf m.2 < sizeOf (Json.object members) := by
  have := List.sizeOf_lt_of_mem h
  obtain ⟨name, v⟩ := m
  simp only [Json.object.sizeOf_spec, Prod.mk.sizeOf_spec] at this ⊢
  omega

/-- Induction over a value, with the statement for all items of an array and for the values of all
members of an object. -/
@[elab_as_elim]
theorem induction {P : Json → Prop} (null : P .null) (bool : ∀ b, P (.bool b))
    (number : ∀ n, P (.number n)) (string : ∀ text, P (.string text))
    (array : ∀ items, (∀ v ∈ items, P v) → P (.array items))
    (object : ∀ members, (∀ m ∈ members, P m.2) → P (.object members)) : ∀ v, P v
  | .null => null
  | .bool b => bool b
  | .number n => number n
  | .string text => string text
  | .array items => array items fun v _ =>
    induction null bool number string array object v
  | .object members => object members fun m _ =>
    induction null bool number string array object m.2
termination_by v => sizeOf v
decreasing_by
  · exact sizeOf_item_lt ‹_›
  · exact sizeOf_member_lt ‹_›

/-! ## Properties of all values inside a value -/

/-- A value is another one or stands somewhere inside it. -/
inductive Within : Json → Json → Prop
  | refl (v : Json) : Within v v
  | item {v w : Json} {items : List Json} : w ∈ items → Within v w → Within v (.array items)
  | member {v : Json} {m : String × Json} {members : List (String × Json)} :
    m ∈ members → Within v m.2 → Within v (.object members)

/-- All values inside a value, itself included, have a property. -/
def Everywhere (P : Json → Prop) (v : Json) : Prop := ∀ w, Within w v → P w

variable {P : Json → Prop}

@[simp] theorem everywhere_array {items : List Json} :
    Everywhere P (.array items) ↔ P (.array items) ∧ ∀ v ∈ items, Everywhere P v := by
  constructor
  · exact fun h => ⟨h _ (.refl _), fun v hv w hw => h w (.item hv hw)⟩
  · rintro ⟨hself, hitems⟩ w hw
    cases hw with
    | refl => exact hself
    | item hv hw => exact hitems _ hv w hw

@[simp] theorem everywhere_object {members : List (String × Json)} :
    Everywhere P (.object members) ↔
      P (.object members) ∧ ∀ m ∈ members, Everywhere P m.2 := by
  constructor
  · exact fun h => ⟨h _ (.refl _), fun m hm w hw => h w (.member hm hw)⟩
  · rintro ⟨hself, hmembers⟩ w hw
    cases hw with
    | refl => exact hself
    | member hm hw => exact hmembers _ hm w hw

/-- A value that holds no others has a property everywhere if it has it. -/
theorem everywhere_of_scalar {v : Json} (harray : ∀ items, v ≠ .array items)
    (hobject : ∀ members, v ≠ .object members) (h : P v) : Everywhere P v := by
  intro w hw
  cases hw with
  | refl => exact h
  | item => exact absurd rfl (harray _)
  | member => exact absurd rfl (hobject _)

@[simp] theorem everywhere_null : Everywhere P .null ↔ P .null :=
  ⟨fun h => h _ (.refl _), everywhere_of_scalar (by simp) (by simp)⟩

@[simp] theorem everywhere_bool {b : Bool} : Everywhere P (.bool b) ↔ P (.bool b) :=
  ⟨fun h => h _ (.refl _), everywhere_of_scalar (by simp) (by simp)⟩

@[simp] theorem everywhere_number {n : Number} : Everywhere P (.number n) ↔ P (.number n) :=
  ⟨fun h => h _ (.refl _), everywhere_of_scalar (by simp) (by simp)⟩

@[simp] theorem everywhere_string {text : String} :
    Everywhere P (.string text) ↔ P (.string text) :=
  ⟨fun h => h _ (.refl _), everywhere_of_scalar (by simp) (by simp)⟩

theorem Everywhere.self {v : Json} (h : Everywhere P v) : P v := h v (.refl v)

/-- A number, if it is one, is an integer. -/
def Integral : Json → Prop
  | .number (.double _) => False
  | _ => True

/-- The names of an object are distinct. -/
def Distinct : Json → Prop
  | .object members => (members.map Prod.fst).Nodup
  | _ => True

/-- An object does not begin with the name that marks an embedded text. -/
def Unmarked : Json → Prop
  | .object members => ∀ m ∈ members.head?, m.1 ≠ Reader.embeddingName
  | _ => True

/-! ## Members -/

theorem put_of_not_mem {members : List (String × Json)} {name : String} (v : Json)
    (h : name ∉ members.map Prod.fst) : put members name v = members ++ [(name, v)] := by
  induction members with
  | nil => rfl
  | cons m members ih =>
    rw [List.map_cons, List.mem_cons, not_or] at h
    rw [put, if_neg (Ne.symm h.1), ih h.2]
    rfl

theorem membersOf_append_singleton (pairs : List (String × Json)) (p : String × Json) :
    membersOf (pairs ++ [p]) = put (membersOf pairs) p.1 p.2 := by
  rw [membersOf, List.foldl_append]
  rfl

/-- Members with distinct names stay as they are. -/
theorem membersOf_eq_self {pairs : List (String × Json)} (h : (pairs.map Prod.fst).Nodup) :
    membersOf pairs = pairs := by
  induction pairs using List.reverseRecOn with
  | nil => rfl
  | append_singleton pairs p ih =>
    rw [List.map_append, List.nodup_append] at h
    have hname : p.1 ∉ pairs.map Prod.fst := fun hmem => h.2.2 p.1 hmem p.1 (by simp) rfl
    rw [membersOf_append_singleton, ih h.1, put_of_not_mem p.2 hname]

/-! ## Depth -/

/-- How deep arrays and objects nest in a value. -/
def depth : Json → Nat
  | .array items => (items.map depth).foldr max 0 + 1
  | .object members => (members.map fun m => m.2.depth).foldr max 0 + 1
  | _ => 0
termination_by v => sizeOf v
decreasing_by
  · exact sizeOf_item_lt ‹_›
  · exact sizeOf_member_lt ‹_›

theorem foldr_max_le_iff {l : List Nat} {n : Nat} : l.foldr max 0 ≤ n ↔ ∀ m ∈ l, m ≤ n := by
  induction l with
  | nil => simp
  | cons m l ih =>
    rw [List.foldr_cons, Nat.max_le, ih]
    simp

/-- An array is one level deeper than its deepest item. -/
theorem depth_array_le_iff {items : List Json} {n : Nat} :
    (Json.array items).depth ≤ n + 1 ↔ ∀ v ∈ items, v.depth ≤ n := by
  rw [depth, Nat.add_le_add_iff_right, foldr_max_le_iff, List.forall_mem_map]

/-- An object is one level deeper than its deepest value. -/
theorem depth_object_le_iff {members : List (String × Json)} {n : Nat} :
    (Json.object members).depth ≤ n + 1 ↔ ∀ m ∈ members, m.2.depth ≤ n := by
  rw [depth, Nat.add_le_add_iff_right, foldr_max_le_iff, List.forall_mem_map]

end RequestLine.Json
