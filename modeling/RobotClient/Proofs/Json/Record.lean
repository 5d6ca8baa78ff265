import RobotClient.Json.Record
import RobotClient.Proofs.Json.RoundTrip

set_option autoImplicit false

/-! # Records read back

What is written for a field is found under its name again, beside fields that are left out, and what
each kind of field is written as is read as what it was. -/

namespace RobotClient.Json

variable {α : Type} {write : α → Json} {read : Json → Option α} {name other : String}

/-! ## Members -/

@[simp] theorem lookup_cons_of_ne {β : Type} (h : name ≠ other) (value : β)
    (rest : List (String × β)) : ((other, value) :: rest).lookup name = rest.lookup name := by
  rw [List.lookup_cons, beq_eq_false_iff_ne.2 h]

@[simp] theorem lookup_present (value : Option α) :
    (present name write value).lookup name = value.map write := by
  cases value <;> simp [present]

@[simp] theorem lookup_present_of_ne (h : name ≠ other) (value : Option α) :
    (present other write value).lookup name = none := by
  cases value <;> simp [present, h]

/-! ## Fields -/

/-- A field that is always there. -/
theorem required_of_lookup {members : List (String × Json)} {value : Json} {x : α}
    (h : members.lookup name = some value) (hread : read value = some x) (position : Nat) :
    (Record.named members).required position name read = some x := by
  have hfind : (Record.named members).find? position name = some value := h
  rw [Record.required, hfind, Option.bind_some, hread]

/-- A field that is always there, although it could be left out. -/
theorem optional_of_nullable {members : List (String × Json)} {value : Json} {x : Option α}
    (h : members.lookup name = some value) (hread : Record.nullable read value = some x)
    (position : Nat) : (Record.named members).optional position name read = some x := by
  have hfind : (Record.named members).find? position name = some value := h
  rw [Record.optional, Record.orDefault, hfind]
  exact hread

/-- A field with a default that is always there. -/
theorem orDefault_of_lookup {members : List (String × Json)} {value : Json} {x : α}
    (h : members.lookup name = some value) (hread : read value = some x) (position : Nat)
    (default : α) : (Record.named members).orDefault position name read default = some x := by
  have hfind : (Record.named members).find? position name = some value := h
  rw [Record.orDefault, hfind]
  exact hread

/-- A field that is left out when there is no value. -/
theorem orDefault_of_optional {members : List (String × Json)} {value : Option α}
    (h : members.lookup name = value.map write)
    (hread : ∀ x, Record.nullable read (write x) = some (some x)) (position : Nat) :
    (Record.named members).orDefault position name (Record.nullable read) none = some value := by
  have hfind : (Record.named members).find? position name = value.map write := h
  rw [Record.orDefault, hfind]
  cases value with
  | none => rfl
  | some x => exact hread x

theorem optional_of_lookup {members : List (String × Json)} {value : Option α}
    (h : members.lookup name = value.map write)
    (hread : ∀ x, Record.nullable read (write x) = some (some x)) (position : Nat) :
    (Record.named members).optional position name read = some value :=
  orDefault_of_optional h hread position

/-- A field that is `null` when there is no value. -/
theorem nullable_orNull (hread : ∀ x, Record.nullable read (write x) = some (some x))
    (value : Option α) : Record.nullable read (orNull write value) = some value := by
  cases value with
  | none => rfl
  | some x => exact hread x

theorem listOf?_map (hread : ∀ x, read (write x) = some x) (items : List α) :
    listOf? read (.list (items.map write)) = some items := by
  rw [listOf?]
  induction items with
  | nil => rfl
  | cons x items ih => simp [List.mapM_cons, hread, ih]

theorem tableOf?_map (hread : ∀ x, read (write x) = some x) (entries : List (String × α)) :
    tableOf? read (.object (entries.map fun (k, v) => (k, write v))) = some entries := by
  rw [tableOf?]
  induction entries with
  | nil => rfl
  | cons entry entries ih => simp [List.mapM_cons, hread, ih]

/-! ## Values -/

theorem text?_text (s : String) : text? (.text s) = some s := rfl

theorem bool?_bool (b : Bool) : bool? (.bool b) = some b := rfl

theorem nullable_text (s : String) : Record.nullable text? (.text s) = some (some s) := rfl

theorem nullable_bool (b : Bool) : Record.nullable bool? (.bool b) = some (some b) := rfl

theorem unsigned?_integer (n : UInt64) : unsigned? (.integer n.toNat) = some n :=
  Number.unsigned?_toNat n

theorem nullable_unsigned (n : UInt64) :
    Record.nullable unsigned? (.integer n.toNat) = some (some n) := by
  rw [Record.nullable, unsigned?_integer, Option.map_some]
  exact nofun

theorem nullable_signed (n : Int64) :
    Record.nullable signed? (.integer n.toInt) = some (some n) := by
  have hread : signed? (.integer n.toInt) = some n := Number.signed?_toInt n
  rw [Record.nullable, hread, Option.map_some]
  exact nofun

/-- A name out of a fixed set. -/
theorem variant?_text {ofName? : String → Option α} {toName : α → String}
    (h : ∀ x, ofName? (toName x) = some x) (x : α) : variant? ofName? (.text (toName x)) = some x :=
  h x

theorem nullable_variant {ofName? : String → Option α} {toName : α → String}
    (h : ∀ x, ofName? (toName x) = some x) (x : α) :
    Record.nullable (variant? ofName?) (.text (toName x)) = some (some x) := by
  rw [Record.nullable, variant?_text h, Option.map_some]
  exact nofun

end RobotClient.Json
