import ConnectionRouter.Toml.Document

/-!
# Records in TOML

Reading records with named fields out of TOML values. A table gives the fields by name, and
names that the record does not have are ignored; an array gives them in the record's order, and
items beyond the last field are ignored; a date gives none.

* `Fields.ofValue?`: the fields of a record.
* `Fields.get?`, `Fields.getD?`, `Fields.getOption?`: a field that must, may be there.
-/

namespace ConnectionRouter.Toml

/-- A decoder refuses values of the wrong type or out of range. -/
abbrev Decoder (α : Type) : Type := Value → Option α

def asString : Decoder String
  | .string s => some s
  | _ => none

def asBool : Decoder Bool
  | .boolean b => some b
  | _ => none

/-- An integer of 64 bits. -/
def asInt : Decoder Int
  | .integer i => some i
  | _ => none

/-- A natural number up to a largest one. -/
def asNatUpTo (max : Nat) : Decoder Nat
  | .integer i => if 0 ≤ i ∧ i ≤ max then some i.toNat else none
  | _ => none

def asPort : Decoder UInt16 := fun v => (asNatUpTo 65535 v).map UInt16.ofNat

def asUnsigned : Decoder Nat := asNatUpTo Text.maxUnsigned

def asList {α : Type} (item : Decoder α) : Decoder (List α)
  | .array items | .tables items => items.mapM item
  | _ => none

/-- The fields of a record. -/
structure Fields where
  entries : List (String × Value)

namespace Fields

variable {α : Type}

/-- The fields of a record whose fields are `names`. -/
def ofValue? (names : List String) : Value → Option Fields
  | .table _ entries => some ⟨entries⟩
  | .array items | .tables items => some ⟨names.zip items⟩
  | .date _ => some ⟨[]⟩
  | _ => none

def lookup? (f : Fields) (name : String) : Option Value :=
  (f.entries.find? (·.1 = name)).map (·.2)

/-- A field that must be there. -/
def get? (f : Fields) (name : String) (decode : Decoder α) : Option α :=
  (f.lookup? name).bind decode

/-- A field with a default. -/
def getD? (f : Fields) (name : String) (default : α) (decode : Decoder α) : Option α :=
  match f.lookup? name with
  | none => some default
  | some v => decode v

/-- A field that may be missing. -/
def getOption? (f : Fields) (name : String) (decode : Decoder α) : Option (Option α) :=
  f.getD? name none fun v => (decode v).map some

end Fields

end ConnectionRouter.Toml
