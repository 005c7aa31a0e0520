import Muster.Control.Event
import Muster.Net.HostPort
import Muster.Text.Hex

/-!
# Documents

Values as trees of lists and named fields, for tools that look at the matchmaker from outside.  A
choice is written as its name, or as a record whose only field has that name where the choice holds
something.  Numbers are whole; a quality is written as the digits of its bits.
-/

namespace Muster

/-- A tree of values. -/
inductive Document where
  | null
  | bool (value : Bool)
  | number (value : Int)
  | text (value : String)
  | list (items : List Document)
  | record (fields : List (String × Document))

/-- Types whose values can be read from a document. -/
class OfDocument (α : Type) where
  /-- The value that a document holds. -/
  ofDocument? : Document → Option α

/-- Types whose values can be written as a document. -/
class ToDocument (α : Type) where
  /-- The document that holds a value. -/
  toDocument : α → Document

export OfDocument (ofDocument?)
export ToDocument (toDocument)

namespace Document

variable {α β : Type}

/-! ## Fields and choices -/

/-- A field that is there and not null. -/
def field? (document : Document) (name : String) : Option Document :=
  match document with
  | record fields =>
    match fields.lookup name with
    | some null | none => none
    | some value => some value
  | _ => none

/-- A field that has to be there. -/
def get [OfDocument α] (document : Document) (name : String) : Option α :=
  (document.field? name).bind ofDocument?

def get? [OfDocument α] (document : Document) (name : String) : Option (Option α) :=
  match document.field? name with
  | none => some none
  | some value => (ofDocument? value).map some

/-- A field in place of which a fixed value stands where it is missing. -/
def getD [OfDocument α] (document : Document) (name : String) (fallback : α) : Option α :=
  (document.get? name).map (·.getD fallback)

/-- The name of a choice and what the choice holds. -/
def choice? : Document → Option (String × Document)
  | text name => some (name, null)
  | record [(name, value)] => some (name, value)
  | _ => none

def choice (name : String) (fields : List (String × Document)) : Document :=
  record [(name, record fields)]

def named? (names : List (String × α)) : Document → Option α
  | text name => names.lookup name
  | _ => none

def nameOf [BEq α] (names : List (String × α)) (value : α) : Document :=
  match names.find? fun entry => entry.2 == value with
  | some entry => text entry.1
  | none => null

/-- An error: what kind it is, and its wording. -/
def failure (kind message : String) : Document :=
  record [("error", text kind), ("message", text message)]

def hex (bytes : List UInt8) : Document :=
  text (Text.Hex.ofBytes bytes)

def bytes? : Document → Option (List UInt8)
  | text digits => Text.Hex.bytesOf? digits.toList
  | _ => none

/-! ## Plain values -/

instance : OfDocument Document := ⟨some⟩
instance : ToDocument Document := ⟨id⟩

instance : OfDocument String := ⟨fun | text value => some value | _ => none⟩
instance : ToDocument String := ⟨text⟩

instance : OfDocument Bool := ⟨fun | bool value => some value | _ => none⟩
instance : ToDocument Bool := ⟨bool⟩

instance : OfDocument Int := ⟨fun | number value => some value | _ => none⟩
instance : ToDocument Int := ⟨number⟩

instance : OfDocument Nat := ⟨fun
  | number value => if value < 0 then none else some value.toNat
  | _ => none⟩
instance : ToDocument Nat := ⟨fun value => number value⟩

/-- A whole number from `low` to `high`. -/
def between? (low high : Int) : Document → Option Int
  | number value => if low ≤ value ∧ value ≤ high then some value else none
  | _ => none

instance : OfDocument UInt16 := ⟨fun document =>
  (document.between? 0 0xFFFF).map fun value => value.toNat.toUInt16⟩
instance : ToDocument UInt16 := ⟨fun value => number value.toNat⟩

instance : OfDocument UInt32 := ⟨fun document =>
  (document.between? 0 0xFFFFFFFF).map fun value => value.toNat.toUInt32⟩
instance : ToDocument UInt32 := ⟨fun value => number value.toNat⟩

instance : OfDocument UInt64 := ⟨fun document =>
  (document.between? 0 0xFFFFFFFFFFFFFFFF).map fun value => value.toNat.toUInt64⟩
instance : ToDocument UInt64 := ⟨fun value => number value.toNat⟩

instance : OfDocument Int32 := ⟨fun document =>
  (document.between? (-0x80000000) 0x7FFFFFFF).map Int32.ofInt⟩
instance : ToDocument Int32 := ⟨fun value => number value.toInt⟩

instance : OfDocument Int64 := ⟨fun document =>
  (document.between? (-0x8000000000000000) 0x7FFFFFFFFFFFFFFF).map Int64.ofInt⟩
instance : ToDocument Int64 := ⟨fun value => number value.toInt⟩

instance : OfDocument Char := ⟨fun
  | text value =>
    match value.toList with
    | [char] => some char
    | _ => none
  | _ => none⟩
instance : ToDocument Char := ⟨fun value => text (String.singleton value)⟩

instance [OfDocument α] : OfDocument (List α) := ⟨fun
  | list items => items.mapM ofDocument?
  | _ => none⟩
instance [ToDocument α] : ToDocument (List α) := ⟨fun values => list (values.map toDocument)⟩

instance [OfDocument α] [OfDocument β] : OfDocument (α × β) := ⟨fun
  | list [first, second] => return (← ofDocument? first, ← ofDocument? second)
  | _ => none⟩
instance [ToDocument α] [ToDocument β] : ToDocument (α × β) :=
  ⟨fun value => list [toDocument value.1, toDocument value.2]⟩

instance [ToDocument α] : ToDocument (Option α) := ⟨fun
  | some value => toDocument value
  | none => null⟩

instance [ToDocument α] [ToDocument β] : ToDocument (Except α β) := ⟨fun
  | .ok value => toDocument value
  | .error error => toDocument error⟩

instance : OfDocument Endpoint := ⟨fun | text value => Endpoint.ofText? value | _ => none⟩
instance : ToDocument Endpoint := ⟨fun value => text value.text⟩

instance : ToDocument HostPort := ⟨fun value => text value.text⟩

instance : OfDocument QualityBits := ⟨fun
  | text digits => (Text.Hex.wordOf? digits.toList).map QualityBits.mk
  | _ => none⟩
instance : ToDocument QualityBits := ⟨fun value => text (Text.Hex.ofWord value.bits)⟩

instance : ToDocument Float := ⟨fun value => toDocument (QualityBits.mk value.toBits)⟩

end Document

end Muster
