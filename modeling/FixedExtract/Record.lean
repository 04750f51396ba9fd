import FixedExtract.Value.Display
/-!
# Records

A record gives values to field names. Its fields keep their order, and every name occurs once.
-/

namespace FixedExtract

abbrev Record := List (Text × Value)

namespace Record

/-- The value of a field. -/
def get? (record : Record) (name : Text) : Option Value := record.lookup name

/-- Does the record have the field, be it null? -/
def has (record : Record) (name : Text) : Bool := (record.get? name).isSome

/-- The text of a value; null has none. -/
def textOf : Value → Option Text
  | .null => none
  | value => some value.display

/-- The text of a field; a missing field has none, like a null one. -/
def text? (record : Record) (name : Text) : Option Text := (record.get? name).bind textOf

/-- The record that the entries of a map make; only text keys name fields. -/
def ofEntries (entries : Entries) : Record :=
  entries.filterMap fun entry =>
    match entry.1 with
    | .text name => some (name, entry.2)
    | _ => none

end Record
end FixedExtract
