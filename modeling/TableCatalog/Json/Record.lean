import TableCatalog.Record
import TableCatalog.Json.Reader

/-! Records in JSON. Every field is written, under its name in camel case. A reader wants every field
back, apart from those that may be absent, each at most once; a field it does not know it passes over.
It also takes a record written as the list of its fields in order. -/

namespace TableCatalog

namespace Json

def toText? : Json → Option String
  | text s => s
  | _ => none

def toBool? : Json → Option Bool
  | bool b => some b
  | _ => none

def toUInt64? : Json → Option UInt64
  | number (some n) => if 0 ≤ n ∧ n.toNat < UInt64.size then some (UInt64.ofNat n.toNat) else none
  | _ => none

def toInt32? : Json → Option Int32
  | number (some n) => if Int32.minValue.toInt ≤ n ∧ n ≤ Int32.maxValue.toInt then some (Int32.ofInt n) else none
  | _ => none

def toList? (read : Json → Option α) : Json → Option (List α)
  | list items => items.mapM read
  | _ => none

/-- A value that may be null. -/
def toNullable? (read : Json → Option α) : Json → Option (Option α)
  | null => some none
  | value => (read value).map some

/-- A map. Of a name met twice, the last value stays. -/
def toParams? : Json → Option Params
  | object members => do
    let entries ← members.mapM fun (name, value) => do return (← name, ← value.toText?)
    return SortedMap.ofList entries
  | _ => none

def ofParams (params : Params) : Json :=
  ofMembers (params.toList.map fun (name, value) => (name, ofText value))

def ofTexts (texts : List String) : Json := list (texts.map ofText)

/-- The fields of a record with these field names. None of them may stand twice. -/
def fields? (names : List String) : Json → Option (List (String × Json))
  | object members => do
    let members ← members.mapM fun (name, value) => name.map (·, value)
    if names.all fun name => (members.filter (·.1 == name)).length ≤ 1 then some members else none
  | list items => if items.length = names.length then some (names.zip items) else none
  | _ => none

/-- A field that must be there. -/
def required (fields : List (String × Json)) (name : String) (read : Json → Option α) : Option α := do
  read (← fields.lookup name)

/-- A field that may be missing or null. -/
def optional (fields : List (String × Json)) (name : String) (read : Json → Option α) : Option (Option α) :=
  match fields.lookup name with
  | none => some none
  | some value => toNullable? read value

end Json

/-- A kind of record with a form in JSON. -/
class JsonRecord (α : Type) where
  fieldNames : List String
  /-- The values of the fields, in the order of their names. -/
  fieldValues : α → List Json
  ofFields : List (String × Json) → Option α

namespace JsonRecord

def toJson [JsonRecord α] (record : α) : Json :=
  Json.ofMembers ((fieldNames α).zip (fieldValues record))

def ofJson? [JsonRecord α] (value : Json) : Option α := do
  ofFields (← value.fields? (fieldNames α))

/-- An absent part is written as null. -/
def partToJson [JsonRecord α] (part : Option α) : Json := (part.map toJson).getD .null

def itemsToJson [JsonRecord α] (items : List α) : Json := .list (items.map toJson)

end JsonRecord

open JsonRecord Json

instance : JsonRecord Ident where
  fieldNames := ["name", "id"]
  fieldValues r := [ofText r.name, ofText r.id]
  ofFields fs := do
    return { name := ← required fs "name" toText?, id := ← required fs "id" toText? }

instance : JsonRecord Column where
  fieldNames := ["name", "type", "comment"]
  fieldValues r := [ofText r.name, ofText r.typeName, ofText r.comment]
  ofFields fs := do
    return {
      name := ← required fs "name" toText?
      typeName := ← required fs "type" toText?
      comment := ← required fs "comment" toText? }

instance : JsonRecord Serialization where
  fieldNames := ["name", "serializationLib", "parameters"]
  fieldValues r := [ofText r.name, ofText r.library, ofParams r.params]
  ofFields fs := do
    return {
      name := ← required fs "name" toText?
      library := ← required fs "serializationLib" toText?
      params := ← required fs "parameters" toParams? }

instance : JsonRecord SortColumn where
  fieldNames := ["col", "ascending"]
  fieldValues r := [ofText r.column, .bool r.ascending]
  ofFields fs := do
    return { column := ← required fs "col" toText?, ascending := ← required fs "ascending" toBool? }

instance : JsonRecord StorageDescriptor where
  fieldNames := ["location", "cols", "inputFormat", "outputFormat", "serdeInfo", "parameters",
    "numBuckets", "bucketCols", "sortCols"]
  fieldValues r := [ofText r.location, itemsToJson r.columns, ofText r.inputFormat, ofText r.outputFormat,
    partToJson r.serialization, ofParams r.params, ofInt r.bucketCount.toInt, ofTexts r.bucketColumns,
    itemsToJson r.sortColumns]
  ofFields fs := do
    return {
      location := ← required fs "location" toText?
      columns := ← required fs "cols" (toList? ofJson?)
      inputFormat := ← required fs "inputFormat" toText?
      outputFormat := ← required fs "outputFormat" toText?
      serialization := ← optional fs "serdeInfo" ofJson?
      params := ← required fs "parameters" toParams?
      bucketCount := ← required fs "numBuckets" toInt32?
      bucketColumns := ← required fs "bucketCols" (toList? toText?)
      sortColumns := ← required fs "sortCols" (toList? ofJson?) }

instance : JsonRecord Database where
  fieldNames := ["id", "location", "parameters", "systemParameters", "seqId"]
  fieldValues r := [partToJson r.ident, ofText r.location, ofParams r.params, ofParams r.systemParams,
    ofInt r.sequence.toNat]
  ofFields fs := do
    return {
      ident := ← optional fs "id" ofJson?
      location := ← required fs "location" toText?
      params := ← required fs "parameters" toParams?
      systemParams := ← required fs "systemParameters" toParams?
      sequence := ← required fs "seqId" toUInt64? }

instance : JsonRecord Table where
  fieldNames := ["id", "location", "parameters", "systemParameters", "partitionKeys", "sd", "tableType", "seqId"]
  fieldValues r := [partToJson r.ident, ofText r.location, ofParams r.params, ofParams r.systemParams,
    itemsToJson r.partitionKeys, partToJson r.storage, ofInt r.typeCode.toInt, ofInt r.sequence.toNat]
  ofFields fs := do
    return {
      ident := ← optional fs "id" ofJson?
      location := ← required fs "location" toText?
      params := ← required fs "parameters" toParams?
      systemParams := ← required fs "systemParameters" toParams?
      partitionKeys := ← required fs "partitionKeys" (toList? ofJson?)
      storage := ← optional fs "sd" ofJson?
      typeCode := ← required fs "tableType" toInt32?
      sequence := ← required fs "seqId" toUInt64? }

instance : JsonRecord Partition where
  fieldNames := ["values", "location", "parameters", "sd", "seqId", "id", "table"]
  fieldValues r := [ofTexts r.values, ofText r.location, ofParams r.params, partToJson r.storage,
    ofInt r.sequence.toNat, ofText r.id, partToJson r.table]
  ofFields fs := do
    return {
      values := ← required fs "values" (toList? toText?)
      location := ← required fs "location" toText?
      params := ← required fs "parameters" toParams?
      storage := ← optional fs "sd" ofJson?
      sequence := ← required fs "seqId" toUInt64?
      id := ← required fs "id" toText?
      table := ← optional fs "table" ofJson? }

end TableCatalog
