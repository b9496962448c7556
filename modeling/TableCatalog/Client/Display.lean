import TableCatalog.Catalog.Request
import TableCatalog.Json.Record
import TableCatalog.Text.Grid

/-! Records as people see them: as rows of a table with one column per header, or as JSON. -/

namespace TableCatalog.Client

/-- How records are shown. -/
inductive OutputFormat
  | table
  | json
deriving DecidableEq, Repr

namespace OutputFormat

def all : List OutputFormat := [table, json]

def name : OutputFormat → String
  | table => "table"
  | json => "json"

def ofName (text : String) : OutputFormat := (all.find? (·.name == text)).getD table

end OutputFormat

/-- A kind of record that is shown as a row. -/
class Tabular (α : Type) where
  headers : List String
  /-- The cells of a record, in the order of the headers. -/
  cells : α → List String

/-- Settings as `key=value`, sorted as texts, with commas between them. -/
def paramsText (params : Params) : String :=
  let pairs := params.toList.map fun (key, value) => key ++ "=" ++ value
  ", ".intercalate (pairs.mergeSort fun a b => !decide (b < a))

def numberText (n : UInt64) : String := Numeral.decimalText n.toNat

def idOf (ident : Option Ident) : String := (ident.map (·.id)).getD ""

def tableTypeText : TableType → String
  | .managed => "MANAGED"
  | .external => "EXTERNAL"
  | .index => "INDEX"

instance : Tabular Database where
  headers := ["name", "id", "seq", "location", "parameters"]
  cells r := [nameOf r.ident, idOf r.ident, numberText r.sequence, r.location,
    paramsText (r.params.union r.systemParams)]

instance : Tabular Table where
  headers := ["name", "id", "seq", "type", "location", "partition keys"]
  cells r := [nameOf r.ident, idOf r.ident, numberText r.sequence, tableTypeText (.ofCode r.typeCode), r.location,
    ", ".intercalate (r.partitionKeys.map fun key => key.name ++ ":" ++ key.typeName)]

instance : Tabular Partition where
  headers := ["values", "seq", "location", "parameters"]
  cells r := [Request.joinValues r.values, numberText r.sequence, r.location, paramsText r.params]

/-- The text of records in a format. -/
def formatRecords [Tabular α] [JsonRecord α] (format : OutputFormat) (records : List α) : String :=
  match format with
  | .table => Text.drawGrid (Tabular.headers α) (records.map Tabular.cells)
  | .json => Json.print (JsonRecord.itemsToJson records)

end TableCatalog.Client
