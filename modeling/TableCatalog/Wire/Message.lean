import TableCatalog.Fault
import TableCatalog.Wire.Field

/-! Records as messages. Fields are written in the order of their numbers, and a field that holds
its default is left out; the parts of a record that may be absent are written whenever they are
there. A reader takes fields in any order: the last value of a plain field stays, a part met twice is
filled twice, list items are appended, and what it does not know it passes over. -/

namespace TableCatalog.Wire

/-- How deep messages and unknown groups may nest. -/
def depthLimit : Nat := 100

/-- A kind of record with a form on the wire. -/
class Message (α : Type) extends Inhabited α where
  encode : α → Bytes
  /-- Takes in one field, given its key, and returns what follows it. The budget is the depth left. -/
  merge : Nat → Merge α

/-- Reads a record of which every byte belongs to it. -/
def read [Message α] (bytes : Bytes) : Except DecodeError α :=
  (readFields (Message.merge depthLimit) default 0 bytes).map (·.1)

def read? [Message α] (bytes : Bytes) : Option α := (read bytes).toOption

/-- Reads a stored record; one that cannot be read is corruption of what `what` names. -/
def decode [Message α] (what : String) (bytes : Bytes) : Except Fault α :=
  match read bytes with
  | .ok record => .ok record
  | .error error => .error (.undecodable what error.text)

def writePart [Message α] (number : Nat) (part : Option α) : Bytes :=
  match part with
  | none => []
  | some record => writeDelimited number (Message.encode record)

def writeItems [Message α] (number : Nat) (items : List α) : Bytes :=
  items.flatMap fun item => writeDelimited number (Message.encode item)

def writeTextItems (number : Nat) (items : List String) : Bytes := items.flatMap (writeTextItem number)

/-- Reads a part of a record on top of what is there of it. -/
def readPart [Message α] (budget : Nat) (part : Option α) (key : Key) (bytes : Bytes) : Reading (Option α) :=
  (expect .delimited key (readMessage (Message.merge (budget - 1)) (part.getD default)) bytes).map
    fun (record, rest) => (some record, rest)

/-- Reads one more item of a list. -/
def readItem [Message α] (budget : Nat) (items : List α) (key : Key) (bytes : Bytes) : Reading (List α) :=
  (expect .delimited key (readMessage (Message.merge (budget - 1)) default) bytes).map
    fun (item, rest) => (items ++ [item], rest)

def readTextItem (items : List String) (key : Key) (bytes : Bytes) : Reading (List String) :=
  (readText key bytes).map fun (text, rest) => (items ++ [text], rest)

/-- Puts the value read of a field into the record. A defect inside the value lies in the field. -/
def into (field : String) (set : β → α) (found : Reading β) : Reading α :=
  match found with
  | .ok (value, rest) => .ok (set value, rest)
  | .error error => .error { error with fields := error.fields ++ [field] }

instance : Message Ident where
  encode r := writeText 1 r.name ++ writeText 2 r.id
  merge budget r key bytes :=
    match key.number with
    | 1 => into "Id.name" (fun v => { r with name := v }) (readText key bytes)
    | 2 => into "Id.id" (fun v => { r with id := v }) (readText key bytes)
    | _ => skipField budget r key bytes

instance : Message Column where
  encode r := writeText 1 r.name ++ writeText 2 r.typeName ++ writeText 3 r.comment
  merge budget r key bytes :=
    match key.number with
    | 1 => into "FieldSchema.name" (fun v => { r with name := v }) (readText key bytes)
    | 2 => into "FieldSchema.r#type" (fun v => { r with typeName := v }) (readText key bytes)
    | 3 => into "FieldSchema.comment" (fun v => { r with comment := v }) (readText key bytes)
    | _ => skipField budget r key bytes

instance : Message Serialization where
  encode r := writeText 1 r.name ++ writeText 2 r.library ++ writeParams 3 r.params
  merge budget r key bytes :=
    match key.number with
    | 1 => into "SerDeInfo.name" (fun v => { r with name := v }) (readText key bytes)
    | 2 => into "SerDeInfo.serialization_lib" (fun v => { r with library := v }) (readText key bytes)
    | 3 => into "SerDeInfo.parameters" (fun v => { r with params := v }) (readParam (budget - 1) r.params bytes)
    | _ => skipField budget r key bytes

instance : Message SortColumn where
  encode r := writeText 1 r.column ++ writeBool 2 r.ascending
  merge budget r key bytes :=
    match key.number with
    | 1 => into "Order.col" (fun v => { r with column := v }) (readText key bytes)
    | 2 => into "Order.ascending" (fun v => { r with ascending := v }) (readBool key bytes)
    | _ => skipField budget r key bytes

instance : Message StorageDescriptor where
  encode r :=
    writeText 1 r.location ++ writeItems 2 r.columns ++ writeText 3 r.inputFormat
      ++ writeText 4 r.outputFormat ++ writePart 5 r.serialization ++ writeParams 6 r.params
      ++ writeInt32 7 r.bucketCount ++ writeTextItems 8 r.bucketColumns ++ writeItems 9 r.sortColumns
  merge budget r key bytes :=
    match key.number with
    | 1 => into "StorageDescriptor.location" (fun v => { r with location := v }) (readText key bytes)
    | 2 => into "StorageDescriptor.cols" (fun v => { r with columns := v }) (readItem budget r.columns key bytes)
    | 3 => into "StorageDescriptor.input_format" (fun v => { r with inputFormat := v }) (readText key bytes)
    | 4 => into "StorageDescriptor.output_format" (fun v => { r with outputFormat := v }) (readText key bytes)
    | 5 => into "StorageDescriptor.serde_info" (fun v => { r with serialization := v })
      (readPart budget r.serialization key bytes)
    | 6 => into "StorageDescriptor.parameters" (fun v => { r with params := v })
      (readParam (budget - 1) r.params bytes)
    | 7 => into "StorageDescriptor.num_buckets" (fun v => { r with bucketCount := v }) (readInt32 key bytes)
    | 8 => into "StorageDescriptor.bucket_cols" (fun v => { r with bucketColumns := v })
      (readTextItem r.bucketColumns key bytes)
    | 9 => into "StorageDescriptor.sort_cols" (fun v => { r with sortColumns := v })
      (readItem budget r.sortColumns key bytes)
    | _ => skipField budget r key bytes

instance : Message Database where
  encode r :=
    writePart 1 r.ident ++ writeText 2 r.location ++ writeParams 3 r.params
      ++ writeParams 4 r.systemParams ++ writeUInt64 5 r.sequence
  merge budget r key bytes :=
    match key.number with
    | 1 => into "Database.id" (fun v => { r with ident := v }) (readPart budget r.ident key bytes)
    | 2 => into "Database.location" (fun v => { r with location := v }) (readText key bytes)
    | 3 => into "Database.parameters" (fun v => { r with params := v }) (readParam (budget - 1) r.params bytes)
    | 4 => into "Database.system_parameters" (fun v => { r with systemParams := v })
      (readParam (budget - 1) r.systemParams bytes)
    | 5 => into "Database.seq_id" (fun v => { r with sequence := v }) (readUInt64 key bytes)
    | _ => skipField budget r key bytes

instance : Message Table where
  encode r :=
    writePart 1 r.ident ++ writeText 2 r.location ++ writeParams 3 r.params
      ++ writeParams 4 r.systemParams ++ writeItems 5 r.partitionKeys ++ writePart 6 r.storage
      ++ writeInt32 7 r.typeCode ++ writeUInt64 8 r.sequence
  merge budget r key bytes :=
    match key.number with
    | 1 => into "Table.id" (fun v => { r with ident := v }) (readPart budget r.ident key bytes)
    | 2 => into "Table.location" (fun v => { r with location := v }) (readText key bytes)
    | 3 => into "Table.parameters" (fun v => { r with params := v }) (readParam (budget - 1) r.params bytes)
    | 4 => into "Table.system_parameters" (fun v => { r with systemParams := v })
      (readParam (budget - 1) r.systemParams bytes)
    | 5 => into "Table.partition_keys" (fun v => { r with partitionKeys := v })
      (readItem budget r.partitionKeys key bytes)
    | 6 => into "Table.sd" (fun v => { r with storage := v }) (readPart budget r.storage key bytes)
    | 7 => into "Table.table_type" (fun v => { r with typeCode := v }) (readInt32 key bytes)
    | 8 => into "Table.seq_id" (fun v => { r with sequence := v }) (readUInt64 key bytes)
    | _ => skipField budget r key bytes

instance : Message Partition where
  encode r :=
    writeTextItems 1 r.values ++ writeText 2 r.location ++ writeParams 3 r.params
      ++ writePart 4 r.storage ++ writeUInt64 5 r.sequence ++ writeText 6 r.id ++ writePart 7 r.table
  merge budget r key bytes :=
    match key.number with
    | 1 => into "Partition.values" (fun v => { r with values := v }) (readTextItem r.values key bytes)
    | 2 => into "Partition.location" (fun v => { r with location := v }) (readText key bytes)
    | 3 => into "Partition.parameters" (fun v => { r with params := v }) (readParam (budget - 1) r.params bytes)
    | 4 => into "Partition.sd" (fun v => { r with storage := v }) (readPart budget r.storage key bytes)
    | 5 => into "Partition.seq_id" (fun v => { r with sequence := v }) (readUInt64 key bytes)
    | 6 => into "Partition.id" (fun v => { r with id := v }) (readText key bytes)
    | 7 => into "Partition.table" (fun v => { r with table := v }) (readPart budget r.table key bytes)
    | _ => skipField budget r key bytes

end TableCatalog.Wire
