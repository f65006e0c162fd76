import CloudRehearsal.Client.Call

/-!
Tables of items: their life, and single string attributes of their items. Every function sends one
request.
-/
namespace CloudRehearsal.Tables

/-- An event of this client. -/
def event (level : Log.Level) (message : String) (fields : List Log.Field) : Log.Event :=
  ⟨level, "localmock::logic::table", message, fields⟩

/-- Creates a table whose items have one string key; gives the name that the service reports. -/
def create (table key : String) : Call String := do
  Call.note (event .debug "CreateTable" [.quoted "table" table, .quoted "key" key])
  let reported ← Call.send (.createTable table key) (ClientError.ofCreateTable table)
  let created ← Call.required "TableDescription.TableName" reported
  Call.note (event .info "Created table" [.plain "table" created])
  return created

/-- The name of a table that exists. -/
def describe (table : String) : Call String := do
  let reported ← Call.send (.describeTable table) (ClientError.ofDescribeTable table)
  Call.required "Table.TableName" reported

/-- The names of the tables. -/
def list : Call (List String) := Call.sendPlain .listTables

/-- An item with a key and one attribute. An attribute named like the key takes its place. -/
def item (key keyValue name value : String) : TextItem :=
  (TextItem.set [] key keyValue).set name value

theorem item_eq (key keyValue name value : String) :
    item key keyValue name value =
      if name = key then [(key, value)] else [(key, keyValue), (name, value)] := by
  by_cases h : name = key
  · simp [item, TextItem.set, h]
  · simp [item, TextItem.set, h, Ne.symm h]

/-- Writes an item. -/
def putItem (table key keyValue name value : String) : Call Unit := do
  Call.note (event .debug "PutItem" [.quoted "table" table, .quoted "key" keyValue])
  Call.sendPlain (.putItem table (item key keyValue name value))

/-- A string attribute of an item; none when the item or the attribute is missing, or the attribute
is no string. -/
def getItem (table key keyValue name : String) : Call (Option String) := do
  let found : Option Item ← Call.sendPlain (.getItem table [(key, keyValue)])
  return match found.bind (·.lookup name) with
    | some (.text value) => some value
    | _ => none

/-- Deletes a table. -/
def delete (table : String) : Call Unit := do
  Call.sendPlain (.deleteTable table)
  Call.note (event .info "Deleted table" [.quoted "table" table])

end CloudRehearsal.Tables
