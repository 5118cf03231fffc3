import AuthGateway.Toml.Value

/-!
Tables of TOML while they are written down. Several lines may add to one table,
and which of them may depends on how the table came about: by a dotted key, by
a header, or only as the parent of one. Nothing is ever assigned twice.
-/
namespace AuthGateway.Toml

inductive Draft where
  | value (v : Value)
  /-- A table that dotted keys make, which only dotted keys add to. -/
  | dotted (fields : List (String × Draft))
  /-- A table of a header, or the parent of one, which has no header yet. -/
  | headed (parentOnly : Bool) (fields : List (String × Draft))
  /-- An array of tables, the latest one last. -/
  | tables (all : List (List (String × Draft)))

abbrev Fields := List (String × Draft)

namespace Draft

mutual

def finish : Draft → Value
  | .value v => v
  | .dotted fields => .table (finishFields fields)
  | .headed _ fields => .table (finishFields fields)
  | .tables all => .array (finishTables all)

def finishFields : List (String × Draft) → List (String × Value)
  | [] => []
  | (k, d) :: rest => (k, d.finish) :: finishFields rest

def finishTables : List (List (String × Draft)) → List Value
  | [] => []
  | fields :: rest => .table (finishFields fields) :: finishTables rest

end

end Draft

namespace Fields

def put (fields : Fields) (k : String) (d : Draft) : Fields :=
  match fields with
  | [] => [(k, d)]
  | (l, e) :: rest => if l = k then (k, d) :: rest else (l, e) :: put rest k d

def assign? (fields : Fields) (key : List String) (v : Value) : Option Fields :=
  match key with
  | [] => none
  | [k] => if (fields.lookup k).isSome then none else some (fields ++ [(k, .value v)])
  | k :: more =>
    match fields.lookup k with
    | none => (assign? [] more v).map fun inner => fields ++ [(k, .dotted inner)]
    | some (.dotted inner) => (assign? inner more v).map fun inner => put fields k (.dotted inner)
    | some _ => none

def assignAll? (fields : Fields) (entries : List (List String × Value)) : Option Fields :=
  entries.foldlM (fun fs e => fs.assign? e.1 e.2) fields

def addTable? (fields : Fields) (path : List String) (entries : List (List String × Value)) :
    Option Fields :=
  match path with
  | [] => none
  | [k] =>
    match fields.lookup k with
    | none => (assignAll? [] entries).map fun inner => put fields k (.headed false inner)
    -- a table that was only on the way to another may still have its own header, once
    | some (.headed true inner) =>
      (assignAll? inner entries).map fun inner => put fields k (.headed false inner)
    | some _ => none
  | k :: more =>
    match fields.lookup k with
    | none => (addTable? [] more entries).map fun inner => put fields k (.headed true inner)
    | some (.headed parentOnly inner) =>
      (addTable? inner more entries).map fun inner => put fields k (.headed parentOnly inner)
    -- behind an array of tables a header goes on with the last of them
    | some (.tables all) =>
      (addTable? (all.getLast?.getD []) more entries).map fun inner =>
        put fields k (.tables (all.dropLast ++ [inner]))
    | some _ => none

def addElement? (fields : Fields) (path : List String) (entries : List (List String × Value)) :
    Option Fields :=
  match path with
  | [] => none
  | [k] =>
    match fields.lookup k with
    | none => (assignAll? [] entries).map fun inner => put fields k (.tables [inner])
    | some (.tables all) =>
      (assignAll? [] entries).map fun inner => put fields k (.tables (all ++ [inner]))
    | some _ => none
  | k :: more =>
    match fields.lookup k with
    | none => (addElement? [] more entries).map fun inner => put fields k (.headed true inner)
    | some (.headed parentOnly inner) =>
      (addElement? inner more entries).map fun inner => put fields k (.headed parentOnly inner)
    | some (.tables all) =>
      (addElement? (all.getLast?.getD []) more entries).map fun inner =>
        put fields k (.tables (all.dropLast ++ [inner]))
    | some _ => none

end Fields

end AuthGateway.Toml
