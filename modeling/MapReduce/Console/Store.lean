import MapReduce.Console.Reply
import MapReduce.Domain.Collections

/-! Key-value scripts: a store, in memory or relational, and the commands on its keys, queues and
trees. Every command answers on its own; a failing command leaves the store as it was and the next
commands run. Listings are in a fixed order: children and tree members by their compact texts,
tree keys by name. -/

namespace MapReduce

namespace Console

/-- Runs texts of SQL statements on a database, in order, each statement on its own. -/
def runSql (db : Sql.Database) (texts : List String) : Answer Sql.Database :=
  texts.foldlM (fun db src =>
    match (Sql.Session.executeText { db } src) with
    | (.ok (), s) => .ok s.db
    | (.error e, _) => .error (.malformed ("sql failed: " ++ e))) db

/-- Opens the store a script asks for: the memory backend, a private relational database, or a
relational database file whose schema statements may run before and after it is connected. The
answer is the store, or the reply for the whole script when it cannot be connected. -/
def openStore (input : Json) : Answer (Except Json Store) := do
  match strOr input "backend" "memory" with
  | "memory" => .ok (.ok Store.emptyMemory)
  | "sqlite" =>
    match RelationalStore.connect {} with
    | .ok r => .ok (.ok ⟨.relational r, []⟩)
    | .error e => .ok (.error (kvErrorReply e))
  | "sqlite_file" =>
    let pre ← strList ((field input "pre_sql").bind Json.getArr? |>.getD [])
    let post ← strList ((field input "post_sql").bind Json.getArr? |>.getD [])
    let db ← runSql {} pre
    match RelationalStore.connect db with
    | .error e => .ok (.error (kvErrorReply e))
    | .ok r =>
      let db ← runSql r.db post
      .ok (.ok ⟨.relational ⟨db⟩, []⟩)
  | _ => .error (.malformed "unknown backend")

/-- Whether a store keeps its data in memory. -/
def isMemory (s : Store) : Bool :=
  match s.backend with
  | .memory _ => true
  | _ => false

/-- Runs a key-value computation on a store. -/
def runKv {α : Type} (s : Store) (m : KvM α) : Except KvError α × Store := m.run s

/-- The key named by a member: an array of segments. -/
def keyOf (j : Json) (name : String) : Answer Identity := do
  .ok (Identity.ofList (← reqStrList j name))

/-- A stored node: its version and value, the value decoded from JSON or raw. -/
def nodeJson (n : Node) (decoded : Bool) : Json :=
  if decoded then
    match Kv.decodeRaw n.value with
    | .ok v => okReply (obj [("version", .nat n.version), ("value", v)])
    | .error e => kvErrorReply e
  else okReply (obj [("version", .nat n.version), ("value", .str n.value)])

/-- The reply to a key-value result. -/
def kvAnswer {α : Type} (r : Except KvError α) (f : α → Json) : Json :=
  match r with
  | .ok a => okReply (f a)
  | .error e => kvErrorReply e

/-- Runs one command on a store: the key-value operations, the queues and the trees. -/
def kvStep (s : Store) (st : Json) : Answer (Json × Store) := do
  let d ← reqStr st "do"
  let memOnly (k : Unit → Answer (Json × Store)) : Answer (Json × Store) :=
    if isMemory s then k () else .ok (malformedReply "step needs the memory backend", s)
  match d with
  | "get" =>
    let key ← keyOf st "key"
    let (r, s) := runKv s (Kv.get key)
    .ok (match r with
      | .ok n => nodeJson n true
      | .error e => kvErrorReply e, s)
  | "get_raw" =>
    let key ← keyOf st "key"
    let (r, s) := runKv s (Kv.get key)
    .ok (match r with
      | .ok n => nodeJson n false
      | .error e => kvErrorReply e, s)
  | "set" =>
    let key ← keyOf st "key"
    let (r, s) := runKv s (Kv.setJson key (valueOf st))
    .ok (kvAnswer r Json.nat, s)
  | "set_raw" =>
    let key ← keyOf st "key"
    let raw ← reqStr st "raw"
    let (r, s) := runKv s (Kv.set key raw)
    .ok (kvAnswer r Json.nat, s)
  | "create_only" =>
    let key ← keyOf st "key"
    let (r, s) := runKv s (Kv.createOnlyJson key (valueOf st))
    .ok (kvAnswer r Json.nat, s)
  | "update_only" =>
    let key ← keyOf st "key"
    let expected := (field st "expected").bind Json.getNat?
    let (r, s) := runKv s (Kv.updateOnlyJson key (valueOf st) expected)
    .ok (kvAnswer r Json.nat, s)
  | "delete" =>
    let key ← keyOf st "key"
    let (r, s) := runKv s (Kv.delete key)
    .ok (kvAnswer r fun _ => .null, s)
  | "delete_tree" =>
    let key ← keyOf st "key"
    let (r, s) := runKv s (Kv.deleteTree key)
    .ok (kvAnswer r fun _ => .null, s)
  | "list" =>
    let key ← keyOf st "key"
    let (r, s) := runKv s (Kv.listAs .ok key)
    .ok (kvAnswer r fun items =>
      .arr (Json.sortByText (items.map fun (n, v, x) => Json.arr [.str n, .nat v, x])), s)
  | "list_raw" =>
    let key ← keyOf st "key"
    let (r, s) := runKv s (Kv.listChildren key)
    .ok (kvAnswer r fun items =>
      .arr (Json.sortByText (items.map fun (n, node) => Json.arr [.str n, .nat node.version, .str node.value])), s)
  | "append" =>
    let key ← keyOf st "key"
    let (r, s) := runKv s (Kv.appendJson key (valueOf st))
    .ok (kvAnswer r fun (n, v) => .arr [.str n, .nat v], s)
  | "watch" =>
    let key ← keyOf st "key"
    let since := (field st "since").bind Json.getNat?
    let (r, s) := runKv s (Kv.watch key since)
    .ok (match r with
      | .ok n => nodeJson n true
      | .error e => kvErrorReply e, s)
  | "close" => memOnly fun _ =>
    match s.backend with
    | .memory m => .ok (okReply .null, { s with backend := .memory m.close })
    | _ => .ok (okReply .null, s)
  | "dump" => memOnly fun _ => do
    let key ← keyOf st "key"
    match s.backend with
    | .memory m => .ok (kvAnswer (m.dump key) fun items =>
        .arr (items.map fun (p, v) => Json.arr [.str p, .str v]), s)
    | _ => .ok (okReply .null, s)
  | "len" => memOnly fun _ =>
    match s.backend with
    | .memory m => .ok (okReply (obj [("len", .nat m.size), ("is_empty", .bool (m.size == 0))]), s)
    | _ => .ok (okReply .null, s)
  | "decode" =>
    let raw ← reqStr st "raw"
    .ok (kvAnswer (Kv.decodeRaw raw) id, s)
  | "check" =>
    let key ← keyOf st "key"
    let action ← reqStr st "action"
    let expected := (field st "expected").bind Json.getNat?
    let res : Answer (Except KvError Nat × Store) := match action with
      | "get" => .ok (runKv s (do let n ← Kv.get key; pure n.version))
      | "create_only" => .ok (runKv s (Kv.createOnlyJson key (valueOf st)))
      | "update_only" => .ok (runKv s (Kv.updateOnlyJson key (valueOf st) expected))
      | "delete" => .ok (runKv s (do Kv.delete key; pure 0))
      | _ => .error (.malformed "unknown check action")
    match res with
    | .error (.malformed m) => .ok (malformedReply m, s)
    | .error e => .error e
    | .ok (r, s) =>
      .ok (match r with
        | .ok v => okReply (obj [("ok", .bool true), ("version", .nat v)])
        | .error e => okReply (obj [("ok", .bool false), ("not_found", .bool e.isNotFound),
            ("precondition_failed", .bool e.isPreconditionFailed),
            ("already_exists", .bool e.isAlreadyExists)]), s)
  | "encode_identity" =>
    let key ← keyOf st "key"
    .ok (kvAnswer key.encode Json.str, s)
  | "queue_add" =>
    let q := Queue.ofIdentity (← keyOf st "queue")
    let (r, s) := runKv s (q.add (valueOf st))
    .ok (kvAnswer r Json.str, s)
  | "queue_get" =>
    let q := Queue.ofIdentity (← keyOf st "queue")
    let (r, s) := runKv s (q.get (← reqStr st "name"))
    .ok (kvAnswer r id, s)
  | "queue_delete_key" =>
    let q := Queue.ofIdentity (← keyOf st "queue")
    let (r, s) := runKv s (q.deleteKey (← reqStr st "name"))
    .ok (kvAnswer r fun _ => .null, s)
  | "queue_list" =>
    let q := Queue.ofIdentity (← keyOf st "queue")
    let (r, s) := runKv s q.listWithNames
    .ok (kvAnswer r fun items => .arr (items.map fun (n, v) => Json.arr [.str n, v]), s)
  | "queue_list_data" =>
    let q := Queue.ofIdentity (← keyOf st "queue")
    let (r, s) := runKv s q.list
    .ok (kvAnswer r Json.arr, s)
  | "queue_delete" =>
    let q := Queue.ofIdentity (← keyOf st "queue")
    let (r, s) := runKv s q.delete
    .ok (kvAnswer r fun _ => .null, s)
  | "queue_root" =>
    let q := Queue.ofIdentity (← keyOf st "queue")
    .ok (okReply (.str q.root.display), s)
  | "tree_add" =>
    let t := Tree.ofIdentity (← keyOf st "tree")
    let (r, s) := runKv s (t.add (← reqStr st "name") (valueOf st))
    .ok (kvAnswer r Json.nat, s)
  | "tree_set" =>
    let t := Tree.ofIdentity (← keyOf st "tree")
    let (r, s) := runKv s (t.set (← reqStr st "name") (valueOf st))
    .ok (kvAnswer r Json.nat, s)
  | "tree_update" =>
    let t := Tree.ofIdentity (← keyOf st "tree")
    let (r, s) := runKv s (t.update (← reqStr st "name") (valueOf st))
    .ok (kvAnswer r Json.nat, s)
  | "tree_get" =>
    let t := Tree.ofIdentity (← keyOf st "tree")
    let (r, s) := runKv s (t.get (← reqStr st "name"))
    .ok (kvAnswer r id, s)
  | "tree_list" =>
    let t := Tree.ofIdentity (← keyOf st "tree")
    let (r, s) := runKv s t.list
    .ok (kvAnswer r fun items => .arr (Json.sortByText (items.map fun (n, v) => Json.arr [.str n, v])), s)
  | "tree_list_keys" =>
    let t := Tree.ofIdentity (← keyOf st "tree")
    let (r, s) := runKv s t.listKeys
    .ok (kvAnswer r fun ks => .arr ((ks.mergeSort (· ≤ ·)).map Json.str), s)
  | "tree_exists" =>
    let t := Tree.ofIdentity (← keyOf st "tree")
    let (r, s) := runKv s t.exists?
    .ok (kvAnswer r Json.bool, s)
  | "tree_delete" =>
    let t := Tree.ofIdentity (← keyOf st "tree")
    let (r, s) := runKv s t.delete
    .ok (kvAnswer r fun _ => .null, s)
  | "tree_root" =>
    let t := Tree.ofIdentity (← keyOf st "tree")
    .ok (okReply (.str t.root.display), s)
  | _ => .ok (malformedReply "unknown kv step", s)

/-- Runs a script of key-value commands on the store it asks for. -/
def runKvScript (input : Json) : Answer Json := do
  match ← openStore input with
  | .error ans => .ok ans
  | .ok s =>
    let (outs, _) ← runSteps kvStep s (← reqArr input "steps")
    .ok (okReply (.arr outs))

end Console

end MapReduce
