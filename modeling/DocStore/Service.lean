import DocStore.Access.Bearer
import DocStore.Http.Call

namespace DocStore

structure Tally where
  operations : SortedMap String Nat
  queries : Nat
  snapshots : Nat
  failedSnapshots : Nat

namespace Tally

def zero : Tally := ⟨∅, 0, 0, 0⟩

def countOperation (tally : Tally) (name : String) : Tally :=
  { tally with
    operations := tally.operations.insert name ((tally.operations.get? name).getD 0 + 1) }

def countSnapshot (tally : Tally) (succeeded : Bool) : Tally :=
  if succeeded then { tally with snapshots := tally.snapshots + 1 }
  else { tally with failedSnapshots := tally.failedSnapshots + 1 }

end Tally

structure Service where
  settings : Settings
  store : Store
  tally : Tally

/-- What is taken from outside for one request: the time, and names that were never used before. -/
structure Occasion where
  now : Int64
  newId : String
  snapshotName : String

namespace Service

open Http (Status Body Request Response Call)

def start (settings : Settings) (store : Store) : Service := ⟨settings, store, .zero⟩

def logActivity (store : Store) : Log.Activity :=
  match store.backing with
  | some backing => backing.log.activity
  | none => ⟨0, 0, 0⟩

def samples (service : Service) : List (String × Nat) :=
  let tally := service.tally
  let activity := logActivity service.store
  let labelled (name label value : String) : String :=
    name ++ "\x7b" ++ label ++ "=\"" ++ value ++ "\"\x7d"
  tally.operations.entries.flatMap (fun (operation, count) =>
    [(labelled "litesearch_ops_total" "op" operation, count),
      (labelled "litesearch_op_duration_seconds_count" "op" operation, count)]) ++
  [("document_query_seconds_count", tally.queries),
    ("snapshot_duration_seconds_count", tally.snapshots + tally.failedSnapshots),
    (labelled "snapshot_total" "result" "ok", tally.snapshots),
    (labelled "snapshot_total" "result" "error", tally.failedSnapshots),
    ("wal_records_total", activity.records),
    ("wal_bytes_total", activity.bytes),
    ("wal_fsync_total", activity.batches),
    ("wal_fsync_seconds_count", activity.batches),
    ("wal_batch_bytes_count", activity.batches)]

def statusOf (error : StoreError) : Status :=
  match error.kind with
  | .notFound => .notFound
  | .alreadyExists | .validation | .querySyntax => .badRequest
  | .invariantViolation | .internal => .internalError

def respondTo (outcome : Except StoreError α) (success : α → Response) : Response :=
  match outcome with
  | .ok value => success value
  | .error error => .fault (statusOf error) error.message

def withMembers (status : Status) (members : List (String × Json)) : Response :=
  ⟨status, .json (.object members)⟩

def idResponse (status : Status) (id : String) : Response := withMembers status [("id", .string id)]

/-- Runs an operation that may change the store. -/
def change (service : Service) (plan : Plan (Store.Outcome α)) (success : α → Response) :
    Plan (Response × Service) := do
  let (outcome, store) ← plan
  return (respondTo outcome success, { service with store })

def tokenResponse (settings : Settings) (now : Int64) (user password : String) : Response :=
  match settings.secret with
  | none => .fault .badRequest "authentication is not configured"
  | some secret =>
      if settings.admits user password then
        withMembers .ok
          [("access_token", .string (Access.issue secret user settings.tokenLifetime now)),
            ("token_type", .string "bearer")]
      else .fault .unauthorized "incorrect username or password"

/-- The response to a question about a query: the text of what is understood by it. -/
def explanation (query : String) : Response :=
  let response (text : Json) (matchesAll : Bool) : Response :=
    withMembers .ok
      [("query", .string query), ("ast", text), ("matches_all", .bool matchesAll)]
  if Text.isBlankText query then response .null true
  else
    match Query.Expr.parse query with
    | .ok expr => response (.string expr.text) false
    | .error fault => respondTo (.error (.invalidQuery fault) : Except StoreError Unit)
        fun () => .bare .ok

def count (value : Nat) : Json := .number (.natural (.ofNat value))

def queryResponse (page : Page) (result : QueryResult) : Response :=
  withMembers .ok
    [("total", count result.total), ("offset", count page.offset), ("limit", count page.limit),
      ("documents", .array (result.documents.map Summary.toJson))]

/-- Counts a query if its documents are looked through: that is, if its text can be read. -/
def countQuery (service : Service) (query : String) : Service :=
  match Query.compile query with
  | .ok _ => { service with tally := { service.tally with queries := service.tally.queries + 1 } }
  | .error _ => service

def takeSnapshot (service : Service) (occasion : Occasion) : Plan (Response × Service) := do
  let (outcome, store) ← service.store.snapshot occasion.now occasion.snapshotName
  let response := respondTo outcome fun (name, seq) =>
    withMembers .ok [("snapshot_id", .string name), ("last_seq", .number (.natural seq))]
  let tally := service.tally.countSnapshot outcome.isOk
  return (response, { service with store, tally })

/-- Carries out a call of somebody who may make it. -/
def perform (service : Service) (occasion : Occasion) : Call → Plan (Response × Service)
  | .health => return (⟨.ok, .text "ok"⟩, service)
  | .metrics => return (⟨.ok, .samples service.samples⟩, service)
  | .issueToken user password =>
      return (tokenResponse service.settings occasion.now user password, service)
  | .listIndexes contained =>
      let found := service.store.tables.listIndexes contained
      return (⟨.ok, .json (.array (found.map Index.toJson))⟩, service)
  | .createIndex indexId =>
      service.change (service.store.createIndex occasion.now indexId) fun index =>
        ⟨.created, .json index.toJson⟩
  | .deleteIndex indexId =>
      service.change (service.store.deleteIndex occasion.now indexId) fun () =>
        idResponse .ok indexId
  | .queryDocuments indexId query page =>
      return (respondTo (service.store.queryDocuments indexId query page) (queryResponse page),
        service.countQuery query)
  | .createDocument indexId source =>
      service.change
        (service.store.createDocument occasion.now indexId occasion.newId source)
        fun document => idResponse .created document.id
  | .getDocument indexId id =>
      return (respondTo (service.store.getDocument indexId id) fun document =>
        ⟨.ok, .json document.toJson⟩, service)
  | .upsertDocument indexId id source =>
      service.change (service.store.upsertDocument occasion.now indexId id source false)
        fun (isNew, document) => idResponse (if isNew then .created else .ok) document.id
  | .deleteDocument indexId id =>
      service.change (service.store.deleteDocument occasion.now indexId id) fun () =>
        idResponse .ok id
  | .takeSnapshot => service.takeSnapshot occasion
  | .showManifest => return (⟨.ok, .json service.store.manifestJson⟩, service)
  | .trimLog snapshot =>
      if snapshot.isEmpty then return (.fault .badRequest "missing snapshot_id", service)
      else
        service.change (service.store.trim snapshot) fun names =>
          withMembers .ok [("deleted", .array (names.map .string))]
  | .verifyIndex indexId =>
      return (respondTo (service.store.verifyIndex indexId) fun () =>
        withMembers .ok [("index_id", .string indexId), ("consistent", .bool true)], service)
  | .explain query => return (explanation query, service)

def countCall (service : Service) (call : Call) : Service :=
  match call.countedAs? with
  | some name => { service with tally := service.tally.countOperation name }
  | none => service

/-- Whether the sender of a request may make a call. -/
def permit (settings : Settings) (now : Int64) (request : Request) (call : Call) :
    Except Access.Refusal Unit :=
  if call.isGuarded then Access.authorize settings request.authorization now else .ok ()

def answer (service : Service) (occasion : Occasion) (request : Request) :
    Plan (Response × Service) :=
  match Call.ofRequest request with
  | .error status => return (.bare status, service)
  | .ok call =>
      match permit service.settings occasion.now request call with
      | .error refusal => return (.fault .unauthorized refusal.message, service)
      | .ok () => (service.countCall call).perform occasion call

/-- The response to a request and the service after it.  A request for options is welcome
everywhere; one for the head of a response gets no body. -/
def respond (service : Service) (occasion : Occasion) (request : Request) :
    Plan (Response × Service) :=
  if request.method = "OPTIONS" then return (.bare .ok, service)
  else do
    let (response, service) ← service.answer occasion request
    if request.method = "HEAD" then return (.bare response.status, service)
    else return (response, service)

end Service

end DocStore
