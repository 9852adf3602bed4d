import DocStore.Http.Form
import DocStore.Http.MediaType
import DocStore.Http.Message
import DocStore.Http.Route
import DocStore.Json.Record
import DocStore.Store.Operations

namespace DocStore.Http

inductive Call where
  | health
  | metrics
  | issueToken (user password : String)
  | listIndexes (contained : Option String)
  | createIndex (indexId : String)
  | deleteIndex (indexId : String)
  | queryDocuments (indexId query : String) (page : Page)
  | createDocument (indexId : String) (source : Json)
  | getDocument (indexId id : String)
  | upsertDocument (indexId id : String) (source : Json)
  | deleteDocument (indexId id : String)
  | takeSnapshot
  | showManifest
  | trimLog (snapshot : String)
  | verifyIndex (indexId : String)
  | explain (query : String)
deriving DecidableEq

namespace Call

/-- Whether a token is needed where tokens are asked for. -/
def isGuarded : Call → Bool
  | .health | .metrics | .issueToken _ _ => false
  | _ => true

/-- The name under which calls are counted; some are not. -/
def countedAs? : Call → Option String
  | .listIndexes _ => some "list_indexes"
  | .createIndex _ => some "create_index"
  | .deleteIndex _ => some "delete_index"
  | .queryDocuments _ _ _ => some "query_documents"
  | .createDocument _ _ => some "create_document"
  | .getDocument _ _ => some "get_document"
  | .upsertDocument _ _ _ => some "upsert_document"
  | .deleteDocument _ _ => some "delete_document"
  | _ => none

/-- The most bytes that a body may have. -/
def bodyLimit : Nat := 2 * 1024 * 1024

def readId (part : String) : Except Status String :=
  match Bytes.toString? (Percent.decode (Bytes.ofString part)) with
  | some id => .ok id
  | none => .error .badRequest

def queryForm (request : Request) : Form :=
  Form.ofBytes (Bytes.ofString (String.ofList (Target.ofText request.target).query))

def readText? (request : Request) (name : String) : Except Status (Option String) :=
  match (queryForm request).value? name with
  | .ok value => .ok value
  | .error () => .error .badRequest

def readNumber? (request : Request) (name : String) : Except Status (Option Nat) :=
  match (queryForm request).number? name with
  | .ok value => .ok value
  | .error () => .error .badRequest

def checkLength (body : Bytes) : Except Status Unit :=
  if bodyLimit < body.length then .error .payloadTooLarge else .ok ()

/-- The source of a document in the body of a request.  What follows the record is not read. -/
def readSource (request : Request) : Except Status Json :=
  if !((request.contentType.bind MediaType.ofText?).any MediaType.isJson) then
    .error .unsupportedMediaType
  else do
    checkLength request.body
    match Json.readRecord ["source"] (Json.charsOfBytes request.body) with
    | .ok (found, _) =>
        match found.get? "source" with
        | some source => .ok source.settled
        | none => .error .unprocessable
    | .error .mismatch => .error .unprocessable
    | .error _ => .error .badRequest

def readCredentials (request : Request) : Except Status (String × String) :=
  if !(request.contentType.any fun type => MediaType.form.toList.isPrefixOf type.toList) then
    .error .unsupportedMediaType
  else do
    checkLength request.body
    let form := Form.ofBytes request.body
    match form.value? "username", form.value? "password" with
    | .ok (some user), .ok (some password) => .ok (user, password)
    | _, _ => .error .unprocessable

/-- The page that the query of an address asks for. -/
def readPage (request : Request) : Except Status Page := do
  let offset ← readNumber? request "offset"
  let limit ← readNumber? request "limit"
  .ok ⟨offset.getD Page.first.offset, limit.getD Page.first.limit⟩

def ofResource (request : Request) (method : String) : Resource → Except Status Call
  | .health =>
      match method with
      | "GET" => .ok .health
      | _ => .error .methodNotAllowed
  | .metrics =>
      match method with
      | "GET" => .ok .metrics
      | _ => .error .methodNotAllowed
  | .tokens =>
      match method with
      | "POST" => (readCredentials request).map fun (user, password) => .issueToken user password
      | _ => .error .methodNotAllowed
  | .indexes =>
      match method with
      | "GET" => (readText? request "query_index_id").map .listIndexes
      | _ => .error .methodNotAllowed
  | .index indexId =>
      match method with
      | "POST" => (readId indexId).map .createIndex
      | "DELETE" => (readId indexId).map .deleteIndex
      | _ => .error .methodNotAllowed
  | .documents indexId =>
      match method with
      | "GET" => do
          let indexId ← readId indexId
          let query ← readText? request "query"
          .ok (.queryDocuments indexId (query.getD "") (← readPage request))
      | "POST" => do
          let indexId ← readId indexId
          .ok (.createDocument indexId (← readSource request))
      | _ => .error .methodNotAllowed
  | .document indexId id =>
      match method with
      | "GET" => do .ok (.getDocument (← readId indexId) (← readId id))
      | "POST" => do
          let indexId ← readId indexId
          let id ← readId id
          .ok (.upsertDocument indexId id (← readSource request))
      | "DELETE" => do .ok (.deleteDocument (← readId indexId) (← readId id))
      | _ => .error .methodNotAllowed
  | .snapshots =>
      match method with
      | "POST" => .ok .takeSnapshot
      | _ => .error .methodNotAllowed
  | .manifest =>
      match method with
      | "GET" => .ok .showManifest
      | _ => .error .methodNotAllowed
  | .logTrimming =>
      match method with
      | "POST" => (readText? request "snapshot_id").map fun name => .trimLog (name.getD "")
      | _ => .error .methodNotAllowed
  | .verification indexId =>
      match method with
      | "GET" => (readId indexId).map .verifyIndex
      | _ => .error .methodNotAllowed
  | .explanation =>
      match method with
      | "GET" => (readText? request "query").map fun query => .explain (query.getD "")
      | _ => .error .methodNotAllowed

/-- The call that a request makes.  Asking for the head alone is asking for the whole. -/
def ofRequest (request : Request) : Except Status Call :=
  match Resource.ofPath (Target.ofText request.target).path with
  | none => .error .notFound
  | some resource =>
      ofResource request (if request.method = "HEAD" then "GET" else request.method) resource

end Call

end DocStore.Http
