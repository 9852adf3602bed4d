import DocStore.Codec.Bytes
import DocStore.Json

namespace DocStore.Http

inductive Status where
  | ok
  | created
  | badRequest
  | unauthorized
  | notFound
  | methodNotAllowed
  | payloadTooLarge
  | unsupportedMediaType
  | unprocessable
  | internalError
deriving DecidableEq, Repr

namespace Status

def code : Status → Nat
  | .ok => 200
  | .created => 201
  | .badRequest => 400
  | .unauthorized => 401
  | .notFound => 404
  | .methodNotAllowed => 405
  | .payloadTooLarge => 413
  | .unsupportedMediaType => 415
  | .unprocessable => 422
  | .internalError => 500

end Status

structure Request where
  method : String
  target : String
  contentType : Option String
  authorization : Option String
  body : Bytes
deriving DecidableEq, Repr

/-- What a response carries.  Samples are counts under the names of what is counted. -/
inductive Body where
  | nothing
  | text (content : String)
  | json (value : Json)
  | samples (counts : List (String × Nat))
deriving DecidableEq

structure Response where
  status : Status
  body : Body
deriving DecidableEq

namespace Response

def bare (status : Status) : Response := ⟨status, .nothing⟩

def fault (status : Status) (message : String) : Response :=
  ⟨status, .json (.object [("error", .string message)])⟩

end Response

end DocStore.Http
