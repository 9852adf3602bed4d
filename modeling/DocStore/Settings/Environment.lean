import DocStore.Log.Writer
import DocStore.Text.Blank

namespace DocStore

abbrev Environment := SortedMap String String

namespace Log.Options

/-- The number that a variable is set to, blanks around it aside. -/
def numberOf (environment : Environment) (name : String) (standard : UInt64) :
    Except IoError UInt64 :=
  match environment.get? name with
  | none => .ok standard
  | some value =>
      match Text.natural? (2 ^ 64) (Text.trim value.toList) with
      | some number => .ok (.ofNat number)
      | none => .error (.invalidVariable name value)

/-- The options that the environment asks for; the first variable that is no number is refused. -/
def ofEnvironment (environment : Environment) : Except IoError Options := do
  let segmentBytes ← numberOf environment "WAL_SEGMENT_BYTES" standard.segmentBytes
  let batchMaxBytes ← numberOf environment "WAL_BATCH_MAX_BYTES" standard.batchMaxBytes
  let batchMaxMillis ← numberOf environment "WAL_BATCH_MAX_MS" standard.batchMaxMillis
  .ok ⟨segmentBytes, batchMaxBytes, batchMaxMillis⟩

end Log.Options

end DocStore
