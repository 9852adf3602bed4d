import DocStore.Offline.Script
import DocStore.Recovery

namespace DocStore.Offline

/-- The content of a file; a file that is not there has none. -/
def contentOf? (read : IO α) : IO (Option α) := do
  try
    return some (← read)
  catch
    | .noFileOrDirectory _ _ _ => return none
    | other => throw other

def readFolder (folder : String) : IO Directory := do
  let manifest ← contentOf? (IO.FS.readFile (folder ++ "/manifest.json"))
  let files : Directory := { Directory.empty with manifest }
  match Log.readManifest files with
  | .error _ | .ok none => return files
  | .ok (some listed) =>
      let mut segments := files.segments
      for segment in listed.segments do
        if let some bytes ← contentOf? (IO.FS.readBinFile (folder ++ "/wal/" ++ segment.name)) then
          segments := segments.insert segment.name bytes.data.toList
      let mut snapshots := files.snapshots
      if let some name := listed.currentSnapshot then
        if let some text ← contentOf? (IO.FS.readFile (folder ++ "/snapshots/" ++ name)) then
          snapshots := snapshots.insert name text
      return { files with segments, snapshots }

def faultOf : IO.Error → IoError
  | .noFileOrDirectory _ _ _ => .notFound
  | .permissionDenied _ _ _ => .notPermitted
  | .resourceExhausted _ _ _ => .noSpace
  | .inappropriateType _ _ _ => .isDirectory
  | _ => .invalidData

def runScript : Script → IO UInt32
  | .finish code => return code.toUInt32
  | .print text next => do
      IO.print text
      runScript next
  | .warn text next => do
      IO.eprint text
      runScript next
  | .save path text next => do
      let outcome ←
        try
          IO.FS.writeFile path text
          pure (.ok ())
        catch error => pure (.error (faultOf error))
      runScript (next outcome)

end DocStore.Offline

open DocStore DocStore.Offline in
def main (arguments : List String) : IO UInt32 := do
  match Invocation.ofArguments arguments with
  | .misuse =>
      IO.eprint (Topic.text .everything)
      return 2
  | .help topic =>
      IO.print topic.text
      return 0
  | .run command =>
      try
        let files ← readFolder command.folder
        runScript (command.script (recover files))
      catch error => runScript (.fail (faultOf error).message)
