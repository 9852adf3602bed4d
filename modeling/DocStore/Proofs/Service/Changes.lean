import DocStore.Proofs.Service
import DocStore.Proofs.Store.Changes

namespace DocStore

namespace Http

variable {request : Request} {top : String}

end Http

namespace Service

open Http (Call Request Response)

/-- A response that tells of success goes with one commit, as long as there are numbers for commits,
and any other with none. -/
def Tells (before : Tables) (answered : Response × Service) : Prop :=
  if answered.1.status.Succeeds then
    before.commitSeq.toNat + 1 < 2 ^ 64 →
      answered.2.store.tables.commitSeq.toNat = before.commitSeq.toNat + 1
  else answered.2.store.tables = before

variable {α : Type} (service : Service) (occasion : Occasion)

variable {service occasion} {request : Request} {fault : Effect → Option Plan.Failure}
  {files left : Directory} {response : Response} {next : Service}

end Service

end DocStore
