import DocStore.Store.Operations
import DocStore.Proofs.Store.Durable
import DocStore.Proofs.Transaction

namespace DocStore

open Log (Record)

inductive Action where
  | getIndex (id : String)
  | getDocument (key : DocumentKey)
  | putIndex (index : Index)
  | deleteIndex (id : String)
  | putDocument (document : Document)
  | deleteDocument (key : DocumentKey)

inductive Found where
  | index (found : Option Index)
  | document (found : Option Document)
deriving DecidableEq

namespace Transaction

def act (transaction : Transaction) : Action → List Found × Transaction
  | .getIndex id => ([.index (transaction.getIndex? id)], transaction)
  | .getDocument key => ([.document (transaction.getDocument? key)], transaction)
  | .putIndex index => ([], transaction.putIndex index)
  | .deleteIndex id => ([], transaction.deleteIndex id)
  | .putDocument document => ([], transaction.putDocument document)
  | .deleteDocument key => ([], transaction.deleteDocument key)

def actAll (transaction : Transaction) : List Action → List Found × Transaction
  | [] => ([], transaction)
  | action :: rest =>
      let (found, transaction) := transaction.act action
      let (later, transaction) := transaction.actAll rest
      (found ++ later, transaction)

theorem tables_actAll (transaction : Transaction) (actions : List Action) :
    (transaction.actAll actions).2.tables = transaction.tables := by
  induction actions generalizing transaction with
  | nil => rfl
  | cons action rest ih =>
      rw [actAll, ih]
      cases action <;> rfl

end Transaction

/-- What clients ask a store for.  A transaction that is not committed is given up. -/
inductive StoreRequest where
  | createIndex (now : Int64) (id : String)
  | deleteIndex (now : Int64) (id : String)
  | upsertDocument (now : Int64) (indexId id : String) (source : Json) (onlyNew : Bool)
  | createDocument (now : Int64) (indexId newId : String) (source : Json)
  | deleteDocument (now : Int64) (indexId id : String)
  | getIndex (id : String)
  | getDocument (indexId id : String)
  | listIndexes (contained : Option String)
  | queryDocuments (indexId query : String) (page : Page)
  | verifyIndex (id : String)
  | transact (now : Int64) (actions : List Action) (commits : Bool)

inductive Answer where
  | index (outcome : Except StoreError Index)
  | upserted (outcome : Except StoreError (Bool × Document))
  | document (outcome : Except StoreError Document)
  | done (outcome : Except StoreError Unit)
  | indexes (found : List Index)
  | page (outcome : Except StoreError QueryResult)
  | transacted (found : List Found) (committed : Option (Except StoreError UInt64))

namespace StoreRequest

/-- Answers a request with the operation of the store. -/
def run (store : Store) : StoreRequest → Plan (Answer × Store)
  | .createIndex now id => do
      let (outcome, store) ← store.createIndex now id
      return (.index outcome, store)
  | .deleteIndex now id => do
      let (outcome, store) ← store.deleteIndex now id
      return (.done outcome, store)
  | .upsertDocument now indexId id source onlyNew => do
      let (outcome, store) ← store.upsertDocument now indexId id source onlyNew
      return (.upserted outcome, store)
  | .createDocument now indexId newId source => do
      let (outcome, store) ← store.createDocument now indexId newId source
      return (.document outcome, store)
  | .deleteDocument now indexId id => do
      let (outcome, store) ← store.deleteDocument now indexId id
      return (.done outcome, store)
  | .getIndex id => return (.index (store.getIndex id), store)
  | .getDocument indexId id => return (.document (store.getDocument indexId id), store)
  | .listIndexes contained => return (.indexes (store.tables.listIndexes contained), store)
  | .queryDocuments indexId query page =>
      return (.page (store.queryDocuments indexId query page), store)
  | .verifyIndex id => return (.done (store.verifyIndex id), store)
  | .transact now actions commits => do
      let (found, transaction) := (Transaction.begin store.tables).actAll actions
      if commits then
        let (outcome, store) ← store.commit now transaction
        return (.transacted found (some outcome), store)
      else return (.transacted found none, store)

def stagedRecord? {α : Type} (tables : Tables) (now : Int64)
    (stage : Transaction → Except StoreError (α × Transaction)) : Option Record :=
  match stage (.begin tables) with
  | .ok (_, transaction) => transaction.record? now
  | .error _ => none

def record? (tables : Tables) : StoreRequest → Option Record
  | .createIndex now id => stagedRecord? tables now (Transaction.createIndex id)
  | .deleteIndex now id => stagedRecord? tables now (Transaction.dropIndex id)
  | .upsertDocument now indexId id source onlyNew =>
      stagedRecord? tables now (Transaction.upsert indexId id source onlyNew)
  | .createDocument now indexId newId source =>
      stagedRecord? tables now (Transaction.upsert indexId newId source true)
  | .deleteDocument now indexId id =>
      stagedRecord? tables now (Transaction.removeDocument indexId id)
  | .transact now actions true =>
      ((Transaction.begin tables).actAll actions).2.record? now
  | _ => none

/-- What a store in memory with the given tables answers, and its tables then. -/
def inMemory (tables : Tables) (request : StoreRequest) : Answer × Tables :=
  let (answer, store) := ((request.run (.ofTables tables)).run Plan.noFault .empty).2
  (answer, store.tables)

end StoreRequest

theorem Store.commit_ofTables {tables : Tables} {transaction : Transaction}
    (begun : transaction.tables = tables) (now : Int64) :
    (Store.ofTables tables).commit now transaction =
      pure (.ok transaction.committedSeq, .ofTables transaction.apply) := by
  unfold Transaction.committedSeq Store.commit
  cases unchanged : transaction.mutations.isEmpty with
  | true =>
      simp only [Transaction.apply, unchanged, if_true, begun]
      rfl
  | false => rfl

/-- What a write leads to in memory. -/
def Store.writeInMemory {α : Type} (tables : Tables)
    (stage : Transaction → Except StoreError (α × Transaction)) : Except StoreError α × Tables :=
  match stage (.begin tables) with
  | .error error => (.error error, tables)
  | .ok (result, transaction) => (.ok result, transaction.apply)

theorem Store.write_ofTables {α : Type}
    {stage : Transaction → Except StoreError (α × Transaction)} (stages : Transaction.Stages stage)
    (tables : Tables) (now : Int64) :
    (Store.ofTables tables).write now stage =
      pure ((writeInMemory tables stage).1, .ofTables (writeInMemory tables stage).2) := by
  have same : (Store.ofTables tables).tables = tables := rfl
  unfold Store.write writeInMemory
  rw [same]
  cases staged : stage (.begin tables) with
  | error error => rfl
  | ok found =>
      obtain ⟨result, transaction⟩ := found
      have begun : transaction.tables = tables := stages _ _ _ staged
      simp only [commit_ofTables begun]
      rfl

namespace StoreRequest

/-- How requests are answered: from the tables, by a write, or by committing a transaction. -/
inductive Shape : StoreRequest → Prop where
  | read {request : StoreRequest} (answer : Tables → Answer)
      (run : ∀ store, request.run store = pure (answer store.tables, store))
      (record : ∀ tables, request.record? tables = none) : Shape request
  | write {request : StoreRequest} {α : Type} {now : Int64}
      {stage : Transaction → Except StoreError (α × Transaction)}
      (stages : Transaction.Stages stage) (answer : Except StoreError α → Answer)
      (run : ∀ store, request.run store =
        store.write now stage >>= fun outcome => pure (answer outcome.1, outcome.2))
      (record : ∀ tables, request.record? tables = stagedRecord? tables now stage) : Shape request
  | transact (now : Int64) (actions : List Action) : Shape (.transact now actions true)

private theorem bind_bind_map {α β γ : Type} (plan : Plan (Store.Outcome α)) (f : α → β)
    (answer : Except StoreError β → γ) :
    ((plan >>= fun outcome => pure (outcome.1.map f, outcome.2)) >>= fun outcome =>
        pure (answer outcome.1, outcome.2)) =
      plan >>= fun outcome => pure (answer (outcome.1.map f), outcome.2) := by
  change (plan.bind _).bind _ = plan.bind _
  induction plan with
  | done value => rfl
  | perform change next ih =>
      exact congrArg (Plan.perform change) (funext fun outcome => ih outcome)

theorem run_createDocument (now : Int64) (indexId newId : String) (source : Json) (store : Store) :
    (createDocument now indexId newId source).run store =
      store.write now (Transaction.upsert indexId newId source true) >>= fun outcome =>
        pure (.document (outcome.1.map Prod.snd), outcome.2) :=
  bind_bind_map _ Prod.snd Answer.document

theorem shape (request : StoreRequest) : Shape request := by
  cases request with
  | createIndex now id =>
      exact .write (Transaction.stages_createIndex id) .index (fun _ => rfl) fun _ => rfl
  | deleteIndex now id =>
      exact .write (Transaction.stages_dropIndex id) .done (fun _ => rfl) fun _ => rfl
  | upsertDocument now indexId id source onlyNew =>
      exact .write (Transaction.stages_upsert indexId id source onlyNew) .upserted (fun _ => rfl)
        fun _ => rfl
  | createDocument now indexId newId source =>
      exact .write (Transaction.stages_upsert indexId newId source true)
        (fun outcome => .document (outcome.map Prod.snd))
        (run_createDocument now indexId newId source) fun _ => rfl
  | deleteDocument now indexId id =>
      exact .write (Transaction.stages_removeDocument indexId id) .done (fun _ => rfl) fun _ => rfl
  | getIndex id =>
      exact .read (fun tables => .index ((Store.ofTables tables).getIndex id)) (fun _ => rfl)
        fun _ => rfl
  | getDocument indexId id =>
      exact .read (fun tables => .document ((Store.ofTables tables).getDocument indexId id))
        (fun _ => rfl) fun _ => rfl
  | listIndexes contained =>
      exact .read (fun tables => .indexes (tables.listIndexes contained)) (fun _ => rfl)
        fun _ => rfl
  | queryDocuments indexId query page =>
      exact .read (fun tables => .page ((Store.ofTables tables).queryDocuments indexId query page))
        (fun _ => rfl) fun _ => rfl
  | verifyIndex id =>
      exact .read (fun tables => .done ((Store.ofTables tables).verifyIndex id)) (fun _ => rfl)
        fun _ => rfl
  | transact now actions commits =>
      cases commits with
      | false =>
          exact .read (fun tables =>
            .transacted ((Transaction.begin tables).actAll actions).1 none) (fun _ => rfl)
              fun _ => rfl
      | true => exact .transact now actions

theorem run_transact (now : Int64) (actions : List Action) (store : Store) :
    (transact now actions true).run store =
      store.commit now ((Transaction.begin store.tables).actAll actions).2 >>= fun outcome =>
        pure (.transacted ((Transaction.begin store.tables).actAll actions).1 (some outcome.1),
          outcome.2) := rfl

theorem run_transact_ofTables (now : Int64) (actions : List Action) (tables : Tables) :
    (transact now actions true).run (.ofTables tables) =
      pure (.transacted ((Transaction.begin tables).actAll actions).1
          (some (.ok ((Transaction.begin tables).actAll actions).2.committedSeq)),
        .ofTables ((Transaction.begin tables).actAll actions).2.apply) := by
  have begun : ((Transaction.begin tables).actAll actions).2.tables = tables :=
    Transaction.tables_actAll (.begin tables) actions
  have same : (Store.ofTables tables).tables = tables := rfl
  rw [run_transact, same, Store.commit_ofTables begun]
  rfl

private theorem exists_run_ofTables (request : StoreRequest) (tables : Tables) :
    ∃ answer next, request.run (.ofTables tables) = pure (answer, .ofTables next) := by
  cases request.shape with
  | read answer run _ => exact ⟨_, _, run _⟩
  | write stages answer run _ =>
      rw [run, Store.write_ofTables stages]
      exact ⟨_, _, rfl⟩
  | transact now actions => exact ⟨_, _, run_transact_ofTables now actions tables⟩

theorem inMemory_of_run {request : StoreRequest} {tables next : Tables} {answer : Answer}
    (run : request.run (.ofTables tables) = pure (answer, .ofTables next)) :
    request.inMemory tables = (answer, next) := by
  simp only [inMemory, run]
  rfl

theorem inMemory_of_write {request : StoreRequest} {α : Type} {now : Int64}
    {stage : Transaction → Except StoreError (α × Transaction)}
    {answer : Except StoreError α → Answer} (stages : Transaction.Stages stage)
    (run : ∀ store, request.run store =
      store.write now stage >>= fun outcome => pure (answer outcome.1, outcome.2))
    (tables : Tables) :
    request.inMemory tables =
      (answer (Store.writeInMemory tables stage).1, (Store.writeInMemory tables stage).2) :=
  inMemory_of_run ((run (.ofTables tables)).trans (by rw [Store.write_ofTables stages]; rfl))

/-- A store in memory performs no effects, so that its answers depend on its tables alone. -/
theorem run_ofTables (request : StoreRequest) (tables : Tables) :
    request.run (.ofTables tables) =
      pure ((request.inMemory tables).1, .ofTables (request.inMemory tables).2) := by
  obtain ⟨answer, next, run⟩ := request.exists_run_ofTables tables
  rw [run, inMemory_of_run run]

end StoreRequest

variable {files : Directory} {store : Store} {history records : List Record}
  {count : Nat}

/-- A write to a store with a log leads to what it leads to in memory. -/
theorem keeps_write {α : Type} (serves : Serves files store history count records)
    {stage : Transaction → Except StoreError (α × Transaction)} (stages : Transaction.Stages stage)
    {now : Int64}
    (legible : ∀ record ∈ StoreRequest.stagedRecord? store.tables now stage, record.Legible)
    (room : history.length +
      (StoreRequest.stagedRecord? store.tables now stage).toList.length < 2 ^ 64)
    {during : Directory → Prop} {post : Directory → Store.Outcome α → Prop}
    (before : ∀ left, Rests left history count records → during left)
    (after : ∀ left,
      Rests left (history ++ (StoreRequest.stagedRecord? store.tables now stage).toList) count
        (records ++ (StoreRequest.stagedRecord? store.tables now stage).toList) → during left)
    (result : ∀ left next,
      Serves left next (history ++ (StoreRequest.stagedRecord? store.tables now stage).toList) count
        (records ++ (StoreRequest.stagedRecord? store.tables now stage).toList) →
          next.tables = (Store.writeInMemory store.tables stage).2 →
            left.snapshots = files.snapshots →
              post left ((Store.writeInMemory store.tables stage).1, next)) :
    (store.write now stage).Keeps during post files := by
  unfold StoreRequest.stagedRecord? at legible room after result
  unfold Store.writeInMemory at result
  unfold Store.write
  cases staged : stage (.begin store.tables) with
  | error error =>
      simp only [staged, Option.toList_none, List.append_nil] at result ⊢
      exact Plan.keeps_pure (before files serves.rests) (result files store serves rfl rfl)
  | ok found =>
      obtain ⟨value, transaction⟩ := found
      simp only [staged] at legible room after result ⊢
      have begun : transaction.tables = store.tables := stages _ _ _ staged
      refine Plan.Keeps.bind (keeps_commit_any serves begun legible room before after ?_)
      intro left next serves tables same
      exact Plan.keeps_pure (after left serves.rests) (result left next serves tables same)

/-- A request to a store with a log is answered as in memory, with the same tables then. -/
theorem keeps_request (serves : Serves files store history count records) (request : StoreRequest)
    (legible : ∀ record ∈ request.record? store.tables, record.Legible)
    (room : history.length + (request.record? store.tables).toList.length < 2 ^ 64)
    {during : Directory → Prop} {post : Directory → Answer × Store → Prop}
    (before : ∀ left, Rests left history count records → during left)
    (after : ∀ left, Rests left (history ++ (request.record? store.tables).toList) count
      (records ++ (request.record? store.tables).toList) → during left)
    (result : ∀ left next answer, Serves left next
      (history ++ (request.record? store.tables).toList) count
        (records ++ (request.record? store.tables).toList) →
        request.inMemory store.tables = (answer, next.tables) →
          left.snapshots = files.snapshots → post left (answer, next)) :
    (request.run store).Keeps during post files := by
  cases request.shape with
  | read answer run record =>
      rw [record, Option.toList_none, List.append_nil, List.append_nil] at result
      rw [run]
      refine Plan.keeps_pure (before files serves.rests) (result files store _ serves ?_ rfl)
      exact StoreRequest.inMemory_of_run (run (.ofTables store.tables))
  | write stages answer run record =>
      have inMemory := StoreRequest.inMemory_of_write stages run store.tables
      rw [record] at legible room after result
      rw [run]
      refine Plan.Keeps.bind (keeps_write serves stages legible room before after ?_)
      intro left next serves tables same
      refine Plan.keeps_pure (after left serves.rests) (result left next _ serves ?_ same)
      rw [inMemory, tables]
  | transact now actions =>
      have begun : ((Transaction.begin store.tables).actAll actions).2.tables = store.tables :=
        Transaction.tables_actAll (.begin store.tables) actions
      have inMemory := StoreRequest.inMemory_of_run
        (StoreRequest.run_transact_ofTables now actions store.tables)
      rw [StoreRequest.run_transact]
      refine Plan.Keeps.bind (keeps_commit_any serves begun legible room before after ?_)
      intro left next serves tables same
      refine Plan.keeps_pure (after left serves.rests) (result left next _ serves ?_ same)
      rw [inMemory, tables]

end DocStore
