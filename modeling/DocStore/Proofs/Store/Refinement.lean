import DocStore.Proofs.Store.Catalog
import DocStore.Proofs.Store.Session
import Mathlib.Data.List.Infix

namespace DocStore

namespace StoreRequest

/-- Two answers to a request that differ in counts at most.  An index whose counts have run out of
63 bits may be found inconsistent. -/
def Alike : StoreRequest → Answer → Answer → Prop
  | .getIndex _, .index (.ok one), .index (.ok other) => one.id = other.id
  | .listIndexes _, .indexes found, .indexes others => found.map Index.id = others.map Index.id
  | .verifyIndex _, .done (.error (.inconsistent _)), .done (.ok ()) => True
  | _, one, other => one = other

variable {tables : Tables} {catalog : Catalog}

private theorem of_leads (request : StoreRequest) {α : Type} {now : Int64}
    {stage : Transaction → Except StoreError (α × Transaction)}
    {result : Except StoreError α × Catalog} (answer : Except StoreError α → Answer)
    (stages : Transaction.Stages stage)
    (run : ∀ store, request.run store =
      store.write now stage >>= fun outcome => pure (answer outcome.1, outcome.2))
    (leads : Catalog.Leads (Store.writeInMemory tables stage) result) :
    (request.inMemory tables).1 = answer result.1 ∧
      (request.inMemory tables).2.Shows result.2 := by
  rw [inMemory_of_write stages run]
  exact ⟨congrArg answer leads.1, leads.2⟩

private theorem getIndex_inMemory (tables : Tables) (id : String) :
    ((getIndex id).inMemory tables).1 =
      .index (match tables.indexes.get? id with
        | some index => .ok index
        | none => .error (.indexNotFound id)) := rfl

private theorem verifyIndex_inMemory (tables : Tables) (id : String) :
    ((verifyIndex id).inMemory tables).1 =
      .done (match tables.indexes.get? id with
        | none => .error (.indexNotFound id)
        | some index =>
            match index.check (tables.indexDocuments id) with
            | .ok () => .ok ()
            | .error drift => .error (.inconsistent drift)) := by
  change Answer.done ((Store.ofTables tables).verifyIndex id) = _
  have same : (Store.ofTables tables).tables = tables := rfl
  rw [Store.verifyIndex, same, Tables.indexWithDocuments?]
  cases tables.indexes.get? id <;> rfl

/-- A request is answered as the catalog answers it and shows the catalog then. -/
theorem performs (shows : tables.Shows catalog) {request : StoreRequest}
    (operation : request.IsOperation) :
    (request.inMemory tables).2.Shows (catalog.perform request).2 ∧
      request.Alike (request.inMemory tables).1 (catalog.perform request).1 ∧
      (tables.Accounted → (request.inMemory tables).1 = (catalog.perform request).1) := by
  cases request with
  | createIndex now id =>
      obtain ⟨answer, shows⟩ := of_leads (.createIndex now id) .index
        (Transaction.stages_createIndex id) (fun _ => rfl) (shows.leads_createIndex id)
      exact ⟨shows, answer, fun _ => answer⟩
  | deleteIndex now id =>
      obtain ⟨answer, shows⟩ := of_leads (.deleteIndex now id) .done
        (Transaction.stages_dropIndex id) (fun _ => rfl) (shows.leads_dropIndex id)
      exact ⟨shows, answer, fun _ => answer⟩
  | upsertDocument now indexId id source onlyNew =>
      obtain ⟨answer, shows⟩ := of_leads
        (.upsertDocument now indexId id source onlyNew) .upserted
        (Transaction.stages_upsert indexId id source onlyNew) (fun _ => rfl)
        (shows.leads_upsert indexId id source onlyNew)
      exact ⟨shows, answer, fun _ => answer⟩
  | createDocument now indexId newId source =>
      obtain ⟨answer, shows⟩ := of_leads (.createDocument now indexId newId source)
        (fun outcome => .document (outcome.map Prod.snd))
        (Transaction.stages_upsert indexId newId source true)
        (run_createDocument now indexId newId source)
        (shows.leads_upsert indexId newId source true)
      exact ⟨shows, answer, fun _ => answer⟩
  | deleteDocument now indexId id =>
      obtain ⟨answer, shows⟩ := of_leads (.deleteDocument now indexId id) .done
        (Transaction.stages_removeDocument indexId id) (fun _ => rfl)
        (shows.leads_removeDocument indexId id)
      exact ⟨shows, answer, fun _ => answer⟩
  | getIndex id =>
      have there : (tables.indexes.get? id).isSome = catalog.contains id := shows.indexes id
      refine ⟨shows, ?_, fun accounted => ?_⟩
      · rw [getIndex_inMemory, Catalog.perform, Catalog.getIndex, ← there]
        cases found : tables.indexes.get? id with
        | none => rfl
        | some index => exact shows.keyed.index id index found
      · rw [getIndex_inMemory, Catalog.perform, Catalog.getIndex, ← there]
        cases found : tables.indexes.get? id with
        | none => rfl
        | some index =>
            exact congrArg (fun index => Answer.index (.ok index)) (shows.index_eq accounted found)
  | getDocument indexId id =>
      have answer := congrArg Answer.document (shows.getDocument indexId id)
      exact ⟨shows, answer, fun _ => answer⟩
  | listIndexes contained =>
      refine ⟨shows, ?_, fun accounted => ?_⟩
      · refine (shows.listIndexes_ids contained).trans ?_
        rw [List.map_map]
        exact (List.map_id _).symm
      · exact congrArg Answer.indexes (shows.listIndexes accounted contained)
  | queryDocuments indexId text page =>
      have answer := congrArg Answer.page (shows.queryDocuments indexId text page)
      exact ⟨shows, answer, fun _ => answer⟩
  | verifyIndex id =>
      have there : (tables.indexes.get? id).isSome = catalog.contains id := shows.indexes id
      refine ⟨shows, ?_, fun accounted => ?_⟩
      · rw [verifyIndex_inMemory, Catalog.perform, Catalog.verify, ← there]
        cases tables.indexes.get? id with
        | none => rfl
        | some index =>
            simp only
            cases index.check (tables.indexDocuments id) with
            | ok _ => rfl
            | error drift => trivial
      · rw [verifyIndex_inMemory, Catalog.perform, Catalog.verify, ← there]
        cases found : tables.indexes.get? id with
        | none => rfl
        | some index => simp only [accounted.check found]; rfl
  | transact now actions commits => exact operation.elim

/-- The index that an operation writes to. -/
def writtenIndex? : StoreRequest → Option String
  | .createIndex _ id | .deleteIndex _ id => some id
  | .upsertDocument _ indexId _ _ _ | .createDocument _ indexId _ _
  | .deleteDocument _ indexId _ => some indexId
  | _ => none

private theorem mutations_countPut (keyed : tables.Keyed) (document : Document) :
    ∀ mutation ∈ ((Transaction.begin tables).countPut document).mutations,
      mutation.indexId = document.indexId := by
  rw [Transaction.countPut]
  split
  case isFalse =>
    intro mutation member
    cases member
  case isTrue =>
    intro mutation member
    obtain rfl := List.mem_singleton.mp member
    change (((Transaction.begin tables).getIndex? document.indexId).getD
      (.new document.indexId)).id = document.indexId
    cases found : (Transaction.begin tables).getIndex? document.indexId with
    | none => rfl
    | some index => exact keyed.index _ index found

private theorem mutations_upsert (keyed : tables.Keyed) {indexId id : String} {source : Json}
    {onlyNew : Bool} {result : Bool × Document} {staged : Transaction}
    (done : Transaction.upsert indexId id source onlyNew (.begin tables) = .ok (result, staged)) :
    ∀ mutation ∈ staged.mutations, mutation.indexId = indexId := by
  obtain ⟨rfl, -⟩ := Transaction.upsert_ok done
  intro mutation member
  rcases List.mem_append.mp member with counted | put
  · exact mutations_countPut keyed _ mutation counted
  · obtain rfl := List.mem_singleton.mp put
    rfl

private theorem mutations_removeDocument (keyed : tables.Keyed) {indexId id : String}
    {staged : Transaction}
    (done : Transaction.removeDocument indexId id (.begin tables) = .ok ((), staged)) :
    ∀ mutation ∈ staged.mutations, mutation.indexId = indexId := by
  obtain ⟨document, -, rfl⟩ := Transaction.removeDocument_ok done
  intro mutation member
  rcases List.mem_append.mp member with counted | deleted
  · unfold Transaction.countDelete at counted
    cases found : (Transaction.begin tables).getIndex? indexId with
    | none =>
        rw [found] at counted
        cases counted
    | some index =>
        rw [found] at counted
        obtain rfl := List.mem_singleton.mp counted
        exact keyed.index indexId index found
  · obtain rfl := List.mem_singleton.mp deleted
    rfl

private theorem agreeOn_write (keyed : tables.Keyed) {request : StoreRequest} {α : Type}
    {now : Int64} {stage : Transaction → Except StoreError (α × Transaction)} {id written : String}
    (stages : Transaction.Stages stage) (answer : Except StoreError α → Answer)
    (run : ∀ store, request.run store =
      store.write now stage >>= fun outcome => pure (answer outcome.1, outcome.2))
    (different : some written ≠ some id)
    (within : ∀ result staged, stage (.begin tables) = .ok (result, staged) →
      ∀ mutation ∈ staged.mutations, mutation.indexId = written) :
    Tables.AgreeOn id (request.inMemory tables).2 tables := by
  rw [inMemory_of_write stages run, Store.writeInMemory]
  cases done : stage (.begin tables) with
  | error error => exact .refl id tables
  | ok found =>
      have begun : found.2.tables = tables := stages _ _ _ done
      have folded : Tables.AgreeOn id (found.2.mutations.foldl Tables.apply tables) tables :=
        .foldl_apply keyed fun mutation member same =>
          different (congrArg some ((within _ _ done mutation member).symm.trans same))
      change Tables.AgreeOn id found.2.apply tables
      rw [found.2.apply_eq_foldl, begun]
      exact ⟨folded.index, folded.documents⟩

/-- An operation leaves all other indexes, their counts and their documents as they are. -/
theorem agreeOn (keyed : tables.Keyed) {request : StoreRequest} (operation : request.IsOperation)
    {id : String} (different : request.writtenIndex? ≠ some id) :
    Tables.AgreeOn id (request.inMemory tables).2 tables := by
  cases request with
  | createIndex now written =>
      refine agreeOn_write keyed (Transaction.stages_createIndex written) .index (fun _ => rfl)
        different fun result staged done mutation member => ?_
      obtain ⟨-, -, rfl⟩ := Transaction.createIndex_ok done
      obtain rfl := List.mem_singleton.mp member
      rfl
  | deleteIndex now written =>
      refine agreeOn_write keyed (Transaction.stages_dropIndex written) .done (fun _ => rfl)
        different fun result staged done mutation member => ?_
      obtain ⟨-, rfl⟩ := Transaction.dropIndex_ok done
      obtain rfl := List.mem_singleton.mp member
      rfl
  | upsertDocument now indexId document source onlyNew =>
      exact agreeOn_write keyed (Transaction.stages_upsert indexId document source onlyNew)
        .upserted (fun _ => rfl) different fun result staged done => mutations_upsert keyed done
  | createDocument now indexId newId source =>
      exact agreeOn_write keyed (Transaction.stages_upsert indexId newId source true)
        (fun outcome => .document (outcome.map Prod.snd))
        (run_createDocument now indexId newId source) different
        fun result staged done => mutations_upsert keyed done
  | deleteDocument now indexId document =>
      exact agreeOn_write keyed (Transaction.stages_removeDocument indexId document) .done
        (fun _ => rfl) different fun result staged done => mutations_removeDocument keyed done
  | getIndex _ => exact .refl id tables
  | getDocument _ _ => exact .refl id tables
  | listIndexes _ => exact .refl id tables
  | queryDocuments _ _ _ => exact .refl id tables
  | verifyIndex _ => exact .refl id tables
  | transact now actions commits => exact operation.elim

/-- What an operation that succeeds does to the source of a document: it stands then, or there is
none any more. -/
def sourceWritten? (indexId id : String) : StoreRequest × Answer → Option (Option Json)
  | (.upsertDocument _ index document source _, .upserted (.ok _))
  | (.createDocument _ index document source, .document (.ok _)) =>
      if indexId = index ∧ id = document then some (some source) else none
  | (.deleteDocument _ index document, .done (.ok ())) =>
      if indexId = index ∧ id = document then some none else none
  | (.deleteIndex _ index, .done (.ok ())) => if indexId = index then some none else none
  | _ => none

/-- The source of the last write to a document that succeeded and was not undone since. -/
def lastSource? (indexId id : String) (history : List (StoreRequest × Answer)) : Option Json :=
  (history.reverse.findSome? (sourceWritten? indexId id)).getD none

private theorem source?_createIndex (catalog : Catalog) (created indexId id : String) :
    (catalog.createIndex created).2.source? indexId id = catalog.source? indexId id := by
  unfold Catalog.createIndex
  split
  · rfl
  · split
    · rfl
    · rename_i absent
      refine (Catalog.source?_insert catalog created indexId id ∅).trans ?_
      by_cases same : indexId = created
      · subst same
        have missing : catalog.get? indexId = none := by simpa [SortedMap.contains] using absent
        simp [Catalog.source?, missing]
      · exact if_neg same

private theorem source?_upsert (catalog : Catalog) (written document : String) (source : Json)
    (onlyNew : Bool) (indexId id : String) :
    (catalog.upsert written document source onlyNew).2.source? indexId id =
      (match (catalog.upsert written document source onlyNew).1 with
        | .ok _ => if indexId = written ∧ id = document then some (some source) else none
        | .error _ => none).getD (catalog.source? indexId id) := by
  have put : (catalog.put written document source).source? indexId id =
      (if indexId = written ∧ id = document then some (some source) else none).getD
        (catalog.source? indexId id) := by
    rw [Catalog.source?_put]
    split <;> rfl
  unfold Catalog.upsert
  split
  · rfl
  · split
    · rfl
    · split
      · rfl
      · exact put
      · split
        · rfl
        · exact put

/-- After an operation the source of a document is what it wrote there, or what it was. -/
theorem source?_perform (shows : tables.Shows catalog) {request : StoreRequest}
    (operation : request.IsOperation) (indexId id : String) :
    (catalog.perform request).2.source? indexId id =
      (sourceWritten? indexId id (request, (request.inMemory tables).1)).getD
        (catalog.source? indexId id) := by
  obtain ⟨-, alike, -⟩ := performs shows operation
  cases request with
  | createIndex now created => exact source?_createIndex catalog created indexId id
  | deleteIndex now deleted =>
      have answer : ((deleteIndex now deleted).inMemory tables).1 = _ := alike
      rw [answer]
      simp only [Catalog.perform, Catalog.deleteIndex]
      split
      · refine (Catalog.source?_erase catalog deleted indexId id).trans ?_
        simp only [sourceWritten?]
        split <;> rfl
      · rfl
  | upsertDocument now written document source onlyNew =>
      have answer : ((upsertDocument now written document source onlyNew).inMemory tables).1 =
        .upserted (catalog.upsert written document source onlyNew).1 := alike
      rw [answer]
      refine (source?_upsert catalog written document source onlyNew indexId id).trans ?_
      cases (catalog.upsert written document source onlyNew).1 <;> rfl
  | createDocument now written newId source =>
      have answer : ((createDocument now written newId source).inMemory tables).1 =
        .document ((catalog.upsert written newId source true).1.map Prod.snd) := alike
      rw [answer]
      refine (source?_upsert catalog written newId source true indexId id).trans ?_
      cases (catalog.upsert written newId source true).1 <;> rfl
  | deleteDocument now written document =>
      have answer : ((deleteDocument now written document).inMemory tables).1 =
        .done (catalog.deleteDocument written document).1 := alike
      rw [answer]
      simp only [Catalog.perform, Catalog.deleteDocument]
      cases catalog.source? written document with
      | none => rfl
      | some _ =>
          refine (Catalog.source?_remove catalog written document indexId id).trans ?_
          simp only [sourceWritten?]
          split <;> rfl
  | getIndex _ => rfl
  | getDocument _ _ => rfl
  | listIndexes _ => rfl
  | queryDocuments _ _ _ => rfl
  | verifyIndex _ => rfl
  | transact now actions commits => exact operation.elim

variable {script : List StoreRequest}

/-- The requests of a script with their answers. -/
def history (tables : Tables) (script : List StoreRequest) : List (StoreRequest × Answer) :=
  script.zip (allInMemory tables script).1

theorem performs_all (shows : tables.Shows catalog)
    (operations : ∀ request ∈ script, request.IsOperation) :
    (allInMemory tables script).2.Shows (catalog.performAll script).2 ∧
      List.Forall₂ (fun asked answer => asked.1.Alike asked.2 answer) (history tables script)
        (catalog.performAll script).1 ∧
      ∀ indexId id, (catalog.performAll script).2.source? indexId id =
        ((history tables script).reverse.findSome? (sourceWritten? indexId id)).getD
          (catalog.source? indexId id) := by
  induction script generalizing tables catalog with
  | nil => exact ⟨shows, .nil, fun _ _ => rfl⟩
  | cons request rest ih =>
      have operation := operations request List.mem_cons_self
      obtain ⟨shows', alike, -⟩ := performs shows operation
      obtain ⟨last, answers, sources⟩ := ih shows' fun other member =>
        operations other (List.mem_cons_of_mem _ member)
      refine ⟨last, .cons alike answers, fun indexId id => ?_⟩
      refine (sources indexId id).trans ?_
      rw [source?_perform shows operation]
      have begun : history tables (request :: rest) =
          (request, (request.inMemory tables).1) :: history (request.inMemory tables).2 rest := rfl
      rw [begun, List.reverse_cons, List.findSome?_append]
      cases (history (request.inMemory tables).2 rest).reverse.findSome?
        (sourceWritten? indexId id) <;> simp

/-- As long as there are fewer than 2^63 documents, counts are answered as well. -/
theorem answers_eq (shows : tables.Shows catalog) (accounted : tables.Accounted)
    (operations : ∀ request ∈ script, request.IsOperation)
    (few : ∀ begun, begun <+: script → (allInMemory tables begun).2.documents.size < 2 ^ 63) :
    (allInMemory tables script).1 = (catalog.performAll script).1 := by
  induction script generalizing tables catalog with
  | nil => rfl
  | cons request rest ih =>
      have operation := operations request List.mem_cons_self
      obtain ⟨shows', -, exactly⟩ := performs shows operation
      have next := StoreRequest.accounted accounted operation
        (few [request] (List.prefix_append [request] rest))
      have later := ih shows' next
        (fun other member => operations other (List.mem_cons_of_mem _ member))
        fun begun within => few (request :: begun) ((List.prefix_cons_inj request).mpr within)
      exact congrArg₂ List.cons (exactly accounted) later

end StoreRequest

open StoreRequest (allInMemory history lastSource?)

/-- A store that begins empty answers every script of operations as a plain nested map of sources
does, but for counts that run out of 63 bits, and shows that map then.  A document that is asked for
has the source of the last write to it that was not undone, and an operation leaves the indexes that
it does not write to as they are. -/
theorem store_refines_catalog {script : List StoreRequest}
    (operations : ∀ request ∈ script, request.IsOperation) :
    (allInMemory .empty script).2.Shows (Catalog.performAll ∅ script).2 ∧
      List.Forall₂ (fun asked answer => asked.1.Alike asked.2 answer) (history .empty script)
        (Catalog.performAll ∅ script).1 ∧
      ((∀ begun, begun <+: script → (allInMemory .empty begun).2.documents.size < 2 ^ 63) →
        (allInMemory .empty script).1 = (Catalog.performAll ∅ script).1) ∧
      (∀ indexId id, (Store.ofTables (allInMemory .empty script).2).getDocument indexId id =
        match lastSource? indexId id (history .empty script) with
        | some source => .ok (.ofSource indexId id source)
        | none => .error (.documentNotFound indexId id)) ∧
      ∀ (request : StoreRequest) (id : String), request.IsOperation →
        request.writtenIndex? ≠ some id →
          Tables.AgreeOn id (request.inMemory (allInMemory .empty script).2).2
            (allInMemory .empty script).2 := by
  obtain ⟨shows, alike, sources⟩ := StoreRequest.performs_all .empty operations
  refine ⟨shows, alike, StoreRequest.answers_eq .empty .empty operations, fun indexId id => ?_,
    fun request id operation different => StoreRequest.agreeOn shows.keyed operation different⟩
  have last : (Catalog.performAll ∅ script).2.source? indexId id =
      lastSource? indexId id (history .empty script) := sources indexId id
  rw [shows.getDocument, Catalog.getDocument, last]
  cases lastSource? indexId id (history .empty script) <;> rfl

/-- An index is dropped and filled again, beside one whose id begins alike. -/
def refilled : List StoreRequest :=
  [putBook, .upsertDocument 2 "books/old" "dune" (.object [("year", .number (.natural 1965))]) true,
    .deleteIndex 3 "books", .createDocument 4 "books" "emma" (.object [("title", .string "Emma")])]

theorem refilled_refines_catalog :
    (∀ request ∈ refilled, request.IsOperation) ∧
      (allInMemory .empty refilled).2.Shows (Catalog.performAll ∅ refilled).2 ∧
      (allInMemory .empty refilled).1 = (Catalog.performAll ∅ refilled).1 ∧
      lastSource? "books" "dune" (history .empty refilled) = none ∧
      (Store.ofTables (allInMemory .empty refilled).2).getDocument "books/old" "dune" =
        .ok (.ofSource "books/old" "dune" (.object [("year", .number (.natural 1965))])) := by
  have operations : ∀ request ∈ refilled, request.IsOperation := by
    simp [refilled, putBook, StoreRequest.IsOperation]
  have few : ∀ begun ∈ refilled.inits, (allInMemory .empty begun).2.documents.size < 2 ^ 63 := by
    decide +kernel
  have kept : lastSource? "books/old" "dune" (history .empty refilled) =
      some (.object [("year", .number (.natural 1965))]) := by
    decide +kernel
  obtain ⟨shows, -, answers, documents, -⟩ := store_refines_catalog operations
  refine ⟨operations, shows, answers fun begun within => ?_, by decide +kernel, ?_⟩
  · exact few begun ((List.mem_inits _ _).mpr within)
  · rw [documents, kept]

end DocStore
