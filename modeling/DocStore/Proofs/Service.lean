import DocStore.Service

namespace DocStore

namespace Text

theorem splitOn_of_notMem {separator : Char} {text : List Char} (absent : separator ∉ text) :
    splitOn separator text = [text] := by
  induction text with
  | nil => rfl
  | cons c rest ih =>
      simp only [List.mem_cons, not_or] at absent
      simp [splitOn, Ne.symm absent.1, ih absent.2]

theorem splitOn_append {separator : Char} {first : List Char} (absent : separator ∉ first)
    (rest : List Char) :
    splitOn separator (first ++ separator :: rest) = first :: splitOn separator rest := by
  induction first with
  | nil => simp [splitOn]
  | cons c first ih =>
      simp only [List.mem_cons, not_or] at absent
      simp [splitOn, Ne.symm absent.1, ih absent.2]

theorem splitOn_ne_nil (separator : Char) (text : List Char) : splitOn separator text ≠ [] := by
  cases text with
  | nil => simp [splitOn]
  | cons c rest =>
      rw [splitOn]
      split
      · simp
      · split <;> simp

theorem of_splitOn_eq_cons {separator : Char} {text first : List Char} {more : List (List Char)}
    (split : splitOn separator text = first :: more) :
    text = first ∨ ∃ later, text = first ++ separator :: later := by
  induction text generalizing first more with
  | nil =>
      obtain ⟨rfl, -⟩ := List.cons.inj split
      exact .inl rfl
  | cons c rest ih =>
      rw [splitOn] at split
      split at split
      next same =>
        obtain ⟨rfl, -⟩ := List.cons.inj split
        exact .inr ⟨rest, by rw [same]; rfl⟩
      next =>
        split at split
        next found => exact absurd found (splitOn_ne_nil separator rest)
        next found =>
          obtain ⟨rfl, -⟩ := List.cons.inj split
          rcases ih found with whole | ⟨later, whole⟩
          · exact .inl (congrArg (c :: ·) whole)
          · exact .inr ⟨later, congrArg (c :: ·) whole⟩

end Text

namespace Access

/-- The bearer of a token puts it behind the word for it. -/
theorem header_of_bearerToken? {header token : String} (borne : bearerToken? header = some token) :
    header = "Bearer " ++ token := by
  unfold bearerToken? at borne
  split at borne
  next good =>
    simp only [Bool.and_eq_true, List.isPrefixOf_iff_prefix] at good
    obtain ⟨rest, whole⟩ := good.2
    obtain rfl := Option.some.inj borne
    apply String.toList_inj.mp
    rw [← whole, List.drop_left, String.toList_append, String.toList_ofList]
    simp [scheme]
  next => simp at borne

/-- Without a good token nobody is let in where tokens are asked for, and the reason is the same
whatever else the settings are. -/
theorem exists_refusal {secret : String} {header : Option String} {now : Int64}
    (stranger : ¬ ∃ token claims, header = some ("Bearer " ++ token) ∧
      verify secret token now = .ok claims) :
    ∃ reason, ∀ settings : Settings, settings.secret = some secret →
      authorize settings header now = .error reason := by
  cases borne : header.bind bearerToken? with
  | none => exact ⟨.noToken, fun settings asked => by simp only [authorize, asked, borne]⟩
  | some token =>
      obtain ⟨text, rfl, bears⟩ := Option.bind_eq_some_iff.mp borne
      cases verdict : verify secret token now with
      | error fault =>
          exact ⟨.badToken fault, fun settings asked => by
            simp only [authorize, asked, borne, verdict]⟩
      | ok claims =>
          have shown := congrArg some (header_of_bearerToken? bears)
          exact absurd ⟨token, claims, shown, verdict⟩ stranger

end Access

namespace Http

/-- Resources that are there for everybody. -/
def Resource.IsOpen (resource : Resource) : Prop :=
  resource = .health ∨ resource = .metrics ∨ resource = .tokens

/-- The part of the server that a resource belongs to. -/
def Resource.top : Resource → String
  | .health => "health"
  | .metrics => "metrics"
  | .tokens => "auth"
  | .indexes | .index _ | .documents _ | .document _ _ => "indexes"
  | .snapshots | .manifest | .logTrimming | .verification _ | .explanation => "admin"

theorem Resource.slashless_top (resource : Resource) : '/' ∉ resource.top.toList := by
  cases resource <;> simp [top]

theorem Resource.top_of_ofParts {first : String} {rest : List String} {resource : Resource}
    (found : ofParts (first :: rest) = some resource) : resource.top = first := by
  unfold ofParts at found
  split at found
  all_goals grind [top]

/-- The address of a request is that of a part of the server, or of something in it. -/
def Request.IsUnder (request : Request) (top : String) : Prop :=
  (Target.ofText request.target).path = '/' :: top.toList ∨
    ∃ rest, (Target.ofText request.target).path = '/' :: (top.toList ++ '/' :: rest)

section

variable {request : Request} {resource : Resource} {top : String}

theorem Request.isUnder_iff (slashless : '/' ∉ top.toList) :
    request.IsUnder top ↔ ∃ rest more, (Target.ofText request.target).path = '/' :: rest ∧
      Text.splitOn '/' rest = top.toList :: more := by
  constructor
  · rintro (whole | ⟨rest, whole⟩)
    · exact ⟨_, _, whole, Text.splitOn_of_notMem slashless⟩
    · exact ⟨_, _, whole, Text.splitOn_append slashless rest⟩
  · rintro ⟨rest, more, whole, split⟩
    rcases Text.of_splitOn_eq_cons split with same | ⟨later, same⟩
    · exact .inl (same ▸ whole)
    · exact .inr ⟨later, same ▸ whole⟩

/-- A path leads into one part of the server. -/
theorem Request.IsUnder.unique {other : String} (under : request.IsUnder top)
    (also : request.IsUnder other) (slashless : '/' ∉ top.toList)
    (slashless' : '/' ∉ other.toList) : top = other := by
  obtain ⟨rest, more, whole, split⟩ := (isUnder_iff slashless).mp under
  obtain ⟨rest', more', whole', split'⟩ := (isUnder_iff slashless').mp also
  obtain ⟨-, rfl⟩ := List.cons.inj (whole.symm.trans whole')
  exact String.toList_inj.mp (List.cons.inj (split.symm.trans split')).1

theorem Resource.isUnder_top (found : ofPath (Target.ofText request.target).path = some resource) :
    request.IsUnder resource.top := by
  rw [Request.isUnder_iff resource.slashless_top]
  unfold ofPath at found
  split at found
  next rest whole =>
    rw [whole]
    cases split : Text.splitOn '/' rest with
    | nil => exact absurd split (Text.splitOn_ne_nil '/' rest)
    | cons first more =>
        rw [split, List.map_cons] at found
        exact ⟨rest, more, rfl, by rw [split, top_of_ofParts found, String.toList_ofList]⟩
  next => simp at found

theorem Resource.isUnder_iff (slashless : '/' ∉ top.toList)
    (found : ofPath (Target.ofText request.target).path = some resource) :
    request.IsUnder top ↔ resource.top = top := by
  constructor
  · intro under
    exact (isUnder_top found).unique under resource.slashless_top slashless
  · rintro rfl
    exact isUnder_top found

end

/-- A request carries a token that is good at a time. -/
def Request.Bears (request : Request) (secret : String) (now : Int64) : Prop :=
  ∃ token claims, request.authorization = some ("Bearer " ++ token) ∧
    Access.verify secret token now = .ok claims

def Status.Succeeds (status : Status) : Prop := status.code = 200 ∨ status.code = 201

instance (status : Status) : Decidable status.Succeeds :=
  inferInstanceAs (Decidable (status.code = 200 ∨ status.code = 201))

/-- What is read is of a kind, or it ends with a status that tells of no success. -/
inductive Yields {α : Type} (kind : α → Prop) : Except Status α → Prop where
  | ok {value : α} (suits : kind value) : Yields kind (.ok value)
  | error {status : Status} (failed : ¬ status.Succeeds) : Yields kind (.error status)

section

variable {α : Type} {kind : α → Prop}

@[simp] theorem yields_ok {value : α} : Yields kind (.ok value) ↔ kind value :=
  ⟨fun | .ok suits => suits, .ok⟩

theorem Yields.mono {weaker : α → Prop} {argument : Except Status α} (yields : Yields kind argument)
    (weaken : ∀ value, kind value → weaker value) : Yields weaker argument := by
  cases yields with
  | ok suits => exact .ok (weaken _ suits)
  | error failed => exact .error failed

theorem Yields.map {β : Type} {argument : Except Status α} {make : α → β} {kind : β → Prop}
    (yields : Yields (fun value => kind (make value)) argument) :
    Yields kind (argument.map make) := by
  cases yields with
  | ok suits => exact .ok suits
  | error failed => exact .error failed

theorem Yields.bind {β : Type} {argument : Except Status α} {next : α → Except Status β}
    {kind : β → Prop} (yields : Yields (fun value => Yields kind (next value)) argument) :
    Yields kind (argument >>= next) := by
  cases yields with
  | ok suits => exact suits
  | error failed => exact .error failed

end

namespace Call

section

variable (request : Request) {kind : Json → Prop}

theorem yields_readId (part : String) {kind : String → Prop} (suits : ∀ id, kind id) :
    Yields kind (readId part) := by
  unfold readId
  split
  · exact .ok (suits _)
  · exact .error (by decide)

theorem yields_readText? (name : String) {kind : Option String → Prop}
    (suits : ∀ text, kind text) : Yields kind (readText? request name) := by
  unfold readText?
  split
  · exact .ok (suits _)
  · exact .error (by decide)

theorem yields_readNumber? (name : String) {kind : Option Nat → Prop}
    (suits : ∀ number, kind number) : Yields kind (readNumber? request name) := by
  unfold readNumber?
  split
  · exact .ok (suits _)
  · exact .error (by decide)

theorem yields_checkLength (body : Bytes) {kind : Unit → Prop} (suits : kind ()) :
    Yields kind (checkLength body) := by
  unfold checkLength
  split
  · exact .error (by decide)
  · exact .ok suits

theorem yields_readPage {kind : Page → Prop} (suits : ∀ page, kind page) :
    Yields kind (readPage request) := by
  unfold readPage
  refine .bind (yields_readNumber? request _ fun _ => ?_)
  refine .bind (yields_readNumber? request _ fun _ => ?_)
  exact .ok (suits _)

theorem yields_readSource {kind : Json → Prop} (suits : ∀ source, kind source) :
    Yields kind (readSource request) := by
  unfold readSource
  split
  · exact .error (by decide)
  · refine .bind (yields_checkLength request.body ?_)
    split
    · split
      · exact .ok (suits _)
      · exact .error (by decide)
    · exact .error (by decide)
    · exact .error (by decide)

theorem yields_readCredentials {kind : String × String → Prop}
    (suits : ∀ credentials, kind credentials) : Yields kind (readCredentials request) := by
  unfold readCredentials
  split
  · exact .error (by decide)
  · refine .bind (yields_checkLength request.body ?_)
    simp only
    split
    · exact .ok (suits _)
    · exact .error (by decide)

end

def writes : Call → Bool
  | .createIndex _ | .deleteIndex _ | .createDocument _ _ | .upsertDocument _ _ _
  | .deleteDocument _ _ => true
  | _ => false

/-- A call is one that a method may make of a resource. -/
structure Suits (method : String) (resource : Resource) (call : Call) : Prop where
  guarded : ¬ resource.IsOpen → call.isGuarded = true
  writes : call.writes = true ↔ (method = "POST" ∨ method = "DELETE") ∧ resource.top = "indexes"

variable {request : Request} {method top : String} {resource : Resource} {call : Call}

theorem yields_ofResource (request : Request) (method : String) (resource : Resource) :
    Yields (Suits method resource) (ofResource request method resource) := by
  have refused : ¬ Status.methodNotAllowed.Succeeds := by decide
  cases resource with
  | health | metrics =>
      simp only [ofResource]
      split
      · exact .ok ⟨by simp [Resource.IsOpen], by simp [writes, Resource.top]⟩
      · exact .error refused
  | tokens =>
      simp only [ofResource]
      split
      · exact .map (yields_readCredentials request fun _ =>
          ⟨by simp [Resource.IsOpen], by simp [writes, Resource.top]⟩)
      · exact .error refused
  | indexes =>
      simp only [ofResource]
      split
      · exact .map (yields_readText? request _ fun _ =>
          ⟨fun _ => rfl, by simp [writes, Resource.top]⟩)
      · exact .error refused
  | index indexId =>
      simp only [ofResource]
      split
      · exact .map (yields_readId indexId fun _ =>
          ⟨fun _ => rfl, by simp [writes, Resource.top]⟩)
      · exact .map (yields_readId indexId fun _ =>
          ⟨fun _ => rfl, by simp [writes, Resource.top]⟩)
      · exact .error refused
  | documents indexId =>
      simp only [ofResource]
      split
      · refine .bind (yields_readId indexId fun _ => ?_)
        refine .bind (yields_readText? request _ fun _ => ?_)
        refine .bind (yields_readPage request fun _ => ?_)
        exact .ok ⟨fun _ => rfl, by simp [writes, Resource.top]⟩
      · refine .bind (yields_readId indexId fun _ => ?_)
        refine .bind (yields_readSource request fun _ => ?_)
        exact .ok ⟨fun _ => rfl, by simp [writes, Resource.top]⟩
      · exact .error refused
  | document indexId id =>
      simp only [ofResource]
      split
      · refine .bind (yields_readId indexId fun _ => ?_)
        refine .bind (yields_readId id fun _ => ?_)
        exact .ok ⟨fun _ => rfl, by simp [writes, Resource.top]⟩
      · refine .bind (yields_readId indexId fun _ => ?_)
        refine .bind (yields_readId id fun _ => ?_)
        refine .bind (yields_readSource request fun _ => ?_)
        exact .ok ⟨fun _ => rfl, by simp [writes, Resource.top]⟩
      · refine .bind (yields_readId indexId fun _ => ?_)
        refine .bind (yields_readId id fun _ => ?_)
        exact .ok ⟨fun _ => rfl, by simp [writes, Resource.top]⟩
      · exact .error refused
  | snapshots | manifest =>
      simp only [ofResource]
      split
      · exact .ok ⟨fun _ => rfl, by simp [writes, Resource.top]⟩
      · exact .error refused
  | logTrimming | explanation =>
      simp only [ofResource]
      split
      · exact .map (yields_readText? request _ fun _ =>
          ⟨fun _ => rfl, by simp [writes, Resource.top]⟩)
      · exact .error refused
  | verification indexId =>
      simp only [ofResource]
      split
      · exact .map (yields_readId indexId fun _ => ⟨fun _ => rfl, by simp [writes, Resource.top]⟩)
      · exact .error refused

theorem isGuarded_of_isUnder (slashless : '/' ∉ top.toList) (under : request.IsUnder top)
    (place : top = "indexes" ∨ top = "admin") (read : ofRequest request = .ok call) :
    call.isGuarded = true := by
  unfold ofRequest at read
  split at read
  next => simp at read
  next resource found =>
    have suits := yields_ofResource request
      (if request.method = "HEAD" then "GET" else request.method) resource
    rw [read, yields_ok] at suits
    obtain rfl := (Resource.isUnder_iff slashless found).mp under
    refine suits.guarded ?_
    rintro (rfl | rfl | rfl)
    all_goals simp [Resource.top] at place

end Call

end Http

namespace Service

open Http (Call Request Response)

variable {request : Request} {secret : String} {now : Int64}

/-- What a server tells a sender whom it refuses, from the request and the reason alone. -/
def refusal (request : Request) (reason : Except Http.Status Access.Refusal) : Response :=
  let response : Response :=
    match reason with
    | .error status => .bare status
    | .ok refusal => .fault .unauthorized refusal.message
  if request.method = "OPTIONS" then .bare .ok
  else if request.method = "HEAD" then .bare response.status
  else response

theorem respond_of_error {status : Http.Status} (unread : Call.ofRequest request = .error status)
    (service : Service) (occasion : Occasion) :
    service.respond occasion request = pure (refusal request (.error status), service) := by
  unfold respond refusal answer
  simp only [unread]
  split
  · rfl
  · split <;> rfl

theorem respond_of_refused {call : Call} {service : Service} {occasion : Occasion}
    {reason : Access.Refusal} (read : Call.ofRequest request = .ok call)
    (refused : permit service.settings occasion.now request call = .error reason) :
    service.respond occasion request = pure (refusal request (.ok reason), service) := by
  unfold respond refusal answer
  simp only [read, refused]
  split
  · rfl
  · split <;> rfl

/-- Where tokens are asked for, a request under `indexes` or `admin` without a good one gets an
answer that depends on the request, the secret and the time alone, whatever the service holds, and
changes neither the service nor a file.  It is refused, unless it cannot be read. -/
theorem stranger_learns_nothing
    (place : request.IsUnder "indexes" ∨ request.IsUnder "admin")
    (stranger : ¬ request.Bears secret now) :
    ∃ response : Response,
      ((∃ call, Call.ofRequest request = .ok call) → request.method ≠ "OPTIONS" →
        response.status = .unauthorized) ∧
      ∀ (service : Service) (occasion : Occasion) (fault : Effect → Option Plan.Failure)
        (files : Directory), service.settings.secret = some secret → occasion.now = now →
        (service.respond occasion request).run fault files = (files, response, service) := by
  cases read : Call.ofRequest request with
  | error status =>
      refine ⟨refusal request (.error status), by simp, ?_⟩
      intro service occasion fault files asked sameTime
      rw [respond_of_error read]
      rfl
  | ok call =>
      have guarded : call.isGuarded = true := by
        rcases place with under | under
        · exact Call.isGuarded_of_isUnder (by decide) under (.inl rfl) read
        · exact Call.isGuarded_of_isUnder (by decide) under (.inr rfl) read
      obtain ⟨reason, refused⟩ := Access.exists_refusal stranger
      refine ⟨refusal request (.ok reason), fun _ welcome => ?_, ?_⟩
      · simp only [refusal, welcome, if_false]
        split <;> rfl
      · intro service occasion fault files asked sameTime
        have refusedHere : permit service.settings occasion.now request call = .error reason := by
          rw [permit, if_pos guarded, sameTime]
          exact refused service.settings asked
        rw [respond_of_refused read refusedHere]
        rfl

/-- A request for a new index with a token that is no token. -/
def unsignedRequest : Request :=
  ⟨"POST", "/indexes/books", none, some "Bearer forged", []⟩

theorem unsignedRequest_learns_nothing :
    Call.ofRequest unsignedRequest = .ok (.createIndex "books") ∧
    ∃ response : Response,
      response.status = .unauthorized ∧
      ∀ (service : Service) (occasion : Occasion) (fault : Effect → Option Plan.Failure)
        (files : Directory), service.settings.secret = some "s3cret" → occasion.now = 0 →
        (service.respond occasion unsignedRequest).run fault files =
          (files, response, service) := by
  have read : Call.ofRequest unsignedRequest = .ok (.createIndex "books") := by rfl
  have stranger : ¬ unsignedRequest.Bears "s3cret" 0 := by
    rintro ⟨token, claims, shown, accepted⟩
    obtain rfl : "forged" = token := by
      simpa [unsignedRequest, ← String.toList_inj] using shown
    have malformed : Access.verify "s3cret" "forged" 0 = .error .malformed := by rfl
    simp [malformed] at accepted
  have place : unsignedRequest.IsUnder "indexes" := .inr ⟨"books".toList, by decide +kernel⟩
  obtain ⟨response, refused, same⟩ := stranger_learns_nothing (.inl place) stranger
  exact ⟨read, response, refused ⟨_, read⟩ (by decide), same⟩

end Service

end DocStore
