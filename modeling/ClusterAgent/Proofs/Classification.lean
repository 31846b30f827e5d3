import ClusterAgent.Proofs.Number.Whole
import ClusterAgent.Proofs.Telling

/-!
Contract: which error a failure of the cluster's interface is classified as.

A failure is an error that is classified already, an object with a status, an
object without one, or no object at all. The status is that of the failure itself
or else of the response that it carries, and it alone decides the class. Codes of
the network count where there is no status.

Owns: the status that a failure carries, the class that a status stands for, the
message of a classified failure.
Does not own: failures without a text, the details of an error.
-/

namespace ClusterAgent

namespace ApiError

/-! ## What a failure carries -/

/-- The status of an object: its own, or that of its response if it has none that is a number. -/
inductive CarriesStatus (fields : Members) (status : Number) : Prop where
  | own (isStatus : fields.lookup "statusCode" = some (.number status))
  | ofResponse {response : Members}
      (noStatus : ∀ other, fields.lookup "statusCode" ≠ some (.number other))
      (isResponse : fields.lookup "response" = some (.object response))
      (isStatus : response.lookup "statusCode" = some (.number status))

/-- A member of the body that an object carries, if that is an object. -/
def bodyMember (fields : Members) (key : String) : Field :=
  match fields.lookup "body" with
  | some (.object body) => body.lookup key
  | _ => none

/-- The first text among fields that is not empty. -/
def IsFirstText (candidates : List Field) (text : String) : Prop :=
  ∃ before after, candidates = before ++ some (.text text) :: after ∧ text ≠ "" ∧
    ∀ earlier ∈ before, ∀ other, earlier = some (.text other) → other = ""

/-- Whether no field is a text that is not empty. -/
def HaveNoText (candidates : List Field) : Prop :=
  ∀ text, some (.text text) ∈ candidates → text = ""

/-- The first text among fields that is not empty, or the given one if there is none. -/
def IsTextOr (candidates : List Field) (otherwise text : String) : Prop :=
  IsFirstText candidates text ∨ HaveNoText candidates ∧ text = otherwise

/-! ## What it stands for -/

/-- The class that a status stands for, with the code and the status that an error of it has. -/
inductive StandsFor : Number → ApiErrorKind → String → Number → Prop where
  | authentication : StandsFor (.ofNat 401) .authentication "AUTHENTICATION_ERROR" (.ofNat 401)
  | authorization : StandsFor (.ofNat 403) .authorization "AUTHORIZATION_ERROR" (.ofNat 403)
  | notFound : StandsFor (.ofNat 404) .notFound "RESOURCE_NOT_FOUND" (.ofNat 404)
  | unavailable {code : Nat} (isServer : code ∈ [500, 502, 503, 504]) :
      StandsFor (.ofNat code) .unavailable "SERVER_UNAVAILABLE" (.ofNat 503)
  | general {status : Number}
      (other : status ∉ [401, 403, 404, 500, 502, 503, 504].map Number.ofNat) :
      StandsFor status .general "API_ERROR" status

/-- An error of a class under its name, with a code, a status and a message. -/
structure IsError (error : ApiError) (kind : ApiErrorKind) (code : String) (status : Field)
    (message : String) : Prop where
  isKind : error.kind = kind
  isName : error.name = .text kind.name
  isCode : error.code = some (.text code)
  isStatus : error.statusCode = status
  isMessage : error.message = .text message

theorem isError_ofKind (kind : ApiErrorKind) (message code : String) (status : Field)
    (details : Value) :
    IsError (ofKind kind message (some (.text code)) status details) kind code status message :=
  ⟨rfl, rfl, rfl, rfl, rfl⟩

/-- Whether an object has the code of a failure to reach a host. -/
def HasNetworkCode (fields : Members) : Prop :=
  ∃ code ∈ ["ECONNREFUSED", "ENOTFOUND", "ETIMEDOUT"], fields.lookup "code" = some (.text code)

/-- A failure that is no classified error. -/
def IsRaw (failure : Failure) : Prop := ∀ given, failure ≠ .api given

/-- Failures and what they are classified as. A classified error stays what it is. Of other failures,
the status of an object comes first and the code of an object second, and what is no object is told
as a text. -/
inductive IsClassifiedAs : Failure → ApiError → Prop where
  | typed (error : ApiError) : IsClassifiedAs (.api error) error
  | byStatus {failure : Failure} {error : ApiError} {fields : Members} {status told : Number}
      {kind : ApiErrorKind} {code message : String}
      (isRaw : IsRaw failure) (isObject : failure.fields? = some fields)
      (carries : CarriesStatus fields status) (standsFor : StandsFor status kind code told)
      (isMessage : IsTextOr
        [bodyMember fields "message", bodyMember fields "reason", fields.lookup "message"]
        ("HTTP " ++ status.text) message)
      (isError : IsError error kind code (some (.number told)) message) :
      IsClassifiedAs failure error
  | network {failure : Failure} {error : ApiError} {fields : Members} {message : String}
      (isRaw : IsRaw failure) (isObject : failure.fields? = some fields)
      (noStatus : ∀ status, ¬ CarriesStatus fields status) (hasCode : HasNetworkCode fields)
      (isMessage : IsTextOr [fields.lookup "message"] "Unknown error" message)
      (nonempty : message ≠ "") (isError : IsError error .network "NETWORK_ERROR" none message) :
      IsClassifiedAs failure error
  | unknown {failure : Failure} {error : ApiError} {fields : Members} {message : String}
      (isRaw : IsRaw failure) (isObject : failure.fields? = some fields)
      (noStatus : ∀ status, ¬ CarriesStatus fields status) (noCode : ¬ HasNetworkCode fields)
      (isMessage : IsTextOr [fields.lookup "message"] "Unknown error" message)
      (nonempty : message ≠ "") (isError : IsError error .general "UNKNOWN_ERROR" none message) :
      IsClassifiedAs failure error
  | asText {failure : Failure} {error : ApiError} {text : String}
      (isRaw : IsRaw failure) (noObject : failure.fields? = none)
      (isText : failure.plainText? = some text)
      (isError : IsError error .general "UNKNOWN_ERROR" none text) :
      IsClassifiedAs failure error

/-- Whether a failure tells that something was not found: as an error of that class already, or by
its status. -/
def TellsNotFound (failure : Failure) : Prop :=
  (∃ given, failure = .api given ∧ given.kind = .notFound) ∨
    IsRaw failure ∧ ∃ fields, failure.fields? = some fields ∧ CarriesStatus fields (.ofNat 404)

/-! ## Status -/

theorem number?_eq_some {members : Members} {key : String} {number : Number} :
    Members.number? members key = some number ↔ members.lookup key = some (.number number) := by
  unfold Members.number?
  split
  · next held found => rw [found]; simp
  · next noNumber =>
    constructor
    · intro found
      cases found
    · intro found
      exact absurd found (noNumber number)

theorem number?_eq_none {members : Members} {key : String} :
    Members.number? members key = none ↔
      ∀ number, members.lookup key ≠ some (.number number) := by
  rw [Option.eq_none_iff_forall_ne_some]
  exact forall_congr' fun number => not_congr number?_eq_some

theorem status?_eq_some {fields : Members} {status : Number} :
    status? fields = some status ↔ CarriesStatus fields status := by
  unfold status?
  rw [Option.or_eq_some_iff, Option.bind_eq_some_iff, number?_eq_none, number?_eq_some]
  constructor
  · rintro (own | ⟨noStatus, response, isResponse, isStatus⟩)
    · exact .own own
    · unfold Members.object? at isResponse
      split at isResponse
      · next held found =>
        cases isResponse
        exact .ofResponse noStatus found (number?_eq_some.1 isStatus)
      · -- A list carries nothing.
        cases isResponse
        cases isStatus
      · cases isResponse
  · rintro (own | ⟨noStatus, isResponse, isStatus⟩)
    · exact .inl own
    · refine .inr ⟨noStatus, _, ?_, number?_eq_some.2 isStatus⟩
      unfold Members.object?
      rw [isResponse]

theorem status?_eq_none {fields : Members} (noStatus : ∀ status, ¬ CarriesStatus fields status) :
    status? fields = none :=
  Option.eq_none_iff_forall_ne_some.2 fun status => mt status?_eq_some.1 (noStatus status)

theorem CarriesStatus.unique {fields : Members} {status other : Number}
    (carries : CarriesStatus fields status) (carriesOther : CarriesStatus fields other) :
    status = other :=
  Option.some.inj ((status?_eq_some.2 carries).symm.trans (status?_eq_some.2 carriesOther))

theorem exists_isError_ofStatus (status : Number) (message : String) (details : Value) :
    ∃ kind code told, StandsFor status kind code told ∧
      IsError (ofStatus status message details) kind code (some (.number told)) message := by
  unfold ofStatus
  split_ifs with is401 is403 is404 isServer
  · rw [is401]
    exact ⟨_, _, _, .authentication, isError_ofKind _ _ _ _ _⟩
  · rw [is403]
    exact ⟨_, _, _, .authorization, isError_ofKind _ _ _ _ _⟩
  · rw [is404]
    exact ⟨_, _, _, .notFound, isError_ofKind _ _ _ _ _⟩
  · obtain ⟨code, isCode, rfl⟩ := List.mem_map.1 isServer
    exact ⟨_, _, _, .unavailable isCode, isError_ofKind _ _ _ _ _⟩
  · refine ⟨_, _, _, .general ?_, isError_ofKind _ _ _ _ _⟩
    have split : [401, 403, 404, 500, 502, 503, 504].map Number.ofNat =
        .ofNat 401 :: .ofNat 403 :: .ofNat 404 :: [500, 502, 503, 504].map Number.ofNat := rfl
    rw [split, List.mem_cons, List.mem_cons, List.mem_cons, not_or, not_or, not_or]
    exact ⟨is401, is403, is404, isServer⟩

/-- Of all statuses, only 404 stands for what is not found. -/
theorem StandsFor.kind_eq_notFound {status told : Number} {kind : ApiErrorKind} {code : String}
    (standsFor : StandsFor status kind code told) : kind = .notFound ↔ status = .ofNat 404 := by
  have other {code : Nat} (small : code < 2 ^ 53) (isOther : code ≠ 404)
      (same : Number.ofNat code = .ofNat 404) : False :=
    isOther (Number.eq_of_ofNat_eq small (by decide) same)
  constructor
  · intro isNotFound
    cases standsFor with
    | notFound => rfl
    | _ => cases isNotFound
  · intro is404
    cases standsFor with
    | notFound => rfl
    | authentication => exact (other (by decide) (by decide) is404).elim
    | authorization => exact (other (by decide) (by decide) is404).elim
    | unavailable isServer =>
      simp only [List.mem_cons, List.not_mem_nil, or_false] at isServer
      exact (other (by omega) (by omega) is404).elim
    | general noOther =>
      rw [is404] at noOther
      exact absurd (List.mem_map_of_mem (by decide)) noOther

/-! ## Message -/

/-- The text of a field, unless it is empty. -/
def textOf? (field : Field) : Option String := field.text?.filter (· ≠ "")

theorem textOf?_eq_some {field : Field} {text : String} :
    textOf? field = some text ↔ field = some (.text text) ∧ text ≠ "" := by
  unfold textOf?
  rw [Option.filter_eq_some_iff, decide_eq_true_eq]
  refine and_congr_left fun _ => ?_
  unfold Field.text?
  split
  · rw [Option.some.injEq, Option.some.injEq, Value.text.injEq]
  · next noText =>
    constructor
    · intro found
      cases found
    · intro found
      exact absurd found (noText text)

theorem textOf?_eq_none {field : Field} :
    textOf? field = none ↔ ∀ text, field = some (.text text) → text = "" := by
  rw [Option.eq_none_iff_forall_ne_some]
  refine forall_congr' fun text => ?_
  rw [ne_eq, textOf?_eq_some, not_and, not_not]

theorem isTextOr_findSome? (candidates : List Field) (otherwise : String) :
    IsTextOr candidates otherwise ((candidates.findSome? textOf?).getD otherwise) := by
  cases found : candidates.findSome? textOf? with
  | some text =>
    obtain ⟨before, field, after, rfl, isText, noText⟩ := List.findSome?_eq_some_iff.1 found
    obtain ⟨rfl, nonempty⟩ := textOf?_eq_some.1 isText
    exact .inl ⟨before, after, rfl, nonempty, fun earlier isBefore =>
      textOf?_eq_none.1 (noText earlier isBefore)⟩
  | none =>
    have noText := List.findSome?_eq_none_iff.1 found
    exact .inr ⟨fun text member => textOf?_eq_none.1 (noText _ member) text rfl, rfl⟩

theorem nonempty?_eq (members : Members) (key : String) :
    Members.nonempty? members key = textOf? (members.lookup key) := rfl

theorem nonempty?_body (fields : Members) (key : String) :
    Members.nonempty? ((Members.object? fields "body").getD []) key =
      textOf? (bodyMember fields key) := by
  unfold bodyMember Members.object?
  cases fields.lookup "body" with
  | none => rfl
  | some body => cases body <;> rfl

theorem isTextOr_statusMessage (status : Number) (fields : Members) :
    IsTextOr [bodyMember fields "message", bodyMember fields "reason", fields.lookup "message"]
      ("HTTP " ++ status.text)
      (statusMessage status fields ((Members.object? fields "body").getD [])) := by
  have isFirst : statusMessage status fields ((Members.object? fields "body").getD []) =
      ([bodyMember fields "message", bodyMember fields "reason",
        fields.lookup "message"].findSome? textOf?).getD ("HTTP " ++ status.text) := by
    unfold statusMessage
    rw [nonempty?_body, nonempty?_body, nonempty?_eq]
    simp only [List.findSome?_cons, List.findSome?_nil]
    cases textOf? (bodyMember fields "message") with
    | some text => rfl
    | none =>
      cases textOf? (bodyMember fields "reason") with
      | some text => rfl
      | none => cases textOf? (fields.lookup "message") <;> rfl
  rw [isFirst]
  exact isTextOr_findSome? _ _

theorem isTextOr_message (fields : Members) :
    IsTextOr [fields.lookup "message"] "Unknown error"
      ((Members.nonempty? fields "message").getD "Unknown error") := by
  have isFirst : Members.nonempty? fields "message" =
      [fields.lookup "message"].findSome? textOf? := by
    rw [nonempty?_eq, List.findSome?_cons, List.findSome?_nil]
    cases textOf? (fields.lookup "message") <;> rfl
  rw [isFirst]
  exact isTextOr_findSome? _ _

theorem IsTextOr.ne_empty {candidates : List Field} {otherwise text : String}
    (nonempty : otherwise ≠ "") (isText : IsTextOr candidates otherwise text) : text ≠ "" := by
  rcases isText with ⟨_, _, _, textNonempty, _⟩ | ⟨_, rfl⟩
  · exact textNonempty
  · exact nonempty

/-! ## Classification -/

section Cases

variable {failure : Failure} (isRaw : IsRaw failure)

include isRaw

theorem ofFailure_of_carriesStatus {fields : Members} {status : Number}
    (isObject : failure.fields? = some fields) (carries : CarriesStatus fields status) :
    ∃ details, ofFailure failure = .ok (ofStatus status
      (statusMessage status fields ((Members.object? fields "body").getD [])) details) := by
  unfold ofFailure
  split
  · next given => exact absurd rfl (isRaw given)
  · rw [isObject]
    dsimp only
    rw [status?_eq_some.2 carries]
    exact ⟨_, rfl⟩

theorem ofFailure_of_code {fields : Members} {code : String}
    (isObject : failure.fields? = some fields) (noStatus : status? fields = none)
    (isCode : (Members.text? fields "code").filter (· ∈ networkCodes) = some code) :
    ofFailure failure =
      .ok (network ((Members.nonempty? fields "message").getD "Unknown error")
        (.object [("code", .text code)])) := by
  unfold ofFailure
  split
  · next given => exact absurd rfl (isRaw given)
  · simp only [isObject, noStatus, isCode]

theorem ofFailure_of_no_code {fields : Members} {text : String}
    (isObject : failure.fields? = some fields) (noStatus : status? fields = none)
    (noCode : (Members.text? fields "code").filter (· ∈ networkCodes) = none)
    (isText : failure.plainText? = some text) :
    ofFailure failure =
      .ok (unknown ((Members.nonempty? fields "message").getD "Unknown error")
        [("originalError", .text text)]) := by
  unfold ofFailure
  split
  · next given => exact absurd rfl (isRaw given)
  · simp only [isObject, noStatus, noCode, isText]
    rfl

theorem ofFailure_of_fields_eq_none (noObject : failure.fields? = none) {text : String}
    (told : failure.plainText? = some text) : ofFailure failure = .ok (unknown text []) := by
  unfold ofFailure
  split
  · next given => exact absurd rfl (isRaw given)
  · rw [noObject, told]
    rfl

end Cases

theorem networkCode_eq_some {fields : Members} {code : String} :
    (Members.text? fields "code").filter (· ∈ networkCodes) = some code ↔
      code ∈ networkCodes ∧ fields.lookup "code" = some (.text code) := by
  rw [Option.filter_eq_some_iff, decide_eq_true_eq, and_comm]
  refine and_congr_right fun _ => ?_
  unfold Members.text?
  split
  · next found => rw [found, Option.some.injEq, Option.some.injEq, Value.text.injEq]
  · next noText =>
    constructor
    · intro found
      cases found
    · intro found
      exact absurd found (noText code)

/-- A failure that has a text is classified. -/
theorem exists_isClassifiedAs {failure : Failure} (told : failure.hasText) :
    ∃ error, ofFailure failure = .ok error ∧ IsClassifiedAs failure error := by
  obtain ⟨text, isText⟩ := Option.isSome_iff_exists.1 told
  by_cases isTyped : ∃ given, failure = .api given
  · obtain ⟨given, rfl⟩ := isTyped
    exact ⟨given, rfl, .typed given⟩
  have isRaw : IsRaw failure := fun given same => isTyped ⟨given, same⟩
  cases isObject : failure.fields? with
  | none =>
    exact ⟨_, ofFailure_of_fields_eq_none isRaw isObject isText,
      .asText isRaw isObject isText (isError_ofKind _ _ _ _ _)⟩
  | some fields =>
    by_cases hasStatus : ∃ status, CarriesStatus fields status
    · obtain ⟨status, carries⟩ := hasStatus
      obtain ⟨details, classified⟩ := ofFailure_of_carriesStatus isRaw isObject carries
      obtain ⟨kind, code, told, standsFor, isError⟩ := exists_isError_ofStatus status
        (statusMessage status fields ((Members.object? fields "body").getD [])) details
      exact ⟨_, classified, .byStatus isRaw isObject carries standsFor
        (isTextOr_statusMessage status fields) isError⟩
    · have noStatus : ∀ status, ¬ CarriesStatus fields status := not_exists.1 hasStatus
      have statusFree := status?_eq_none noStatus
      have isMessage := isTextOr_message fields
      have nonempty := isMessage.ne_empty (by decide)
      cases found : (Members.text? fields "code").filter (· ∈ networkCodes) with
      | some code =>
        obtain ⟨isNetwork, isCode⟩ := networkCode_eq_some.1 found
        exact ⟨_, ofFailure_of_code isRaw isObject statusFree found,
          .network isRaw isObject noStatus ⟨code, isNetwork, isCode⟩ isMessage nonempty
            (isError_ofKind _ _ _ _ _)⟩
      | none =>
        have noCode : ¬ HasNetworkCode fields := by
          rintro ⟨code, isNetwork, isCode⟩
          rw [networkCode_eq_some.2 ⟨isNetwork, isCode⟩] at found
          cases found
        exact ⟨_, ofFailure_of_no_code isRaw isObject statusFree found isText,
          .unknown isRaw isObject noStatus noCode isMessage nonempty (isError_ofKind _ _ _ _ _)⟩

theorem tellsNotFound_iff_of_isRaw {failure : Failure} (isRaw : IsRaw failure) :
    TellsNotFound failure ↔
      ∃ fields, failure.fields? = some fields ∧ CarriesStatus fields (.ofNat 404) := by
  constructor
  · rintro (⟨given, same, _⟩ | ⟨_, carried⟩)
    · exact absurd same (isRaw given)
    · exact carried
  · intro carried
    exact .inr ⟨isRaw, carried⟩

theorem IsClassifiedAs.kind_eq_notFound {failure : Failure} {error : ApiError}
    (classified : IsClassifiedAs failure error) :
    error.kind = .notFound ↔ TellsNotFound failure := by
  cases classified with
  | typed =>
    constructor
    · intro isNotFound
      exact .inl ⟨error, rfl, isNotFound⟩
    · rintro (⟨given, same, isNotFound⟩ | ⟨isRaw, _⟩)
      · cases same
        exact isNotFound
      · exact absurd rfl (isRaw error)
  | byStatus isRaw isObject carries standsFor _ isError =>
    rw [isError.isKind, standsFor.kind_eq_notFound, tellsNotFound_iff_of_isRaw isRaw]
    constructor
    · intro is404
      exact ⟨_, isObject, is404 ▸ carries⟩
    · rintro ⟨others, isOthers, carries404⟩
      rw [isObject, Option.some.injEq] at isOthers
      exact carries.unique (isOthers ▸ carries404)
  | network isRaw isObject noStatus _ _ _ isError | unknown isRaw isObject noStatus _ _ _ isError =>
    rw [isError.isKind, tellsNotFound_iff_of_isRaw isRaw]
    refine iff_of_false (by decide) ?_
    rintro ⟨others, isOthers, carries404⟩
    rw [isObject, Option.some.injEq] at isOthers
    exact noStatus _ (isOthers ▸ carries404)
  | asText isRaw noObject _ isError =>
    rw [isError.isKind, tellsNotFound_iff_of_isRaw isRaw]
    refine iff_of_false (by decide) ?_
    rintro ⟨others, isOthers, _⟩
    rw [noObject] at isOthers
    cases isOthers

/-- Every failure that has a text is classified, by its status alone if it carries one and by its
code otherwise. It counts as something that was not found if it is such an error already or carries
exactly that status. -/
theorem failures_are_classified {failure : Failure} (told : failure.hasText) :
    ∃ error, ofFailure failure = .ok error ∧ IsClassifiedAs failure error ∧
      (error.kind = .notFound ↔ TellsNotFound failure) := by
  obtain ⟨error, isOk, classified⟩ := exists_isClassifiedAs told
  exact ⟨error, isOk, classified, classified.kind_eq_notFound⟩

/-- A text in the place of the status, and a code of the network. -/
def textStatusFields : Members := [("statusCode", .text "404"), ("code", .text "ECONNREFUSED")]

/-- The same with a status in the response. -/
def responseFields : Members :=
  textStatusFields ++ [("response", .object [("statusCode", .number (.ofNat 404))])]

theorem failures_are_classified_of_responses :
    (∃ error, ofFailure (.value (.object responseFields)) = .ok error ∧ error.kind = .notFound) ∧
      ∃ error, ofFailure (.value (.object textStatusFields)) = .ok error ∧
        error.kind ≠ .notFound := by
  have isRaw (thrown : Value) : IsRaw (.value thrown) := fun given same => by cases same
  have noNumber (number : Number) : some (Value.text "404") ≠ some (.number number) := nofun
  constructor
  · have told : (Failure.value (.object responseFields)).hasText := rfl
    obtain ⟨error, isOk, -, notFound⟩ := failures_are_classified told
    exact ⟨error, isOk, notFound.2 (.inr ⟨isRaw _, _, rfl, .ofResponse noNumber rfl rfl⟩)⟩
  · have told : (Failure.value (.object textStatusFields)).hasText := rfl
    obtain ⟨error, isOk, -, notFound⟩ := failures_are_classified told
    refine ⟨error, isOk, fun isNotFound => ?_⟩
    obtain ⟨fields, isObject, carries⟩ :=
      (tellsNotFound_iff_of_isRaw (isRaw _)).1 (notFound.1 isNotFound)
    cases isObject
    cases carries with
    | own isStatus => exact noNumber _ isStatus
    | ofResponse _ isResponse _ => cases isResponse

end ApiError

end ClusterAgent
