import ClusterAgent.Classification
import ClusterAgent.Proofs.Outcome

/-!
Contract: failures that have a text can be classified, and told once they are.

Owns: which errors have a text, the success of classification, the text of what is
classified.
Does not own: which class a failure gets.
-/

namespace ClusterAgent

theorem ErrorObject.message_hasText {error : ErrorObject} (told : error.plainText?.isSome) :
    error.message.plainText?.isSome := by
  unfold plainText? at told
  split at told
  · cases told
  · cases name : error.name.plainText? <;> cases message : error.message.plainText? <;>
      simp_all

/-- An error under a name and a message that are texts has a text, unless it is told otherwise. -/
theorem ErrorObject.hasText_texts (family : Option ErrorFamily) (name message : String)
    (fields : Members) (untold : fields.lookup Value.textMember = none) :
    (ErrorObject.mk family (.text name) (.text message) fields).plainText?.isSome := by
  simp only [plainText?, untold, Value.plainText?]
  simp
  split_ifs <;> rfl

theorem ErrorObject.name_hasText {error : ErrorObject} (told : error.plainText?.isSome) :
    error.name.plainText?.isSome := by
  unfold plainText? at told
  split at told
  · cases told
  · cases name : error.name.plainText? <;> simp_all

namespace Failure

theorem hasText_rejected (issues : List Schema.Issue) : (rejected issues).hasText = true :=
  ErrorObject.hasText_texts none "SchemaError" (Schema.message issues) [] rfl

theorem hasText_undeclared (cause : Undeclared) : (undeclared cause).hasText = true :=
  ErrorObject.hasText_texts none "TypeError" cause.message [] rfl

end Failure

namespace ApiError

/-- An error under the name of its class has a text, whatever its other fields are. -/
theorem hasText_ofKind (kind : ApiErrorKind) (message : String) (code statusCode : Field)
    (details : Value) : (Failure.api (ofKind kind message code statusCode details)).hasText := by
  refine ErrorObject.hasText_texts (some .api) kind.name message _ ?_
  cases code <;> cases statusCode <;> rfl

theorem hasText_ofStatus (status : Number) (message : String) (details : Value) :
    (Failure.api (ofStatus status message details)).hasText := by
  unfold ofStatus
  split_ifs <;> exact hasText_ofKind _ _ _ _ _

/-- A failure that has a text is classified as an error that has one. -/
theorem exists_told_ofFailure {failure : Failure} (told : failure.hasText) :
    ∃ error, ofFailure failure = .ok error ∧ (Failure.api error).hasText := by
  obtain ⟨words, plain⟩ := Option.isSome_iff_exists.1 told
  unfold ofFailure
  split
  · exact ⟨_, rfl, told⟩
  · split
    · exact ⟨_, by simp [plain, requireText]; rfl, hasText_ofKind _ _ _ _ _⟩
    · split
      · exact ⟨_, rfl, hasText_ofStatus _ _ _⟩
      · dsimp only
        split
        · exact ⟨_, rfl, hasText_ofKind _ _ _ _ _⟩
        · exact ⟨_, by simp [plain, requireText]; rfl, hasText_ofKind _ _ _ _ _⟩

theorem exists_ofFailure {failure : Failure} (told : failure.hasText) :
    ∃ error, ofFailure failure = .ok error ∧ error.message.plainText?.isSome := by
  obtain ⟨error, classified, errorTold⟩ := exists_told_ofFailure told
  have objectTold : error.object.plainText?.isSome := errorTold
  exact ⟨error, classified, ErrorObject.message_hasText objectTold⟩

end ApiError

end ClusterAgent
