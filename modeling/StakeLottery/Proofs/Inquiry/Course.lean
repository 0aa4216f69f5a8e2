import StakeLottery.Proofs.Inquiry
import StakeLottery.Proofs.Precedence

/-!
The course of an inquiry. An inquiry that goes through stages in an order ends with the result of
the first stage that has one, and it has asked the questions of the stages that it reached, no other
ones. So it depends on nothing but the answers to these questions, and one that fails is its end.
-/

namespace StakeLottery

variable {Failure Error Value Result Stage : Type}

namespace Inquiry

theorem bind_of_ok {first : Inquiry Error Value} {next : Value → Inquiry Error Result}
    {value : Value} (given : first.outcome = .ok value) :
    first >>= next = ⟨first.asked ++ (next value).asked, (next value).outcome⟩ := by
  change first.andThen next = _
  rw [andThen, given]

theorem bind_of_error {first : Inquiry Error Value} {next : Value → Inquiry Error Result}
    {error : Error} (given : first.outcome = .error error) :
    first >>= next = ⟨first.asked, .error error⟩ := by
  change first.andThen next = _
  rw [andThen, given]

theorem bind_assoc {Final : Type} (first : Inquiry Error Value)
    (next : Value → Inquiry Error Result) (last : Result → Inquiry Error Final) :
    first >>= next >>= last = first >>= fun value => next value >>= last := by
  cases given : first.outcome with
  | error error =>
      rw [bind_of_error given, bind_of_error given, bind_of_error rfl]
  | ok value =>
      rw [bind_of_ok given, bind_of_ok given]
      cases givenNext : (next value).outcome with
      | error error => rw [bind_of_error rfl, bind_of_error givenNext]
      | ok result => rw [bind_of_ok rfl, bind_of_ok givenNext, List.append_assoc]

theorem bind_pure_unit (first : Inquiry Error Unit) : (first >>= fun _ => pure ()) = first := by
  cases given : first.outcome with
  | error error => rw [bind_of_error given, ← given]
  | ok value =>
      rw [bind_of_ok given]
      change (⟨first.asked ++ [], .ok ()⟩ : Inquiry Error Unit) = first
      rw [List.append_nil, ← given]

theorem bind_pure_some (first : Inquiry Error Value) :
    (first >>= fun value => pure (some value)) = ⟨first.asked, first.outcome.map some⟩ := by
  cases given : first.outcome with
  | error error => rw [bind_of_error given]; rfl
  | ok value =>
      rw [bind_of_ok given]
      change (⟨first.asked ++ [], .ok (some value)⟩ : Inquiry Error (Option Value)) = _
      rw [List.append_nil]
      rfl

def Follows (yields : Stage → Except Error Value → Prop) (questions : Stage → List Question)
    (order : List Stage) (inquiry : Inquiry Error Value) : Prop :=
  ∃ reached, FirstOf yields order reached inquiry.outcome ∧
    inquiry.asked = reached.flatMap questions

section

variable {yields : Stage → Except Error Value → Prop} {questions : Stage → List Question}
  {stage : Stage} {rest : List Stage} {inquiry : Inquiry Error Value}

theorem follows_of_yields (yielded : yields stage inquiry.outcome)
    (asks : inquiry.asked = questions stage) :
    Follows yields questions (stage :: rest) inquiry :=
  ⟨[stage], .decides yielded, by simp [asks]⟩

theorem follows_of_silent (silent : ∀ other, ¬yields stage other)
    (asksNothing : questions stage = [])
    (follows : Follows yields questions rest inquiry) :
    Follows yields questions (stage :: rest) inquiry := by
  obtain ⟨reached, first, asked⟩ := follows
  exact ⟨stage :: reached, .passes silent first, by simp [asked, asksNothing]⟩

theorem follows_bind {Step : Type} {first : Inquiry Error Step}
    {next : Step → Inquiry Error Value} (asks : first.asked = questions stage)
    (fails : ∀ error, first.outcome = .error error → yields stage (.error error))
    (goesOn : ∀ value, first.outcome = .ok value →
      (∀ other, ¬yields stage other) ∧ Follows yields questions rest (next value)) :
    Follows yields questions (stage :: rest) (first >>= next) := by
  cases given : first.outcome with
  | error error =>
      rw [bind_of_error given]
      exact follows_of_yields (fails error given) asks
  | ok value =>
      obtain ⟨silent, reached, later, asked⟩ := goesOn value given
      rw [bind_of_ok given]
      exact ⟨stage :: reached, .passes silent later, by simp [asks, asked]⟩

theorem follows_answer {Step : Type} {first : Inquiry Error Step} {answer : Except Failure Step}
    {wrap : Failure → Error} {next : Step → Inquiry Error Value}
    (asks : first.asked = questions stage) (wrapped : first.outcome = answer.mapError wrap)
    (fails : ∀ failure, answer = .error failure → yields stage (.error (wrap failure)))
    (goesOn : ∀ value, answer = .ok value →
      (∀ other, ¬yields stage other) ∧ Follows yields questions rest (next value)) :
    Follows yields questions (stage :: rest) (first >>= next) := by
  refine follows_bind asks (fun error given => ?_) (fun value given => ?_)
  · obtain ⟨failure, unanswered, rfl⟩ := Except.mapError_eq_error.mp (wrapped.symm.trans given)
    exact fails failure unanswered
  · exact goesOn value (Except.mapError_eq_ok.mp (wrapped.symm.trans given))

end

end Inquiry

def Chain.Refuses (chain : Chain Failure) : Question → Failure → Prop
  | .address publicKey, failure => chain.address publicKey = .error failure
  | .ticketCount address height, failure => chain.ticketCount address height = .error failure
  | .difficulty height round, failure => chain.difficulty height round = .error failure

def Chain.AgreesOn (chain other : Chain Failure) : Question → Prop
  | .address publicKey => other.address publicKey = chain.address publicKey
  | .ticketCount address height =>
      other.ticketCount address height = chain.ticketCount address height
  | .difficulty height round => other.difficulty height round = chain.difficulty height round

namespace Inquiry

/-- An inquiry of any chain depends on the answers to its questions alone, and the failures it ends
with in the chain's name are those of the answers. -/
structure Faithful (wrap : Failure → Error) (inquiry : Chain Failure → Inquiry Error Value) :
    Prop where
  depends : ∀ chain other : Chain Failure,
    (∀ question ∈ (inquiry chain).asked, chain.AgreesOn other question) →
      inquiry other = inquiry chain
  surfaces : ∀ (chain : Chain Failure) (failure : Failure),
    (inquiry chain).outcome = .error (wrap failure) ↔
      ∃ question ∈ (inquiry chain).asked, chain.Refuses question failure

variable {wrap : Failure → Error}

theorem faithful_of {outcome : Except Error Value}
    (foreign : ∀ failure, outcome ≠ .error (wrap failure)) :
    Faithful wrap fun _ : Chain Failure => of outcome where
  depends _ _ _ := rfl
  surfaces _ failure := by simp [of, foreign failure]

theorem faithful_require (condition : Bool) {error : Error}
    (foreign : ∀ failure, error ≠ wrap failure) :
    Faithful wrap fun _ : Chain Failure => require condition error :=
  faithful_of fun failure => by cases condition <;> simp [foreign failure]

theorem mapError_eq_error_wrap (injective : Function.Injective wrap)
    {answer : Except Failure Value} {failure : Failure} :
    answer.mapError wrap = .error (wrap failure) ↔ answer = .error failure := by
  rw [Except.mapError_eq_error]
  constructor
  · rintro ⟨_, given, same⟩
    rwa [injective same] at given
  · intro given
    exact ⟨failure, given, rfl⟩

theorem faithful_address (injective : Function.Injective wrap) (publicKey : Bytes) :
    Faithful wrap fun chain : Chain Failure =>
      ask (.address publicKey) ((chain.address publicKey).mapError wrap) where
  depends chain other agree := by
    have same := agree (.address publicKey) List.mem_cons_self
    rw [show other.address publicKey = chain.address publicKey from same]
  surfaces chain failure := by
    simp [ask, Chain.Refuses, mapError_eq_error_wrap injective]

theorem faithful_ticketCount (injective : Function.Injective wrap) (address : String)
    (height : Int) :
    Faithful wrap fun chain : Chain Failure =>
      ask (.ticketCount address height) ((chain.ticketCount address height).mapError wrap) where
  depends chain other agree := by
    have same := agree (.ticketCount address height) List.mem_cons_self
    rw [show other.ticketCount address height = chain.ticketCount address height from same]
  surfaces chain failure := by
    simp [ask, Chain.Refuses, mapError_eq_error_wrap injective]

theorem faithful_difficulty (injective : Function.Injective wrap) (height round : Int) :
    Faithful wrap fun chain : Chain Failure =>
      ask (.difficulty height round) ((chain.difficulty height round).mapError wrap) where
  depends chain other agree := by
    have same := agree (.difficulty height round) List.mem_cons_self
    rw [show other.difficulty height round = chain.difficulty height round from same]
  surfaces chain failure := by
    simp [ask, Chain.Refuses, mapError_eq_error_wrap injective]

theorem faithful_bind {first : Chain Failure → Inquiry Error Value}
    {next : Chain Failure → Value → Inquiry Error Result} (faithful : Faithful wrap first)
    (goesOn : ∀ value, Faithful wrap fun chain => next chain value) :
    Faithful wrap fun chain => first chain >>= next chain where
  depends chain other agree := by
    cases given : (first chain).outcome with
    | error error =>
        rw [bind_of_error given] at agree ⊢
        have same := faithful.depends chain other agree
        rw [← same] at given ⊢
        exact bind_of_error given
    | ok value =>
        rw [bind_of_ok given] at agree ⊢
        have same := faithful.depends chain other fun question asked =>
          agree question (List.mem_append_left _ asked)
        have sameNext := (goesOn value).depends chain other fun question asked =>
          agree question (List.mem_append_right _ asked)
        rw [← same] at given ⊢
        rw [bind_of_ok given, sameNext]
  surfaces chain failure := by
    cases given : (first chain).outcome with
    | error error =>
        rw [bind_of_error given]
        rw [← faithful.surfaces chain failure, given, Except.error.injEq, Except.error.injEq]
    | ok value =>
        -- An answered question is no failure, so a failure is one of the later answers.
        have answered : ¬∃ question ∈ (first chain).asked, chain.Refuses question failure := by
          rw [← faithful.surfaces chain failure, given]
          simp
        rw [bind_of_ok given, (goesOn value).surfaces chain failure]
        constructor
        · rintro ⟨question, asked, refused⟩
          exact ⟨question, List.mem_append_right _ asked, refused⟩
        · rintro ⟨question, asked, refused⟩
          rcases List.mem_append.mp asked with askedFirst | askedNext
          · exact absurd ⟨question, askedFirst, refused⟩ answered
          · exact ⟨question, askedNext, refused⟩

end Inquiry

end StakeLottery
