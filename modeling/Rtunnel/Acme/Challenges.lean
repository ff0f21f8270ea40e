import Rtunnel.Acme.Renewal

namespace Rtunnel.Acme

open Rtunnel.Data Rtunnel.Data.Validation
open Rtunnel.Anytls (Failure)

/-! The challenges of an order.

While an order is validated, a server on the HTTP port answers for its challenges.
A request may come between any two accesses to their store, so what it is answered
is stated of every moment.
-/

abbrev ChallengeStore := KeyedMap String String

inductive Method where
  | get
  | other
deriving DecidableEq

structure Request where
  method : Method
  path : String

structure Response where
  status : Nat
  body : String
deriving DecidableEq

def challengeRoot : String := "/.well-known/acme-challenge/"

def challengeToken (path : String) : Option String :=
  if challengeRoot.toList.isPrefixOf path.toList then
    let token := path.toList.drop challengeRoot.length
    if token ≠ [] ∧ '/' ∉ token then some (String.ofList token) else none
  else none

def handleChallengeRequest (store : ChallengeStore) (request : Request) : Response :=
  let body :=
    match request.method, challengeToken request.path with
    | .get, some token => store.lookup token
    | _, _ => none
  match body with
  | some body => ⟨200, body⟩
  | none => ⟨404, "not found\n"⟩

inductive AuthorizationStatus where
  | pending
  | valid
  | invalid
  | revoked
  | expired
  | deactivated
deriving DecidableEq

def AuthorizationStatus.text : AuthorizationStatus → String
  | .pending => "Pending"
  | .valid => "Valid"
  | .invalid => "Invalid"
  | .revoked => "Revoked"
  | .expired => "Expired"
  | .deactivated => "Deactivated"

inductive OrderStatus where
  | pending
  | ready
  | processing
  | valid
  | invalid
deriving DecidableEq

def OrderStatus.text : OrderStatus → String
  | .pending => "Pending"
  | .ready => "Ready"
  | .processing => "Processing"
  | .valid => "Valid"
  | .invalid => "Invalid"

/-- What the CA says of an authorization: the token of its HTTP-01 challenge, if it
offers one, and the answer to `set_ready`. -/
structure Authorization where
  status : AuthorizationStatus
  token : Option String
  setReady : Except Failure Unit

/-- The domain is authorized already, or the CA was told to try its challenge. -/
def Authorization.Passes (authorization : Authorization) : Prop :=
  authorization.status = .valid ∨ authorization.status = .pending ∧
    authorization.token.isSome ∧ authorization.setReady = .ok ()

structure OrderAnswers where
  newOrder : Except Failure Unit
  authorizations : List (Except Failure Authorization)
  pollReady : Except Failure OrderStatus

/-- The tokens of the challenges that the CA offers. -/
def OrderAnswers.offered (answers : OrderAnswers) : List String :=
  answers.authorizations.filterMap fun answer => answer.toOption.bind Authorization.token

/-- The store, the tokens to remove, and the challenges the CA was told to try. -/
structure OrderState where
  store : ChallengeStore
  tokens : List String
  ready : List String

def OrderState.new : OrderState := ⟨∅, [], []⟩

/-- The states between two accesses, and how the loop ends. -/
def authorize (keyAuthorization : String → String) (state : OrderState) :
    List (Except Failure Authorization) → List OrderState × Except Failure Unit
  | [] => ([], .ok ())
  | .error reason :: _ => ([], .error reason)
  | .ok authorization :: rest =>
      match authorization.status, authorization.token with
      | .valid, _ => authorize keyAuthorization state rest
      | .pending, none =>
          ([], .error "ACME authorization did not offer an HTTP-01 challenge")
      | .pending, some token =>
          let inserted : OrderState :=
            ⟨state.store.insert token (keyAuthorization token), state.tokens ++ [token],
              state.ready⟩
          let announced := { inserted with ready := state.ready ++ [token] }
          match authorization.setReady with
          | .error reason => ([inserted, announced], .error reason)
          | .ok () =>
              let later := authorize keyAuthorization announced rest
              (inserted :: announced :: later.1, later.2)
      | other, _ => ([], .error ("unexpected ACME authorization status " ++ other.text))

def validateOrder (keyAuthorization : String → String) (answers : OrderAnswers) :
    List OrderState × Except Failure Unit :=
  match answers.newOrder with
  | .error reason => ([], .error reason)
  | .ok () =>
      let authorized := authorize keyAuthorization .new answers.authorizations
      (authorized.1, authorized.2 >>= fun _ => answers.pollReady >>= fun status =>
        ensure (status = .ready) ("ACME order was not ready after validation: " ++ status.text))

/-- The store while the tokens are removed. -/
def removals (store : ChallengeStore) : List String → List ChallengeStore
  | [] => []
  | token :: rest => store.erase token :: removals (store.erase token) rest

/-- What the challenge server can see while a certificate is issued, up to the end of
`validate_order` and from there to its shutdown; the order's outcome is looked at
only then. -/
structure ChallengeRun where
  validating : List OrderState
  removing : List ChallengeStore
  outcome : Except Failure Unit

def serveChallenges (keyAuthorization : String → String) (answers : OrderAnswers) :
    ChallengeRun :=
  let validated := validateOrder keyAuthorization answers
  let last := validated.1.getLastD .new
  ⟨.new :: validated.1, last.store :: removals last.store last.tokens, validated.2⟩

/-- A token that makes up one segment of a path. -/
def Servable (token : String) : Prop := token.toList ≠ [] ∧ '/' ∉ token.toList

instance (token : String) : Decidable (Servable token) := inferInstanceAs (Decidable (_ ∧ _))

theorem challengeToken_eq_some_iff {path token : String} :
    challengeToken path = some token ↔ path = challengeRoot ++ token ∧ Servable token := by
  have length : challengeRoot.length = challengeRoot.toList.length := rfl
  constructor
  · intro read
    simp only [challengeToken] at read
    split at read
    · rename_i leads
      obtain ⟨rest, spelled⟩ := List.isPrefixOf_iff_prefix.mp leads
      rw [← spelled, length, List.drop_left] at read
      split at read
      · rename_i servable
        cases read
        refine ⟨String.toList_injective ?_, ?_⟩
        · rw [String.toList_append, String.toList_ofList, spelled]
        · rwa [Servable, String.toList_ofList]
      · cases read
    · cases read
  · rintro ⟨rfl, servable⟩
    have leads : challengeRoot.toList.isPrefixOf (challengeRoot ++ token).toList = true := by
      rw [List.isPrefixOf_iff_prefix, String.toList_append]
      exact List.prefix_append _ _
    simp only [challengeToken, leads, ↓reduceIte]
    rw [String.toList_append, length, List.drop_left, String.ofList_toList]
    exact if_pos servable

theorem handleChallengeRequest_iff {store : ChallengeStore} {request : Request} {body : String} :
    handleChallengeRequest store request = ⟨200, body⟩ ↔ ∃ token, Servable token ∧
      request = ⟨.get, challengeRoot ++ token⟩ ∧ store.lookup token = some body := by
  constructor
  · intro answered
    simp only [handleChallengeRequest] at answered
    split at answered
    · rename_i found served
      cases answered
      split at served
      · rename_i token get read
        obtain ⟨path, servable⟩ := challengeToken_eq_some_iff.mp read
        exact ⟨token, servable, by rw [← get, ← path], served⟩
      · cases served
    · cases answered
  · rintro ⟨token, servable, rfl, held⟩
    have read := challengeToken_eq_some_iff.mpr ⟨rfl, servable⟩
    simp only [handleChallengeRequest, read, held]

/-- The store holds key authorizations of these tokens. -/
def Holds (keyAuthorization : String → String) (tokens : List String) (store : ChallengeStore) :
    Prop :=
  ∀ token body, store.lookup token = some body → token ∈ tokens ∧ body = keyAuthorization token

/-- What holds between any two accesses of the loop. -/
structure OrderState.Sound (keyAuthorization : String → String) (offered : List String)
    (state : OrderState) : Prop where
  holds : Holds keyAuthorization state.tokens state.store
  listed : state.tokens ⊆ offered
  ready : ∀ token ∈ state.ready, state.store.lookup token = some (keyAuthorization token)

variable {keyAuthorization : String → String} {offered : List String} {state : OrderState}

theorem OrderState.Sound.insert (sound : state.Sound keyAuthorization offered) {token : String}
    (known : token ∈ offered) {ready : List String}
    (announced : ∀ other ∈ ready, other ∈ state.ready ∨ other = token) :
    OrderState.Sound keyAuthorization offered
      ⟨state.store.insert token (keyAuthorization token), state.tokens ++ [token], ready⟩ where
  holds := by
    intro other body found
    by_cases same : other = token
    · subst same
      rw [AList.lookup_insert] at found
      cases found
      exact ⟨by simp, rfl⟩
    · rw [AList.lookup_insert_ne same] at found
      obtain ⟨known, own⟩ := sound.holds other body found
      exact ⟨List.mem_append_left _ known, own⟩
  listed := List.append_subset.mpr ⟨sound.listed, by simpa using known⟩
  ready := by
    intro other member
    by_cases same : other = token
    · subst same
      exact AList.lookup_insert _
    · exact (AList.lookup_insert_ne same).trans
        (sound.ready other ((announced other member).resolve_right same))

theorem authorize_sound (sound : state.Sound keyAuthorization offered)
    {authorizations : List (Except Failure Authorization)}
    (known : (authorizations.filterMap fun answer => answer.toOption.bind Authorization.token) ⊆
      offered) :
    ∀ moment ∈ (authorize keyAuthorization state authorizations).1,
      moment.Sound keyAuthorization offered := by
  induction authorizations generalizing state with
  | nil => simp [authorize]
  | cons first rest ih =>
      have later : (rest.filterMap fun answer => answer.toOption.bind Authorization.token) ⊆
          offered :=
        List.Subset.trans ((List.sublist_cons_self first rest).filterMap _).subset known
      cases first with
      | error reason => simp [authorize]
      | ok authorization =>
          unfold authorize
          split
          · exact ih sound later
          · simp
          · rename_i token _ named
            have own : token ∈ offered :=
              known (List.mem_filterMap.mpr ⟨_, List.mem_cons_self, named⟩)
            have inserted := sound.insert own fun other member => .inl member
            have announced : OrderState.Sound keyAuthorization offered
                ⟨_, _, state.ready ++ [token]⟩ :=
              sound.insert own fun other member => by simpa using member
            split
            · exact List.forall_mem_cons.mpr ⟨inserted, by simpa using announced⟩
            · exact List.forall_mem_cons.mpr ⟨inserted,
                List.forall_mem_cons.mpr ⟨announced, ih announced later⟩⟩
          · simp

theorem authorize_ok_iff (keyAuthorization : String → String) (state : OrderState)
    (authorizations : List (Except Failure Authorization)) :
    (authorize keyAuthorization state authorizations).2 = .ok () ↔
      ∀ answer ∈ authorizations, ∃ authorization, answer = .ok authorization ∧
        authorization.Passes := by
  induction authorizations generalizing state with
  | nil => simp [authorize]
  | cons first rest ih =>
      rw [List.forall_mem_cons]
      cases first with
      | error reason => simp [authorize]
      | ok authorization =>
          obtain ⟨status, token, setReady⟩ := authorization
          cases status with
          | pending =>
              cases token with
              | none => simp [authorize, Authorization.Passes]
              | some token =>
                  cases setReady with
                  | error reason => simp [authorize, Authorization.Passes]
                  | ok taken => simp [authorize, Authorization.Passes, ih]
          | valid => simp [authorize, Authorization.Passes, ih]
          | _ => simp [authorize, Authorization.Passes]

theorem validateOrder_ok_iff (keyAuthorization : String → String) (answers : OrderAnswers) :
    (validateOrder keyAuthorization answers).2 = .ok () ↔ answers.newOrder = .ok () ∧
      (∀ answer ∈ answers.authorizations, ∃ authorization, answer = .ok authorization ∧
        authorization.Passes) ∧ answers.pollReady = .ok .ready := by
  unfold validateOrder
  cases answers.newOrder with
  | error reason => simp
  | ok made =>
      rw [← authorize_ok_iff keyAuthorization .new]
      simp only [bind_eq_ok_iff, ensure_eq_ok_iff, decide_eq_true_eq]
      constructor
      · rintro ⟨⟨⟩, authorized, status, polled, rfl⟩
        exact ⟨trivial, authorized, polled⟩
      · rintro ⟨-, authorized, polled⟩
        exact ⟨(), authorized, .ready, polled, rfl⟩

theorem validateOrder_sound (keyAuthorization : String → String) (answers : OrderAnswers) :
    ∀ moment ∈ .new :: (validateOrder keyAuthorization answers).1,
      moment.Sound keyAuthorization answers.offered := by
  have start : OrderState.new.Sound keyAuthorization answers.offered :=
    ⟨fun _ _ found => (by cases found), List.nil_subset _, by simp [OrderState.new]⟩
  refine List.forall_mem_cons.mpr ⟨start, ?_⟩
  unfold validateOrder
  split
  · simp
  · exact authorize_sound start (List.Subset.refl _)

theorem removals_hold {store : ChallengeStore} {tokens all : List String}
    (holds : Holds keyAuthorization tokens store) (listed : tokens ⊆ all) :
    (∀ later ∈ store :: removals store tokens, Holds keyAuthorization all later) ∧
      Holds keyAuthorization [] ((removals store tokens).getLastD store) := by
  have among : Holds keyAuthorization all store := fun token body found =>
    ⟨listed (holds token body found).1, (holds token body found).2⟩
  induction tokens generalizing store with
  | nil => exact ⟨by simpa [removals] using among, holds⟩
  | cons token rest ih =>
      have erased : Holds keyAuthorization rest (store.erase token) := by
        intro other body found
        obtain ⟨different, held⟩ := KeyedMap.lookup_erase_eq_some found
        obtain ⟨known, own⟩ := holds other body held
        exact ⟨(List.mem_cons.mp known).resolve_left different, own⟩
      have within := List.subset_of_cons_subset listed
      obtain ⟨later, last⟩ := ih erased within fun other body found =>
        ⟨within (erased other body found).1, (erased other body found).2⟩
      refine ⟨List.forall_mem_cons.mpr ⟨among, later⟩, ?_⟩
      rw [removals, List.getLastD_cons]
      exact last

end Rtunnel.Acme
