import RmwIceoryx2.Rmw.Endpoint

namespace RmwIceoryx2.Rmw

open RmwIceoryx2.Common RmwIceoryx2.Runtime RmwIceoryx2.Message

variable {M α β ε : Type}

/-- If this fails, then with a code that `refuses` admits, and with a message unless `silent`. -/
def Explains (refuses : ε → Prop) (silent : Prop) (r : Except (Failure ε) α) : Prop :=
  ∀ f, r = .error f → refuses f.error ∧ (f.chain = [] → silent)

section Rules

variable {refuses : ε → Prop} {silent : Prop}

theorem explains_ok (a : α) : Explains refuses silent (.ok a) := by
  intro f h
  cases h

theorem explains_pure (a : α) : Explains refuses silent (pure a) := explains_ok a

theorem explains_throw {e : ε} (he : refuses e) (msg : String) (chain : List String) :
    Explains refuses silent (throw ⟨e, msg :: chain⟩ : Except (Failure ε) α) := by
  intro f h
  cases h
  exact ⟨he, fun hnil ↦ absurd hnil (List.cons_ne_nil msg chain)⟩

theorem explains_silent {e : ε} (he : refuses e) (hsilent : silent) :
    Explains refuses silent (.error ⟨e, []⟩ : Except (Failure ε) α) := by
  intro f h
  cases h
  exact ⟨he, fun _ ↦ hsilent⟩

theorem Explains.bind {x : Except (Failure ε) α} {f : α → Except (Failure ε) β}
    (hx : Explains refuses silent x) (hf : ∀ a, x = .ok a → Explains refuses silent (f a)) :
    Explains refuses silent (x >>= f) := by
  intro failure h
  rcases bind_eq_error.mp h with herror | ⟨a, ha, herror⟩
  · exact hx failure herror
  · exact hf a ha failure herror

/-- The shape that an early `throw` takes. -/
theorem explains_unless {c : Prop} [Decidable c] {e : ε} (he : refuses e) (msg : String)
    (chain : List String) {f : PUnit → Except (Failure ε) α} (hf : Explains refuses silent (f ⟨⟩)) :
    Explains refuses silent (if c then throw ⟨e, msg :: chain⟩ >>= f else f ⟨⟩) := by
  split
  · refine (explains_throw he msg chain).bind fun _ h ↦ ?_
    cases h
  · exact hf

theorem explains_notNull (argument : String) {e : ε} (he : refuses e) (p : Option α) :
    Explains refuses silent (ensureNotNull argument e p) := by
  cases p with
  | none => exact explains_throw he _ _
  | some a => exact explains_ok a

theorem explains_implementation (expr : String) {e : ε} (he : refuses e) (identifier : String) :
    Explains refuses silent (ensureImplementation expr e identifier) := by
  rw [ensureImplementation]
  split
  · exact explains_throw he _ _
  · exact explains_ok _

theorem explains_cast (msg : String) {e : ε} (he : refuses e) (p : Option α) :
    Explains refuses silent (uncheckedCast msg e p) := by
  cases p with
  | none => exact explains_throw he _ _
  | some a => exact explains_ok a

end Rules

abbrev Fails (ret : RmwRet) : Prop := ret ≠ .ok

theorem checkPublisher_explains (rmwPublisher : Option (RmwPublisher M)) (argument : String)
    (value : Option α) : Explains Fails False (checkPublisher rmwPublisher argument value) := by
  refine (explains_notNull _ (by decide) _).bind fun h _ ↦ ?_
  refine (explains_implementation _ (by decide) _).bind fun _ _ ↦ ?_
  refine (explains_notNull _ (by decide) _).bind fun v _ ↦ ?_
  exact (explains_cast _ (by decide) _).bind fun p _ ↦ explains_pure _

theorem checkBorrow_explains (rmwPublisher : Option (RmwPublisher M))
    (typeSupport : Option (TypeSupport M)) (rosMessage : Option (Option Address)) :
    Explains Fails False (checkBorrow rmwPublisher typeSupport rosMessage) := by
  refine (explains_notNull _ (by decide) _).bind fun h _ ↦ ?_
  refine (explains_notNull _ (by decide) _).bind fun p _ ↦ ?_
  refine (explains_implementation _ (by decide) _).bind fun _ _ ↦ ?_
  refine (explains_notNull _ (by decide) _).bind fun t _ ↦ ?_
  refine (explains_notNull _ (by decide) _).bind fun m _ ↦ ?_
  refine explains_unless (by decide) _ _ ?_
  exact explains_unless (by decide) _ _ (explains_pure _)

theorem checkReturnLoan_explains (rmwPublisher : Option (RmwPublisher M))
    (loanedMessage : Option Address) :
    Explains Fails False (checkReturnLoan rmwPublisher loanedMessage) := by
  refine (explains_notNull _ (by decide) _).bind fun h _ ↦ ?_
  refine (explains_notNull _ (by decide) _).bind fun m _ ↦ ?_
  refine (explains_implementation _ (by decide) _).bind fun _ _ ↦ ?_
  refine explains_unless (by decide) _ _ ?_
  exact (explains_cast _ (by decide) _).bind fun p _ ↦ explains_pure _

theorem checkTake_explains (rmwSubscription : Option (RmwSubscription M)) (argument : String)
    (value : Option α) (taken : Option Bool) :
    Explains Fails False (checkTake rmwSubscription argument value taken) := by
  refine (explains_notNull _ (by decide) _).bind fun h _ ↦ ?_
  refine (explains_implementation _ (by decide) _).bind fun _ _ ↦ ?_
  refine (explains_notNull _ (by decide) _).bind fun v _ ↦ ?_
  refine (explains_notNull _ (by decide) _).bind fun t _ ↦ ?_
  exact (explains_cast _ (by decide) _).bind fun s _ ↦ explains_pure _

/-- A subscription of this implementation for messages that are not lent. -/
def WithoutLoans (h : RmwSubscription M) : Prop :=
  h.implementationIdentifier = rmwGetImplementationIdentifier ∧ h.canLoanMessages = false

theorem explains_canLoan {h : RmwSubscription M}
    (hid : h.implementationIdentifier = rmwGetImplementationIdentifier) :
    Explains Fails (WithoutLoans h) (ensureCanLoan .unsupported h.canLoanMessages) := by
  rw [ensureCanLoan]
  split
  · exact explains_ok _
  · exact explains_silent (by decide) ⟨hid, Bool.eq_false_iff.mpr ‹_›⟩

theorem checkTakeLoaned_explains (h : RmwSubscription M) (loanedMessage : Option (Option Address))
    (taken : Option Bool) :
    Explains Fails (WithoutLoans h) (checkTakeLoaned (some h) loanedMessage taken) := by
  refine (explains_notNull _ (by decide) _).bind fun h' hh ↦ ?_
  obtain rfl : h = h' := by simpa using hh
  refine (explains_implementation _ (by decide) _).bind fun _ hid ↦ ?_
  refine (explains_canLoan (ensureImplementation_eq_ok.mp hid)).bind fun _ _ ↦ ?_
  refine (explains_notNull _ (by decide) _).bind fun t _ ↦ ?_
  refine (explains_notNull _ (by decide) _).bind fun m _ ↦ ?_
  refine explains_unless (by decide) _ _ ?_
  refine explains_unless (by decide) _ _ ?_
  exact (explains_cast _ (by decide) _).bind fun s _ ↦ explains_pure _

theorem checkReturnLoanedMessage_explains (h : RmwSubscription M) (loanedMessage : Option Address) :
    Explains Fails (WithoutLoans h) (checkReturnLoanedMessage (some h) loanedMessage) := by
  refine (explains_notNull _ (by decide) _).bind fun h' hh ↦ ?_
  obtain rfl : h = h' := by simpa using hh
  refine (explains_implementation _ (by decide) _).bind fun _ hid ↦ ?_
  refine (explains_canLoan (ensureImplementation_eq_ok.mp hid)).bind fun _ _ ↦ ?_
  refine (explains_notNull _ (by decide) _).bind fun m _ ↦ ?_
  refine explains_unless (by decide) _ _ ?_
  exact (explains_cast _ (by decide) _).bind fun s _ ↦ explains_pure _

theorem checkTakeLoaned_withoutLoans {h : RmwSubscription M} (hno : WithoutLoans h)
    (loanedMessage : Option (Option Address)) (taken : Option Bool) :
    checkTakeLoaned (some h) loanedMessage taken = .error ⟨.unsupported, []⟩ := by
  refine bind_eq_error.mpr (Or.inr ⟨h, rfl, ?_⟩)
  refine bind_eq_error.mpr (Or.inr ⟨(), ensureImplementation_eq_ok.mpr hno.1, ?_⟩)
  exact bind_eq_error.mpr (Or.inl (by rw [hno.2]; rfl))

theorem checkReturnLoanedMessage_withoutLoans {h : RmwSubscription M} (hno : WithoutLoans h)
    (loanedMessage : Option Address) :
    checkReturnLoanedMessage (some h) loanedMessage = .error ⟨.unsupported, []⟩ := by
  refine bind_eq_error.mpr (Or.inr ⟨h, rfl, ?_⟩)
  refine bind_eq_error.mpr (Or.inr ⟨(), ensureImplementation_eq_ok.mpr hno.1, ?_⟩)
  exact bind_eq_error.mpr (Or.inl (by rw [hno.2]; rfl))

section Calls

theorem failed_explains {chain : List String} {msg : String} :
    RmwRet.error = .ok ↔ msg :: chain = [] := by
  constructor
  · intro h
    cases h
  · intro h
    cases h

theorem finished_explains (h : RmwPublisher M) (earlier : List PortRequest) (msg : String)
    (r : Publisher.Return M Unit) : (PublisherOutcome.finished h earlier msg r).ret = .ok ↔
      (PublisherOutcome.finished h earlier msg r).chain = [] := by
  cases hr : r.result <;> simp [PublisherOutcome.finished, hr]

theorem rejected_explains {rmwPublisher : Option (RmwPublisher M)} {r : Except (Failure RmwRet) α}
    {f : Failure RmwRet} (hr : Explains Fails False r) (hf : r = .error f) :
    (PublisherOutcome.rejected rmwPublisher f).ret = .ok ↔
      (PublisherOutcome.rejected rmwPublisher f).chain = [] := by
  obtain ⟨hfails, hchain⟩ := hr f hf
  exact iff_of_false hfails hchain

theorem publisherCall_explains (h : RmwPublisher M) (op : PublisherOp M) :
    (publisherCall h op).chain = [] → (publisherCall h op).ret = .ok := by
  cases op with
  | publish port rosMessage =>
    simp only [publisherCall, rmwPublish]
    split
    · exact (rejected_explains (checkPublisher_explains _ _ _) ‹_›).mpr
    · split
      · exact (finished_explains _ _ _ _).mpr
      · simp only [publishSerialized]
        split
        · exact failed_explains.mpr
        · split
          · exact failed_explains.mpr
          · exact (finished_explains _ _ _ _).mpr
  | borrow port typeSupport rosMessage =>
    simp only [publisherCall, rmwBorrowLoanedMessage]
    split
    · exact (rejected_explains (checkBorrow_explains _ _ _) ‹_›).mpr
    · split
      · exact failed_explains.mpr
      · exact fun _ ↦ rfl
  | returnLoaned loanedMessage =>
    simp only [publisherCall, rmwReturnLoanedMessageFromPublisher]
    split
    · exact (rejected_explains (checkReturnLoan_explains _ _) ‹_›).mpr
    · exact (finished_explains _ _ _ _).mpr
  | publishLoaned port rosMessage =>
    simp only [publisherCall, rmwPublishLoanedMessage]
    split
    · exact (rejected_explains (checkPublisher_explains _ _ _) ‹_›).mpr
    · exact (finished_explains _ _ _ _).mpr
  | publishSerialized port serializedMessage =>
    simp only [publisherCall, rmwPublishSerializedMessage]
    split
    · exact (rejected_explains (checkPublisher_explains _ _ _) ‹_›).mpr
    · exact (finished_explains _ _ _ _).mpr

theorem ended_explains {r : Except (Failure RmwRet) α} {f : Failure RmwRet} {silent : Prop}
    (hr : Explains Fails silent r) (hf : r = .error f) (hsilent : ¬ silent)
    (subscription : Option (RmwSubscription M)) (taken : Option Bool) :
    (SubscriptionOutcome.ended f.error f.chain subscription taken).ret = .ok ↔
      (SubscriptionOutcome.ended f.error f.chain subscription taken).chain = [] :=
  iff_of_false (hr f hf).1 fun hnil ↦ hsilent ((hr f hf).2 hnil)

/-- A loan that is asked for, or given back, where there are no loans. -/
def LoanRefused (h : RmwSubscription M) : SubscriptionOp M → Prop
  | .takeLoaned _ _ _ | .returnLoaned _ => WithoutLoans h
  | _ => False

/-- A call on a subscription chains a message exactly if it fails, unless it is about a loan where
there are none. -/
theorem subscriptionCall_explains (h : RmwSubscription M) (op : SubscriptionOp M) :
    ((subscriptionCall h op).ret = .ok ↔ (subscriptionCall h op).chain = []) ↔
      ¬ LoanRefused h op := by
  cases op with
  | take port rosMessage taken =>
    refine iff_of_true ?_ id
    simp only [subscriptionCall, rmwTake]
    split
    · exact ended_explains (checkTake_explains _ _ _ _) ‹_› id _ _
    · split
      · simp only [takeRaw]
        split
        · exact failed_explains
        · exact iff_of_true rfl rfl
        · exact iff_of_true rfl rfl
      · simp only [takeDeserialized]
        split
        · exact failed_explains
        · exact iff_of_true rfl rfl
        · split
          · exact failed_explains
          · split
            · exact failed_explains
            · exact iff_of_true rfl rfl
  | takeSerialized port resize serializedMessage taken =>
    refine iff_of_true ?_ id
    simp only [subscriptionCall, rmwTakeSerializedMessage]
    split
    · exact ended_explains (checkTake_explains _ _ _ _) ‹_› id _ _
    · split
      · exact failed_explains
      · exact iff_of_true rfl rfl
      · split
        · exact failed_explains
        · split
          · exact failed_explains
          · exact iff_of_true rfl rfl
  | takeLoaned port loanedMessage taken =>
    by_cases hno : WithoutLoans h
    · refine iff_of_false ?_ (not_not.mpr hno)
      simp only [subscriptionCall, rmwTakeLoanedMessage,
        checkTakeLoaned_withoutLoans hno loanedMessage taken]
      intro hiff
      cases hiff.mpr rfl
    · refine iff_of_true ?_ hno
      simp only [subscriptionCall, rmwTakeLoanedMessage]
      split
      · exact ended_explains (checkTakeLoaned_explains _ _ _) ‹_› hno _ _
      · split
        · exact failed_explains
        · exact iff_of_true rfl rfl
        · exact iff_of_true rfl rfl
  | returnLoaned loanedMessage =>
    by_cases hno : WithoutLoans h
    · refine iff_of_false ?_ (not_not.mpr hno)
      simp only [subscriptionCall, rmwReturnLoanedMessageFromSubscription,
        checkReturnLoanedMessage_withoutLoans hno loanedMessage]
      intro hiff
      cases hiff.mpr rfl
    · refine iff_of_true ?_ hno
      simp only [subscriptionCall, rmwReturnLoanedMessageFromSubscription]
      split
      · exact ended_explains (checkReturnLoanedMessage_explains _ _) ‹_› hno _ _
      · split
        · exact failed_explains
        · exact iff_of_true rfl rfl

end Calls

section Creation

variable {env : EndpointAnswers} {rmwNode : Option RmwNode} {typeSupport : Option (TypeSupport M)}
  {topicName : Option String} {qos : Option QosProfile} {options : Option Unit}

def PolicyUnknown (qos : Option QosProfile) : Prop :=
  ∃ q, qos = some q ∧ (q.history = .unknown ∨ q.reliability = .unknown ∨ q.durability = .unknown ∨
    q.liveliness = .unknown)

def NameUnchecked (env : EndpointAnswers) (topicName : Option String) : Prop :=
  ∃ topic, topicName = some topic ∧ env.validateFullTopicName topic = none

def Unexplained (env : EndpointAnswers) (topicName : Option String) (qos : Option QosProfile) :
    Prop := PolicyUnknown qos ∨ NameUnchecked env topicName

theorem explains_validTopicName (topic : String) :
    Explains (fun _ : Unit ↦ True) (Unexplained env (some topic) qos)
      (ensureValidTopicName env () topic) := by
  rw [ensureValidTopicName]
  split
  · exact explains_silent trivial (Or.inr ⟨topic, rfl, ‹_›⟩)
  · exact explains_ok _
  · exact explains_throw trivial _ _

theorem checkEndpoint_explains (qosArgument optionsArgument : String) :
    Explains (fun _ ↦ True) (Unexplained env topicName qos)
      (checkEndpoint env rmwNode typeSupport topicName qosArgument qos optionsArgument options) := by
  refine (explains_notNull _ trivial _).bind fun node _ ↦ ?_
  refine (explains_notNull _ trivial _).bind fun impl _ ↦ ?_
  refine (explains_notNull _ trivial _).bind fun _ _ ↦ ?_
  refine (explains_implementation _ trivial _).bind fun _ _ ↦ ?_
  refine (explains_notNull _ trivial _).bind fun t _ ↦ ?_
  refine Explains.bind ?_ fun _ _ ↦ ?_
  · rw [ensureValidTypesupport]
    split
    · exact explains_throw trivial _ _
    · exact explains_ok _
  refine (explains_notNull _ trivial _).bind fun topic htopic ↦ ?_
  obtain rfl : topicName = some topic := by simpa using htopic
  refine (explains_notNull _ trivial _).bind fun q hq ↦ ?_
  obtain rfl : qos = some q := by simpa using hq
  refine Explains.bind ?_ fun _ _ ↦ ?_
  · rw [ensureValidQos]
    split
    · exact explains_silent trivial (Or.inl ⟨q, rfl, ‹_›⟩)
    · exact explains_ok _
  split
  · refine (explains_validTopicName topic).bind fun _ _ ↦ ?_
    exact (explains_notNull _ trivial _).bind fun _ _ ↦ explains_pure _
  · exact (explains_notNull _ trivial _).bind fun _ _ ↦ explains_pure _

theorem allocateEndpoint_explains {silent : Prop} (node : RmwNode) (handleMsg implMsg : String) :
    Explains (fun _ ↦ True) silent (allocateEndpoint env node handleMsg implMsg) := by
  rw [allocateEndpoint]
  refine explains_unless trivial _ _ ?_
  refine explains_unless trivial _ _ ?_
  refine (explains_cast _ trivial _).bind fun _ _ ↦ ?_
  split
  · exact explains_throw trivial _ _
  · exact explains_pure _

theorem rmwCreatePublisher_explains (mw : CreationAnswers) :
    Explains (fun _ ↦ True) (Unexplained env topicName qos)
      (rmwCreatePublisher env mw rmwNode typeSupport topicName qos options) := by
  refine (checkEndpoint_explains _ _).bind fun checked _ ↦ ?_
  refine (allocateEndpoint_explains _ _ _).bind fun _ _ ↦ ?_
  split
  · exact explains_throw trivial _ _
  · exact explains_pure _

theorem rmwCreateSubscription_explains (mw : SubscriberCreationAnswers) :
    Explains (fun _ ↦ True) (Unexplained env topicName qos)
      (rmwCreateSubscription env mw rmwNode typeSupport topicName qos options) := by
  refine (checkEndpoint_explains _ _).bind fun checked _ ↦ ?_
  refine (allocateEndpoint_explains _ _ _).bind fun _ _ ↦ ?_
  split
  · exact explains_throw trivial _ _
  · exact explains_pure _

end Creation

/-- No call on an endpoint fails without a message, but for those about loans where there are none,
which always do; and an endpoint whose creation fails without one was asked for with an unknown
policy or a name that could not be validated. -/
theorem failures_explained :
    (∀ (h : RmwPublisher M) (op : PublisherOp M),
      (publisherCall h op).ret ≠ .ok → (publisherCall h op).chain ≠ []) ∧
    (∀ (h : RmwSubscription M) (op : SubscriptionOp M),
      ((subscriptionCall h op).ret ≠ .ok ∧ (subscriptionCall h op).chain = []) ↔
        LoanRefused h op) ∧
    (∀ (env : EndpointAnswers) (mw : CreationAnswers) (node : Option RmwNode)
      (typeSupport : Option (TypeSupport M)) (topicName : Option String) (qos : Option QosProfile)
      (options : Option Unit) (f : Failure Unit),
      rmwCreatePublisher env mw node typeSupport topicName qos options = .error f →
        f.chain = [] → Unexplained env topicName qos) ∧
    ∀ (env : EndpointAnswers) (mw : SubscriberCreationAnswers) (node : Option RmwNode)
      (typeSupport : Option (TypeSupport M)) (topicName : Option String) (qos : Option QosProfile)
      (options : Option Unit) (f : Failure Unit),
      rmwCreateSubscription env mw node typeSupport topicName qos options = .error f →
        f.chain = [] → Unexplained env topicName qos := by
  refine ⟨?_, ?_, ?_, ?_⟩
  · intro h op hfails hnil
    exact hfails (publisherCall_explains h op hnil)
  · intro h op
    constructor
    · intro hquiet
      obtain ⟨hfails, hnil⟩ := hquiet
      by_contra hno
      exact hfails (((subscriptionCall_explains h op).mpr hno).mpr hnil)
    · intro hno
      cases op with
      | take port rosMessage taken => exact hno.elim
      | takeSerialized port resize serializedMessage taken => exact hno.elim
      | takeLoaned port loanedMessage taken =>
        simp only [subscriptionCall, rmwTakeLoanedMessage,
          checkTakeLoaned_withoutLoans hno loanedMessage taken]
        simp [SubscriptionOutcome.ended]
      | returnLoaned loanedMessage =>
        simp only [subscriptionCall, rmwReturnLoanedMessageFromSubscription,
          checkReturnLoanedMessage_withoutLoans hno loanedMessage]
        simp [SubscriptionOutcome.ended]
  · intro env mw node typeSupport topicName qos options f hf
    exact (rmwCreatePublisher_explains mw f hf).2
  · intro env mw node typeSupport topicName qos options f hf
    exact (rmwCreateSubscription_explains mw f hf).2

def textWriter : RmwPublisher Text :=
  publisherHandle ⟨"/chatter", textTypeSupport, 32, Names.topic "/chatter", 32, .empty _⟩

def textReader : RmwSubscription Text :=
  subscriptionHandle ⟨"/chatter", textTypeSupport, Names.topic "/chatter", .empty _⟩

/-- Texts are not lent: asking for a loan is refused silently, and borrowing one is not. -/
theorem failures_explained_text :
    (publisherCall textWriter
      (.borrow grantingPort (some textTypeSupport) (some none))).chain ≠ [] ∧
    ((subscriptionCall textReader (.takeLoaned (.ok none) (some none) (some false))).ret ≠ .ok ∧
      (subscriptionCall textReader (.takeLoaned (.ok none) (some none) (some false))).chain = []) ∧
    Unexplained ⟨fun _ ↦ "", fun _ ↦ some none, true, true, true⟩ (some "/chatter")
      (some ⟨.unknown, .reliable, .volatile, .automatic, false⟩) := by
  obtain ⟨hpublisher, hsubscription, hcreate, -⟩ := failures_explained (M := Text)
  refine ⟨?_, ?_, ?_⟩
  · exact hpublisher textWriter _ (by decide)
  · exact (hsubscription textReader _).mpr ⟨rfl, rfl⟩
  · exact hcreate _ ⟨fun _ ↦ .ok (), fun _ ↦ .ok (), fun _ ↦ .ok (), fun _ ↦ .ok (), .ok ()⟩
      (some ⟨rmwGetImplementationIdentifier, some (some ()), some ()⟩) (some textTypeSupport) _ _
      (some ()) ⟨(), []⟩ rfl rfl

end RmwIceoryx2.Rmw
