import RmwIceoryx2.Runtime.Subscriber
import RmwIceoryx2.Rmw.Serialize

namespace RmwIceoryx2.Rmw

open RmwIceoryx2.Common RmwIceoryx2.Runtime RmwIceoryx2.Message

/-- `rmw_subscription_t`; `none` stands for a null `data` pointer. -/
structure RmwSubscription (M : Type) where
  implementationIdentifier : String
  canLoanMessages : Bool
  data : Option (Subscriber M)

/-- What a take writes through the destination pointer: the bytes copied to it, the value
deserialized into it, or what an exception left of one. -/
inductive Written (M : Type)
  | raw (bytes : Bytes)
  | deserialized (value : M)
  | unfinished
  deriving DecidableEq, Repr

structure SubscriptionOutcome (M : Type) where
  ret : RmwRet
  chain : List String
  subscription : Option (RmwSubscription M)
  taken : Option Bool
  written : Option (Written M)
  loaned : Option SubscriberLoan
  serialized : Option SerializedMessage

variable {M : Type}

def SubscriptionOutcome.ended (ret : RmwRet) (chain : List String)
    (subscription : Option (RmwSubscription M)) (taken : Option Bool) : SubscriptionOutcome M :=
  ⟨ret, chain, subscription, taken, none, none, none⟩

/-- The checks that `rmw_take` and `rmw_take_serialized_message` begin with; `taken` is given as
the value behind its pointer. -/
def checkTake {α : Type} (rmwSubscription : Option (RmwSubscription M)) (argument : String)
    (value : Option α) (taken : Option Bool) :
    Except (Failure RmwRet) (RmwSubscription M × Subscriber M × α) := do
  let h ← ensureNotNull "rmw_subscription" .invalidArgument rmwSubscription
  ensureImplementation "rmw_subscription->implementation_identifier" .incorrectRmwImplementation
    h.implementationIdentifier
  let value ← ensureNotNull argument .invalidArgument value
  let _ ← ensureNotNull "taken" .invalidArgument taken
  let s ← uncheckedCast "failed to retrieve Subscriber" .error h.data
  return (h, s, value)

def takeRaw (port : SubscriberPort) (h : RmwSubscription M) (taken : Option Bool) :
    SubscriptionOutcome M :=
  match Subscriber.takeCopy port with
  | .error f => .ended .error ("failed to take copy from subscriber" :: f.chain) (some h) taken
  | .ok none => .ended .ok [] (some h) (some false)
  | .ok (some bytes) => { SubscriptionOutcome.ended .ok [] (some h) (some true) with
      written := some (.raw bytes) }

def takeDeserialized (port : SubscriberPort) (h : RmwSubscription M) (s : Subscriber M)
    (rosMessage : RosMessage M) (taken : Option Bool) : SubscriptionOutcome M :=
  match s.takeLoan port with
  | (s, .error f) => .ended .error ("failed to take loan from subscriber" :: f.chain)
      (some { h with data := some s }) taken
  | (s, .ok none) => .ended .ok [] (some { h with data := some s }) (some false)
  | (s, .ok (some loan)) =>
    match rmwDeserialize (some ⟨loan.payload, loan.numberOfBytes, loan.numberOfBytes⟩)
        (some s.typesupport) (some rosMessage) with
    | .error f =>
      { SubscriptionOutcome.ended .error ("failed to deserialize received message" :: f.chain)
          (some { h with data := some s }) (some true) with written := some .unfinished }
    | .ok value =>
      match s.returnLoan loan.bytes with
      | (s, .error f) =>
        { SubscriptionOutcome.ended .error
            ("failed to return loaned serialized payload" :: f.chain)
            (some { h with data := some s }) (some true) with
          written := some (.deserialized value) }
      | (s, .ok ()) =>
        { SubscriptionOutcome.ended .ok [] (some { h with data := some s }) (some true) with
          written := some (.deserialized value) }

def rmwTake (port : SubscriberPort) (rmwSubscription : Option (RmwSubscription M))
    (rosMessage : Option (RosMessage M)) (taken : Option Bool) : SubscriptionOutcome M :=
  match checkTake rmwSubscription "ros_message" rosMessage taken with
  | .error f => .ended f.error f.chain rmwSubscription taken
  | .ok (h, s, rosMessage) =>
    if h.canLoanMessages then takeRaw port h taken
    else takeDeserialized port h s rosMessage taken

/-- `*loaned_message` is given as the address it holds, if any. -/
def checkTakeLoaned (rmwSubscription : Option (RmwSubscription M))
    (loanedMessage : Option (Option Address)) (taken : Option Bool) :
    Except (Failure RmwRet) (RmwSubscription M × Subscriber M) := do
  let h ← ensureNotNull "rmw_subscription" .invalidArgument rmwSubscription
  ensureImplementation "rmw_subscription->implementation_identifier" .incorrectRmwImplementation
    h.implementationIdentifier
  ensureCanLoan .unsupported h.canLoanMessages
  let _ ← ensureNotNull "taken" .invalidArgument taken
  let message ← ensureNotNull "loaned_message" .invalidArgument loanedMessage
  if message.isSome then throw ⟨.invalidArgument, ["*loaned_message argument is not null"]⟩
  if !h.canLoanMessages then
    throw ⟨.invalidArgument, ["non-self-contained messages do not support loaning"]⟩
  let s ← uncheckedCast "failed to retrieve Subscriber" .error h.data
  return (h, s)

def rmwTakeLoanedMessage (port : SubscriberPort) (rmwSubscription : Option (RmwSubscription M))
    (loanedMessage : Option (Option Address)) (taken : Option Bool) : SubscriptionOutcome M :=
  match checkTakeLoaned rmwSubscription loanedMessage taken with
  | .error f => .ended f.error f.chain rmwSubscription taken
  | .ok (h, s) =>
    match s.takeLoan port with
    | (s, .error f) => .ended .error ("failed to take sample from subscriber" :: f.chain)
        (some { h with data := some s }) taken
    | (s, .ok none) => .ended .ok [] (some { h with data := some s }) (some false)
    | (s, .ok (some loan)) =>
      { SubscriptionOutcome.ended .ok [] (some { h with data := some s }) (some true) with
        loaned := some loan }

def checkReturnLoanedMessage (rmwSubscription : Option (RmwSubscription M))
    (loanedMessage : Option Address) :
    Except (Failure RmwRet) (RmwSubscription M × Subscriber M × Address) := do
  let h ← ensureNotNull "rmw_subscription" .invalidArgument rmwSubscription
  ensureImplementation "rmw_subscription->implementation_identifier" .incorrectRmwImplementation
    h.implementationIdentifier
  ensureCanLoan .unsupported h.canLoanMessages
  let message ← ensureNotNull "loaned_message" .invalidArgument loanedMessage
  if !h.canLoanMessages then
    throw ⟨.invalidArgument, ["non-self-contained messages do not support loaning"]⟩
  let s ← uncheckedCast "failed to retrieve Subscriber" .error h.data
  return (h, s, message)

def rmwReturnLoanedMessageFromSubscription (rmwSubscription : Option (RmwSubscription M))
    (loanedMessage : Option Address) : SubscriptionOutcome M :=
  match checkReturnLoanedMessage rmwSubscription loanedMessage with
  | .error f => .ended f.error f.chain rmwSubscription none
  | .ok (h, s, loanedMessage) =>
    match s.returnLoan loanedMessage with
    | (s, .error f) =>
      .ended .error ("failed to return loaned message to publisher" :: f.chain)
        (some { h with data := some s }) none
    | (s, .ok ()) => .ended .ok [] (some { h with data := some s }) none

/-- `resize` is `rmw_serialized_message_resize`, with no result where it fails. The length field of
the message is left to it. -/
def rmwTakeSerializedMessage (port : SubscriberPort)
    (resize : SerializedMessage → ℕ → Option SerializedMessage)
    (rmwSubscription : Option (RmwSubscription M)) (serializedMessage : Option SerializedMessage)
    (taken : Option Bool) : SubscriptionOutcome M :=
  match checkTake rmwSubscription "serialized_message" serializedMessage taken with
  | .error f => .ended f.error f.chain rmwSubscription taken
  | .ok (h, s, serializedMessage) =>
    match s.takeLoan port with
    | (s, .error f) => .ended .error ("failed to take loan from subscriber" :: f.chain)
        (some { h with data := some s }) taken
    | (s, .ok none) => .ended .ok [] (some { h with data := some s }) (some false)
    | (s, .ok (some loan)) =>
      match resize serializedMessage loan.numberOfBytes with
      | none =>
        .ended .error ["failed to resize serialized message to store received payload"]
          (some { h with data := some s }) (some true)
      | some resized =>
        let copied := { resized with
          buffer := loan.payload ++ resized.buffer.drop loan.numberOfBytes }
        match s.returnLoan loan.bytes with
        | (s, .error f) =>
          { SubscriptionOutcome.ended .error
              ("failed to return loaned serialized payload" :: f.chain)
              (some { h with data := some s }) (some true) with serialized := some copied }
        | (s, .ok ()) =>
          { SubscriptionOutcome.ended .ok [] (some { h with data := some s }) (some true) with
            serialized := some copied }

/-- What the application can ask of a subscription, each time with the answers of the middleware
and of the allocator. -/
inductive SubscriptionOp (M : Type)
  | take (port : SubscriberPort) (rosMessage : Option (RosMessage M)) (taken : Option Bool)
  | takeSerialized (port : SubscriberPort)
    (resize : SerializedMessage → ℕ → Option SerializedMessage)
    (serializedMessage : Option SerializedMessage) (taken : Option Bool)
  | takeLoaned (port : SubscriberPort) (loanedMessage : Option (Option Address))
    (taken : Option Bool)
  | returnLoaned (loanedMessage : Option Address)

def subscriptionCall (h : RmwSubscription M) : SubscriptionOp M → SubscriptionOutcome M
  | .take port rosMessage taken => rmwTake port (some h) rosMessage taken
  | .takeSerialized port resize serializedMessage taken =>
    rmwTakeSerializedMessage port resize (some h) serializedMessage taken
  | .takeLoaned port loanedMessage taken => rmwTakeLoanedMessage port (some h) loanedMessage taken
  | .returnLoaned loanedMessage => rmwReturnLoanedMessageFromSubscription (some h) loanedMessage

def subscriptionExec (h : RmwSubscription M) (op : SubscriptionOp M) : RmwSubscription M :=
  (subscriptionCall h op).subscription.getD h

def subscriptionHandle (s : Subscriber M) : RmwSubscription M :=
  ⟨rmwGetImplementationIdentifier, isPod s.typesupport, some s⟩

theorem checkTake_handle {α : Type} (s : Subscriber M) (argument : String) (value : α)
    (taken : Bool) : checkTake (some (subscriptionHandle s)) argument (some value) (some taken) =
      .ok (subscriptionHandle s, s, value) := rfl

theorem rmwTake_handle (port : SubscriberPort) (s : Subscriber M) (rosMessage : RosMessage M)
    (taken : Bool) :
    rmwTake port (some (subscriptionHandle s)) (some rosMessage) (some taken) =
      if isPod s.typesupport then takeRaw port (subscriptionHandle s) (some taken)
      else takeDeserialized port (subscriptionHandle s) s rosMessage (some taken) := by
  rw [rmwTake, checkTake_handle]
  rfl

section Received

variable {h : RmwSubscription M} {s : Subscriber M} {m : RosMessage M} {taken : Option Bool}
  {sample : Sample}

theorem takeDeserialized_ok {value : M} {callbacks : Callbacks M}
    (hunused : s.registry.Unused sample)
    (hcpp : s.typesupport.fastrtpsCpp = some (some callbacks))
    (hvalue : callbacks.cdrDeserialize sample.payload = .ok value) :
    takeDeserialized (.ok (some sample)) h s m taken =
      { SubscriptionOutcome.ended .ok [] (some { h with data := some s }) (some true) with
        written := some (.deserialized value) } := by
  have hread : rmwDeserialize (some ⟨sample.payload, sample.payload.length, sample.payload.length⟩)
      (some (s.holding sample).typesupport) (some m) = .ok value :=
    rmwDeserialize_ok.mpr ⟨callbacks, hcpp, hvalue⟩
  simp only [takeDeserialized, Subscriber.takeLoan_received rfl hunused,
    SubscriberLoan.numberOfBytes, hread, Subscriber.returnLoan_holding hunused]

theorem takeDeserialized_failed (hunused : s.registry.Unused sample)
    (hno : ∀ callbacks value, s.typesupport.fastrtpsCpp = some (some callbacks) →
      callbacks.cdrDeserialize sample.payload ≠ .ok value) :
    ∃ chain, takeDeserialized (.ok (some sample)) h s m taken =
      { SubscriptionOutcome.ended .error chain (some { h with data := some (s.holding sample) })
          (some true) with written := some .unfinished } := by
  simp only [takeDeserialized, Subscriber.takeLoan_received rfl hunused,
    SubscriberLoan.numberOfBytes]
  cases hread : rmwDeserialize (some ⟨sample.payload, sample.payload.length,
      sample.payload.length⟩) (some (s.holding sample).typesupport) (some m) with
  | error f => exact ⟨_, rfl⟩
  | ok value =>
    obtain ⟨callbacks, hcpp, hvalue⟩ := rmwDeserialize_ok.mp hread
    exact absurd hvalue (hno callbacks value hcpp)

end Received

theorem takeLoan_serviceName (port : SubscriberPort) (s : Subscriber M) :
    (s.takeLoan port).1.serviceName = s.serviceName := by
  unfold Subscriber.takeLoan
  split <;> rfl

theorem returnLoan_serviceName (s : Subscriber M) (ptr : Address) :
    (s.returnLoan ptr).1.serviceName = s.serviceName := by
  unfold Subscriber.returnLoan
  split <;> rfl

theorem rmwTake_taken {received : Option Sample} {s : Subscriber M} {m : RosMessage M} {b : Bool}
    (h : (rmwTake (.ok received) (some (subscriptionHandle s)) (some m) (some b)).ret = .ok) :
    (rmwTake (.ok received) (some (subscriptionHandle s)) (some m) (some b)).taken =
        some received.isSome ∧
      ((((rmwTake (.ok received) (some (subscriptionHandle s)) (some m) (some b)).subscription.bind
        (·.data)).getD s).serviceName = s.serviceName) := by
  rw [rmwTake_handle] at h ⊢
  split
  · cases received <;> exact ⟨rfl, rfl⟩
  · rename_i hpod
    rw [if_neg hpod] at h
    cases received with
    | none => exact ⟨rfl, rfl⟩
    | some sample =>
      have htake := takeLoan_serviceName (.ok (some sample)) s
      simp only [takeDeserialized, Subscriber.takeLoan] at h htake ⊢
      split at h
      · simp [SubscriptionOutcome.ended] at h
      · rename_i hread
        have hreturn := returnLoan_serviceName
          { s with registry := (s.registry.store sample).1 } sample.address
        split at h
        · simp [SubscriptionOutcome.ended] at h
        · rename_i s' hs'
          rw [hs'] at hreturn
          exact ⟨rfl, hreturn⟩

theorem checkTake_eq_ok {α : Type} {h : RmwSubscription M} {argument : String} {value : Option α}
    {taken : Option Bool} {checked : RmwSubscription M × Subscriber M × α} :
    checkTake (some h) argument value taken = .ok checked ↔
      h.implementationIdentifier = rmwGetImplementationIdentifier ∧ taken.isSome ∧
        ∃ s v, h.data = some s ∧ value = some v ∧ checked = (h, s, v) := by
  simp only [checkTake, bind_eq_ok, ensureNotNull_eq_ok, ensureImplementation_eq_ok,
    uncheckedCast_eq_ok, Option.some_inj, exists_eq_left', exists_const, exists_and_left, pure,
    Except.pure, Except.ok.injEq, Option.isSome_iff_exists]
  refine ⟨fun h ↦ ?_, fun h ↦ ?_⟩
  · obtain ⟨hid, v, hv, t, ht, s, hs, rfl⟩ := h
    exact ⟨hid, ⟨t, ht⟩, s, hs, v, hv, rfl⟩
  · obtain ⟨hid, ⟨t, ht⟩, s, hs, v, hv, rfl⟩ := h
    exact ⟨hid, v, hv, t, ht, s, hs, rfl⟩

variable {h : RmwSubscription M}

theorem checkTake_rejects {α : Type} {argument : String} {value : Option α} {taken : Option Bool}
    {f : Failure RmwRet} (hf : checkTake (some h) argument value taken = .error f) :
    f.error ≠ .ok := by
  simp only [checkTake, bind_eq_error, ensureNotNull_eq_ok, ensureNotNull_eq_error,
    ensureImplementation_eq_ok, ensureImplementation_eq_error, uncheckedCast_eq_error, pure,
    Except.pure, reduceCtorEq, and_false, exists_false, or_false] at hf
  obtain ⟨h, -⟩ | ⟨_, -, ⟨-, rfl⟩ | ⟨_, -, ⟨-, rfl⟩ | ⟨_, -, ⟨-, rfl⟩ | ⟨_, -, -, rfl⟩⟩⟩⟩ := hf
  · cases h
  all_goals simp

theorem checkTakeLoaned_ok {loanedMessage : Option (Option Address)} {taken : Option Bool}
    {h' : RmwSubscription M} {s : Subscriber M}
    (hok : checkTakeLoaned (some h) loanedMessage taken = .ok (h', s)) :
    h' = h ∧ h.canLoanMessages = true := by
  simp only [checkTakeLoaned, bind_eq_ok, ensureNotNull_eq_ok, ensureCanLoan_eq_ok,
    Option.some_inj] at hok
  obtain ⟨_, rfl, -, -, -, hloans, _, -, message, -, hok⟩ := hok
  refine ⟨?_, hloans⟩
  cases message with
  | some ptr => simp [bind, Except.bind, throw, throwThe, MonadExceptOf.throw] at hok
  | none =>
    simp only [hloans, Option.isSome_none, Bool.false_eq_true, if_false, Bool.not_true, bind_eq_ok,
      uncheckedCast_eq_ok, pure, Except.pure, Except.ok.injEq, Prod.mk.injEq] at hok
    obtain ⟨_, -, rfl, -⟩ := hok
    rfl

theorem checkReturnLoanedMessage_ok {loanedMessage : Option Address} {h' : RmwSubscription M}
    {s : Subscriber M} {ptr : Address}
    (hok : checkReturnLoanedMessage (some h) loanedMessage = .ok (h', s, ptr)) : h' = h := by
  simp only [checkReturnLoanedMessage, bind_eq_ok, ensureNotNull_eq_ok, ensureCanLoan_eq_ok,
    Option.some_inj] at hok
  obtain ⟨_, rfl, -, -, -, hloans, _, -, hok⟩ := hok
  simp only [hloans, Bool.not_true, Bool.false_eq_true, if_false, bind_eq_ok, uncheckedCast_eq_ok,
    pure, Except.pure, Except.ok.injEq, Prod.mk.injEq] at hok
  obtain ⟨_, -, rfl, -⟩ := hok
  rfl

theorem subscriptionExec_handle (h : RmwSubscription M) (op : SubscriptionOp M) :
    ∃ data, subscriptionExec h op = { h with data := data } := by
  cases op with
  | take port rosMessage taken =>
    simp only [subscriptionExec, subscriptionCall, rmwTake]
    cases hcheck : checkTake (some h) "ros_message" rosMessage taken with
    | error f => exact ⟨h.data, rfl⟩
    | ok checked =>
      obtain ⟨-, -, s, m, -, -, rfl⟩ := checkTake_eq_ok.mp hcheck
      simp only [takeRaw, takeDeserialized]
      repeat' split
      all_goals exact ⟨_, rfl⟩
  | takeSerialized port resize serializedMessage taken =>
    simp only [subscriptionExec, subscriptionCall, rmwTakeSerializedMessage]
    cases hcheck : checkTake (some h) "serialized_message" serializedMessage taken with
    | error f => exact ⟨h.data, rfl⟩
    | ok checked =>
      obtain ⟨-, -, s, m, -, -, rfl⟩ := checkTake_eq_ok.mp hcheck
      simp only
      repeat' split
      all_goals exact ⟨_, rfl⟩
  | takeLoaned port loanedMessage taken =>
    simp only [subscriptionExec, subscriptionCall, rmwTakeLoanedMessage]
    split
    · exact ⟨h.data, rfl⟩
    · rename_i hok
      obtain rfl := (checkTakeLoaned_ok hok).1
      repeat' split
      all_goals exact ⟨_, rfl⟩
  | returnLoaned loanedMessage =>
    simp only [subscriptionExec, subscriptionCall, rmwReturnLoanedMessageFromSubscription]
    split
    · exact ⟨h.data, rfl⟩
    · rename_i hok
      obtain rfl := checkReturnLoanedMessage_ok hok
      split
      all_goals exact ⟨_, rfl⟩

end RmwIceoryx2.Rmw
