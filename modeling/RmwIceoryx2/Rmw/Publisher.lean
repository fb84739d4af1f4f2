import RmwIceoryx2.Runtime.Publisher
import RmwIceoryx2.Rmw.Serialize

namespace RmwIceoryx2.Rmw

open RmwIceoryx2.Common RmwIceoryx2.Runtime RmwIceoryx2.Message

/-- `rmw_publisher_t`; `none` stands for a null `data` pointer. -/
structure RmwPublisher (M : Type) where
  implementationIdentifier : String
  canLoanMessages : Bool
  data : Option (Publisher M)

/-- What a call leaves behind, asks of the middleware, hands out and returns. -/
structure PublisherOutcome (M : Type) where
  ret : RmwRet
  chain : List String
  publisher : Option (RmwPublisher M)
  requests : List PortRequest
  loaned : Option Address

variable {M : Type}

def PublisherOutcome.rejected (rmwPublisher : Option (RmwPublisher M)) (f : Failure RmwRet) :
    PublisherOutcome M := ⟨f.error, f.chain, rmwPublisher, [], none⟩

/-- A call that ends with the given operation of the publisher. -/
def PublisherOutcome.finished (h : RmwPublisher M) (earlier : List PortRequest) (msg : String)
    (r : Publisher.Return M Unit) : PublisherOutcome M where
  ret := match r.result with | .ok _ => .ok | .error _ => .error
  chain := match r.result with | .ok _ => [] | .error f => msg :: f.chain
  publisher := some { h with data := some r.publisher }
  requests := earlier ++ r.requests
  loaned := none

def checkPublisher {α : Type} (rmwPublisher : Option (RmwPublisher M)) (argument : String)
    (value : Option α) : Except (Failure RmwRet) (RmwPublisher M × Publisher M × α) := do
  let h ← ensureNotNull "rmw_publisher" .invalidArgument rmwPublisher
  ensureImplementation "rmw_publisher->implementation_identifier" .incorrectRmwImplementation
    h.implementationIdentifier
  let value ← ensureNotNull argument .invalidArgument value
  let p ← uncheckedCast "failed to retrieve Publisher" .error h.data
  return (h, p, value)

/-- The second half of `rmw_publish`, for messages that are not self-contained. -/
def publishSerialized (port : PublisherPort) (h : RmwPublisher M) (p : Publisher M)
    (rosMessage : RosMessage M) : PublisherOutcome M :=
  let serializedSize := serializedMessageSize rosMessage p.typesupport
  let loan := p.loan port serializedSize
  match loan.result with
  | .error f => ⟨.error, "failed to loan bytes required for serialization" :: f.chain,
      some { h with data := some loan.publisher }, loan.requests, none⟩
  | .ok ptr =>
    let buffer := ((loan.publisher.registry.retrieve ptr).map (·.payload)).getD []
    match rmwSerialize (some rosMessage) (some p.typesupport)
        (some ⟨buffer, serializedSize, serializedSize⟩) with
    | .error f => ⟨.error, "failed to serialize into loaned payload" :: f.chain,
        some { h with data := some loan.publisher }, loan.requests, none⟩
    | .ok written =>
      .finished h loan.requests "failed to publish serialized payload"
        ((loan.publisher.writeLoan ptr written.buffer).publishLoan port ptr)

def rmwPublish (port : PublisherPort) (rmwPublisher : Option (RmwPublisher M))
    (rosMessage : Option (RosMessage M)) : PublisherOutcome M :=
  match checkPublisher rmwPublisher "ros_message" rosMessage with
  | .error f => .rejected rmwPublisher f
  | .ok (h, p, rosMessage) =>
    if h.canLoanMessages then
      .finished h [] "failed to publish copy"
        (p.publishCopy port rosMessage.bytes p.unserializedSize)
    else publishSerialized port h p rosMessage

/-- `*ros_message` is given as the address it holds, if any. -/
def checkBorrow (rmwPublisher : Option (RmwPublisher M)) (typeSupport : Option (TypeSupport M))
    (rosMessage : Option (Option Address)) :
    Except (Failure RmwRet) (RmwPublisher M × Publisher M) := do
  let h ← ensureNotNull "rmw_publisher" .invalidArgument rmwPublisher
  let p ← ensureNotNull "rmw_publisher->data" .invalidArgument h.data
  ensureImplementation "rmw_publisher->implementation_identifier" .incorrectRmwImplementation
    h.implementationIdentifier
  let _ ← ensureNotNull "type_support" .invalidArgument typeSupport
  let message ← ensureNotNull "ros_message" .invalidArgument rosMessage
  if message.isSome then throw ⟨.invalidArgument, ["*ros_message argument is not null"]⟩
  if !h.canLoanMessages then
    throw ⟨.invalidArgument, ["non-self-contained messages do not support loaning"]⟩
  return (h, p)

def rmwBorrowLoanedMessage (port : PublisherPort) (rmwPublisher : Option (RmwPublisher M))
    (typeSupport : Option (TypeSupport M)) (rosMessage : Option (Option Address)) :
    PublisherOutcome M :=
  match checkBorrow rmwPublisher typeSupport rosMessage with
  | .error f => .rejected rmwPublisher f
  | .ok (h, p) =>
    let loan := p.loan port (messageSize p.typesupport)
    let sizeChain := messageSizeChain p.typesupport
    match loan.result with
    | .error f => ⟨.error, "failed to loan memory for publisher payload" :: (f.chain ++ sizeChain),
        some { h with data := some loan.publisher }, loan.requests, none⟩
    | .ok ptr =>
      ⟨.ok, sizeChain, some { h with data := some loan.publisher }, loan.requests, some ptr⟩

def checkReturnLoan (rmwPublisher : Option (RmwPublisher M)) (loanedMessage : Option Address) :
    Except (Failure RmwRet) (RmwPublisher M × Publisher M × Address) := do
  let h ← ensureNotNull "rmw_publisher" .invalidArgument rmwPublisher
  let loanedMessage ← ensureNotNull "loaned_message" .invalidArgument loanedMessage
  ensureImplementation "rmw_publisher->implementation_identifier" .incorrectRmwImplementation
    h.implementationIdentifier
  if !h.canLoanMessages then
    throw ⟨.invalidArgument, ["non-self-contained messages do not support loaning"]⟩
  let p ← uncheckedCast "failed to retrieve Publisher" .error h.data
  return (h, p, loanedMessage)

def rmwReturnLoanedMessageFromPublisher (rmwPublisher : Option (RmwPublisher M))
    (loanedMessage : Option Address) : PublisherOutcome M :=
  match checkReturnLoan rmwPublisher loanedMessage with
  | .error f => .rejected rmwPublisher f
  | .ok (h, p, loanedMessage) =>
    .finished h [] "failed to return loaned message to publisher" (p.returnLoan loanedMessage)

def rmwPublishLoanedMessage (port : PublisherPort) (rmwPublisher : Option (RmwPublisher M))
    (rosMessage : Option Address) : PublisherOutcome M :=
  match checkPublisher rmwPublisher "ros_message" rosMessage with
  | .error f => .rejected rmwPublisher f
  | .ok (h, p, rosMessage) =>
    .finished h [] "failed to publish loaned message" (p.publishLoan port rosMessage)

def rmwPublishSerializedMessage (port : PublisherPort) (rmwPublisher : Option (RmwPublisher M))
    (serializedMessage : Option SerializedMessage) : PublisherOutcome M :=
  match checkPublisher rmwPublisher "serialized_message" serializedMessage with
  | .error f => .rejected rmwPublisher f
  | .ok (h, p, serializedMessage) =>
    .finished h [] "failed to publish copy"
      (p.publishCopy port serializedMessage.buffer serializedMessage.bufferLength)

/-- What the application can ask of a publisher, each time with the answers of the middleware. -/
inductive PublisherOp (M : Type)
  | publish (port : PublisherPort) (rosMessage : Option (RosMessage M))
  | borrow (port : PublisherPort) (typeSupport : Option (TypeSupport M))
    (rosMessage : Option (Option Address))
  | returnLoaned (loanedMessage : Option Address)
  | publishLoaned (port : PublisherPort) (rosMessage : Option Address)
  | publishSerialized (port : PublisherPort) (serializedMessage : Option SerializedMessage)

def publisherCall (h : RmwPublisher M) : PublisherOp M → PublisherOutcome M
  | .publish port rosMessage => rmwPublish port (some h) rosMessage
  | .borrow port typeSupport rosMessage => rmwBorrowLoanedMessage port (some h) typeSupport rosMessage
  | .returnLoaned loanedMessage => rmwReturnLoanedMessageFromPublisher (some h) loanedMessage
  | .publishLoaned port rosMessage => rmwPublishLoanedMessage port (some h) rosMessage
  | .publishSerialized port serializedMessage =>
    rmwPublishSerializedMessage port (some h) serializedMessage

def publisherExec (h : RmwPublisher M) (op : PublisherOp M) : RmwPublisher M :=
  (publisherCall h op).publisher.getD h

def publisherHandle (p : Publisher M) : RmwPublisher M :=
  ⟨rmwGetImplementationIdentifier, isPod p.typesupport, some p⟩

theorem checkPublisher_handle {α : Type} (p : Publisher M) (argument : String) (value : α) :
    checkPublisher (some (publisherHandle p)) argument (some value) =
      .ok (publisherHandle p, p, value) := rfl

theorem rmwPublish_handle (port : PublisherPort) (p : Publisher M) (rosMessage : RosMessage M) :
    rmwPublish port (some (publisherHandle p)) (some rosMessage) =
      if isPod p.typesupport then
        .finished (publisherHandle p) [] "failed to publish copy"
          (p.publishCopy port rosMessage.bytes p.unserializedSize)
      else publishSerialized port (publisherHandle p) p rosMessage := by
  rw [rmwPublish, checkPublisher_handle]
  rfl

theorem publishSerialized_granted {port : PublisherPort} {h : RmwPublisher M} {p : Publisher M}
    {rosMessage : RosMessage M} {sample : Sample} {callbacks : Callbacks M} {bytes : Bytes}
    (hloan : port.loanSliceUninit (serializedMessageSize rosMessage p.typesupport) = .ok sample)
    (hunused : p.registry.Unused sample) (hcpp : p.typesupport.fastrtpsCpp = some (some callbacks))
    (hbytes : callbacks.cdrSerialize rosMessage.value
      (serializedMessageSize rosMessage p.typesupport) = .ok bytes) :
    publishSerialized port h p rosMessage =
      .finished h [.loanSliceUninit (serializedMessageSize rosMessage p.typesupport)]
        "failed to publish serialized payload"
        ((p.holding { sample with payload := bytes ++ sample.payload.drop bytes.length }).publishLoan
          port sample.address) := by
  have hwritten : rmwSerialize (some rosMessage) (some p.typesupport) (some ⟨sample.payload,
      serializedMessageSize rosMessage p.typesupport,
      serializedMessageSize rosMessage p.typesupport⟩) =
        .ok ⟨bytes ++ sample.payload.drop bytes.length, bytes.length,
          serializedMessageSize rosMessage p.typesupport⟩ :=
    rmwSerialize_ok.mpr ⟨callbacks, bytes, hcpp, hbytes, rfl⟩
  have hstored : (p.holding sample).registry.retrieve sample.address = some sample :=
    SampleRegistry.retrieve_put
  simp only [publishSerialized, Publisher.loan_granted hloan hunused, hstored, Option.map_some,
    Option.getD_some, hwritten, Publisher.writeLoan_holding]

theorem checkPublisher_eq_ok {α : Type} {h : RmwPublisher M} {argument : String}
    {value : Option α} {checked : RmwPublisher M × Publisher M × α} :
    checkPublisher (some h) argument value = .ok checked ↔
      h.implementationIdentifier = rmwGetImplementationIdentifier ∧
        ∃ p v, h.data = some p ∧ value = some v ∧ checked = (h, p, v) := by
  simp only [checkPublisher, bind_eq_ok, ensureNotNull_eq_ok, ensureImplementation_eq_ok,
    uncheckedCast_eq_ok, Option.some_inj, exists_eq_left', exists_const, exists_and_left, pure,
    Except.pure, Except.ok.injEq]
  refine and_congr_right fun _ ↦ ⟨fun h ↦ ?_, fun h ↦ ?_⟩
  · obtain ⟨v, hv, p, hp, rfl⟩ := h
    exact ⟨p, hp, v, hv, rfl⟩
  · obtain ⟨p, hp, v, hv, rfl⟩ := h
    exact ⟨v, hv, p, hp, rfl⟩

theorem checkPublisher_rejects {α : Type} {h : RmwPublisher M} {argument : String}
    {value : Option α} {f : Failure RmwRet}
    (hf : checkPublisher (some h) argument value = .error f) : f.error ≠ .ok := by
  simp only [checkPublisher, bind_eq_error, ensureNotNull_eq_ok, ensureNotNull_eq_error,
    ensureImplementation_eq_ok, ensureImplementation_eq_error, uncheckedCast_eq_error, pure,
    Except.pure, reduceCtorEq, and_false, exists_false, or_false] at hf
  obtain ⟨h, -⟩ | ⟨_, -, ⟨-, rfl⟩ | ⟨_, -, ⟨-, rfl⟩ | ⟨_, -, -, rfl⟩⟩⟩ := hf
  · cases h
  all_goals simp

theorem checkBorrow_ok {h h' : RmwPublisher M} {p : Publisher M}
    {typeSupport : Option (TypeSupport M)} {rosMessage : Option (Option Address)}
    (hok : checkBorrow (some h) typeSupport rosMessage = .ok (h', p)) :
    h' = h ∧ h.data = some p := by
  simp only [checkBorrow, bind_eq_ok, ensureNotNull_eq_ok, Option.some_inj] at hok
  obtain ⟨_, rfl, p', hdata, -, -, -, -, message, -, hok⟩ := hok
  cases message with
  | some ptr => simp [bind, Except.bind, throw, throwThe, MonadExceptOf.throw] at hok
  | none =>
    cases hloans : h.canLoanMessages with
    | false => simp [hloans, bind, Except.bind, throw, throwThe, MonadExceptOf.throw] at hok
    | true =>
      simp only [hloans, Option.isSome_none, Bool.false_eq_true, if_false, Bool.not_true, pure,
        Except.pure, Except.ok.injEq, Prod.mk.injEq] at hok
      obtain ⟨rfl, rfl⟩ := hok
      exact ⟨rfl, hdata⟩

end RmwIceoryx2.Rmw
