import RmwIceoryx2.Rmw.TakeAccounting
import RmwIceoryx2.System.Encoding

namespace RmwIceoryx2.System.Delivery

open RmwIceoryx2.Common RmwIceoryx2.Runtime RmwIceoryx2.Message RmwIceoryx2.Rmw
open RmwIceoryx2.Library

variable {M H : Type} (t : MessageType M H)

/-- A publisher goes on to notify exactly when its request to send was granted. -/
def sentBy : List PortRequest → Option Bytes
  | .send payload :: .notify :: _ => some payload
  | .sendSliceCopy payload :: .notify :: _ => some payload
  | _ :: requests => sentBy requests
  | [] => none

def Means (payload : Bytes) (value : M) : Prop :=
  if isPod (t.typeSupport .cpp) then ∀ memory, t.read .cpp memory payload = value
  else ∀ rest, (t.callbacks .cpp).cdrDeserialize (payload ++ rest) = .ok value

/-- A type for which the check for self-containment is right. -/
def Classified : Prop :=
  isPod (t.typeSupport .cpp) = true → SelfContained (some (t.description .cpp))

structure PublisherOf (p : Publisher M) : Prop where
  typesupport : p.typesupport = t.typeSupport .cpp
  unserializedSize : p.unserializedSize = (t.description .cpp).sizeOf
  registry : isPod (t.typeSupport .cpp) = false → p.registry = .empty _

def handed (memory : H) (h : RmwPublisher M) : PublisherOp M → Option M
  | .publish _ rosMessage => rosMessage.map (·.value)
  | .publishLoaned _ rosMessage =>
    (rosMessage.bind fun ptr ↦ h.data.bind (·.registry.retrieve ptr)).map
      fun sample ↦ t.read .cpp memory sample.payload
  | .publishSerialized _ serializedMessage => serializedMessage.bind fun message ↦
      ((t.callbacks .cpp).cdrDeserialize (message.buffer.take message.bufferLength)).toOption
  | .borrow _ _ _ => none
  | .returnLoaned _ => none

/-- What is assumed of a publishing call: a granted loan lies where no held sample lies, a message
is one of the type, and a serialized message is a message that was serialized. -/
def Publishable (h : RmwPublisher M) : PublisherOp M → Prop
  | .publish port rosMessage =>
    (∀ p n sample, h.data = some p → port.loanSliceUninit n = .ok sample →
      p.registry.Unused sample) ∧
    ∀ m, rosMessage = some m → ∃ memory, t.Represents .cpp memory m
  | .publishSerialized _ serializedMessage => isPod (t.typeSupport .cpp) = false ∧
    ∀ message, serializedMessage = some message → ∃ value capacity,
      (t.callbacks .cpp).getSerializedSize value ≤ capacity ∧ (t.callbacks .cpp).cdrSerialize value
        capacity = .ok (message.buffer.take message.bufferLength)
  | _ => True

variable {t} {p : Publisher M} {port : PublisherPort} {m : RosMessage M}

theorem Means.of_serialized (hpod : isPod (t.typeSupport .cpp) = false) {value : M} {capacity : ℕ}
    {bytes : Bytes} (hsize : (t.callbacks .cpp).getSerializedSize value ≤ capacity)
    (hbytes : (t.callbacks .cpp).cdrSerialize value capacity = .ok bytes) (more : Bytes) :
    Means t (bytes ++ more) value := by
  obtain ⟨bytes', hbytes', hround⟩ := t.roundTrip value capacity hsize
  rw [hbytes, Except.ok.injEq] at hbytes'
  subst hbytes'
  simp only [Means, hpod, Bool.false_eq_true, ↓reduceIte, List.append_assoc]
  exact fun rest ↦ hround (more ++ rest)

theorem Means.of_read (hpod : isPod (t.typeSupport .cpp) = true) (hclass : Classified t)
    (memory : H) (payload : Bytes) : Means t payload (t.read .cpp memory payload) := by
  simp only [Means, hpod, ↓reduceIte]
  exact fun memory' ↦ t.read_selfContained (hclass hpod) memory' memory payload

theorem publisherOf_of_create {mw : CreationAnswers} {topic : String}
    (h : Publisher.create mw topic (t.typeSupport .cpp) = .ok p) : PublisherOf t p := by
  rw [Publisher.create_ok h]
  exact ⟨rfl, rfl, fun _ ↦ rfl⟩

theorem serializedMessageSize_ge (m : RosMessage M) :
    (t.callbacks .cpp).getSerializedSize m.value ≤
      serializedMessageSize m (t.typeSupport .cpp) := by
  simp only [serializedMessageSize, MessageType.typeSupport, ↓reduceIte, Option.map_some,
    Option.getD_some]
  omega

theorem PublisherOf.with_registry (hp : PublisherOf t p)
    (hpod : isPod (t.typeSupport .cpp) = true) (registry : SampleRegistry) :
    PublisherOf t { p with registry := registry } :=
  ⟨hp.typesupport, hp.unserializedSize, fun hno ↦ by rw [hpod] at hno; cases hno⟩

theorem PublisherOf.release_empty (hp : PublisherOf t p)
    (hpod : isPod (t.typeSupport .cpp) = false) (ptr : Address) :
    p.registry.release ptr = .error ⟨.invalidPayload, []⟩ := by
  rw [hp.registry hpod]
  simp only [SampleRegistry.release, SampleRegistry.retrieve, KeyedMap.find_empty]

theorem sentBy_publishCopy {data payload : Bytes} {n : ℕ}
    (h : sentBy (p.publishCopy port data n).requests = some payload) : payload = data.take n := by
  simp only [Publisher.publishCopy] at h
  cases hsend : port.sendSliceCopy (data.take n) with
  | error e => simp [hsend, sentBy] at h
  | ok u => cases hnotify : port.notify <;> simpa [hsend, hnotify, sentBy, eq_comm] using h

theorem sentBy_publishLoan {ptr : Address} {payload : Bytes}
    (h : sentBy (p.publishLoan port ptr).requests = some payload) :
    ∃ sample, p.registry.retrieve ptr = some sample ∧ payload = sample.payload := by
  simp only [Publisher.publishLoan, SampleRegistry.release] at h
  cases hstored : p.registry.retrieve ptr with
  | none => simp [hstored, sentBy] at h
  | some sample =>
    refine ⟨sample, rfl, ?_⟩
    cases hsend : port.send sample with
    | error e => simp [hstored, hsend, sentBy] at h
    | ok u =>
      cases hnotify : port.notify <;> simpa [hstored, hsend, hnotify, sentBy, eq_comm] using h

theorem sentBy_loaned {n : ℕ} (requests : List PortRequest) :
    sentBy ([.loanSliceUninit n] ++ requests) = sentBy requests := by
  simp only [List.singleton_append, sentBy]

theorem publishLoan_registry (ptr : Address) : ∃ registry,
    (p.publishLoan port ptr).publisher = { p with registry := registry } := by
  simp only [Publisher.publishLoan]
  cases p.registry.release ptr with
  | error f => exact ⟨p.registry, rfl⟩
  | ok released =>
    obtain ⟨sample, registry⟩ := released
    refine ⟨registry, ?_⟩
    cases hsend : port.send sample with
    | error e => simp only [hsend]
    | ok u =>
      simp only [hsend]
      cases port.notify <;> rfl

theorem returnLoan_registry (ptr : Address) : ∃ registry,
    (p.returnLoan ptr).publisher = { p with registry := registry } := by
  simp only [Publisher.returnLoan]
  cases p.registry.release ptr with
  | error f => exact ⟨p.registry, rfl⟩
  | ok released => exact ⟨released.2, rfl⟩

/-- A call leaves a publisher of the type, and what it sent means the message it was handed. -/
def Conveys (t : MessageType M H) (memory : H) (h : RmwPublisher M) (op : PublisherOp M) : Prop :=
  (∃ p, publisherExec h op = publisherHandle p ∧ PublisherOf t p) ∧
    ∀ payload, sentBy (publisherCall h op).requests = some payload →
      ∃ value, handed t memory h op = some value ∧ Means t payload value

theorem conveys_rejected {memory : H} {op : PublisherOp M} {f : Failure RmwRet}
    (hp : PublisherOf t p)
    (h : publisherCall (publisherHandle p) op = .rejected (some (publisherHandle p)) f) :
    Conveys t memory (publisherHandle p) op := by
  rw [Conveys, publisherExec, h]
  exact ⟨⟨p, rfl, hp⟩, by simp [PublisherOutcome.rejected, sentBy]⟩

theorem conveys_publish (hp : PublisherOf t p) (hclass : Classified t) (memory : H)
    {rosMessage : Option (RosMessage M)}
    (hok : Publishable t (publisherHandle p) (.publish port rosMessage)) :
    Conveys t memory (publisherHandle p) (.publish port rosMessage) := by
  cases rosMessage with
  | none => exact conveys_rejected hp rfl
  | some m =>
    obtain ⟨hunused, hrep⟩ := hok
    obtain ⟨memory', hsize, hvalue⟩ := hrep m rfl
    rw [Conveys, publisherExec, publisherCall, rmwPublish_handle, hp.typesupport]
    cases hpod : isPod (t.typeSupport .cpp) with
    | true =>
      simp only [↓reduceIte, PublisherOutcome.finished, Publisher.publishCopy_publisher,
        List.nil_append]
      refine ⟨⟨p, rfl, hp⟩, fun payload hsent ↦ ⟨m.value, rfl, ?_⟩⟩
      rw [sentBy_publishCopy hsent, hp.unserializedSize, ← hsize, List.take_length, ← hvalue]
      exact Means.of_read hpod hclass memory' m.bytes
    | false =>
      simp only [Bool.false_eq_true, ↓reduceIte]
      cases hloan : port.loanSliceUninit (serializedMessageSize m p.typesupport) with
      | error e =>
        simp only [publishSerialized, Publisher.loan_refused hloan]
        exact ⟨⟨p, rfl, hp⟩, by simp [sentBy]⟩
      | ok sample =>
        have hfree := hunused p _ sample rfl hloan
        have hroom := serializedMessageSize_ge (t := t) m
        rw [← hp.typesupport] at hroom
        obtain ⟨bytes, hbytes, -⟩ := t.roundTrip m.value _ hroom
        have hcpp : p.typesupport.fastrtpsCpp = some (some (t.callbacks .cpp)) := by
          rw [hp.typesupport]
          rfl
        rw [publishSerialized_granted hloan hfree hcpp hbytes]
        simp only [PublisherOutcome.finished, Publisher.publishLoan_holding hfree, sentBy_loaned]
        refine ⟨⟨p, rfl, hp⟩, fun payload hsent ↦ ⟨m.value, rfl, ?_⟩⟩
        obtain ⟨stored, hstored, rfl⟩ := sentBy_publishLoan hsent
        rw [Publisher.holding, SampleRegistry.retrieve, KeyedMap.find_put, if_pos rfl,
          Option.some_inj] at hstored
        rw [← hstored]
        exact Means.of_serialized hpod hroom hbytes _

theorem checkBorrow_loans {h : RmwPublisher M} {typeSupport : Option (TypeSupport M)}
    {rosMessage : Option (Option Address)} {checked : RmwPublisher M × Publisher M}
    (hok : checkBorrow (some h) typeSupport rosMessage = .ok checked) :
    h.canLoanMessages = true := by
  by_contra hno
  simp only [checkBorrow, bind_eq_ok, ensureNotNull_eq_ok, Option.some_inj] at hok
  obtain ⟨_, rfl, _, -, -, -, _, -, message, -, hok⟩ := hok
  rw [Bool.not_eq_true] at hno
  cases message <;>
    simp [hno, bind, Except.bind, throw, throwThe, MonadExceptOf.throw] at hok

theorem checkReturnLoan_ok {h h' : RmwPublisher M} {p : Publisher M}
    {loanedMessage : Option Address} {ptr : Address}
    (hok : checkReturnLoan (some h) loanedMessage = .ok (h', p, ptr)) :
    h' = h ∧ h.data = some p ∧ h.canLoanMessages = true := by
  simp only [checkReturnLoan, bind_eq_ok, ensureNotNull_eq_ok, Option.some_inj] at hok
  obtain ⟨_, rfl, _, -, -, -, hok⟩ := hok
  cases hloans : h.canLoanMessages with
  | false => simp [hloans, bind, Except.bind, throw, throwThe, MonadExceptOf.throw] at hok
  | true =>
    simp only [hloans, Bool.not_true, Bool.false_eq_true, if_false, bind_eq_ok,
      uncheckedCast_eq_ok, pure, Except.pure, Except.ok.injEq, Prod.mk.injEq] at hok
    obtain ⟨p', hdata, rfl, rfl, -⟩ := hok
    exact ⟨rfl, hdata, rfl⟩

theorem conveys_borrow (hp : PublisherOf t p) (memory : H)
    {typeSupport : Option (TypeSupport M)} {rosMessage : Option (Option Address)} :
    Conveys t memory (publisherHandle p) (.borrow port typeSupport rosMessage) := by
  cases hcheck : checkBorrow (some (publisherHandle p)) typeSupport rosMessage with
  | error f =>
    refine conveys_rejected hp (f := f) ?_
    simp only [publisherCall, rmwBorrowLoanedMessage, hcheck]
  | ok checked =>
    obtain ⟨h', p'⟩ := checked
    have hpod : isPod (t.typeSupport .cpp) = true := by
      rw [← hp.typesupport]
      exact checkBorrow_loans hcheck
    obtain ⟨rfl, hdata⟩ := checkBorrow_ok hcheck
    obtain rfl : p = p' := Option.some_inj.mp hdata
    simp only [Conveys, publisherExec, publisherCall, rmwBorrowLoanedMessage, hcheck,
      Publisher.loan]
    cases port.loanSliceUninit (messageSize p.typesupport) with
    | error e => exact ⟨⟨p, rfl, hp⟩, by simp [sentBy]⟩
    | ok sample =>
      exact ⟨⟨{ p with registry := (p.registry.store sample).1 }, rfl, hp.with_registry hpod _⟩,
        by simp [sentBy]⟩

theorem conveys_returnLoaned (hp : PublisherOf t p) (memory : H) {loanedMessage : Option Address} :
    Conveys t memory (publisherHandle p) (.returnLoaned loanedMessage) := by
  cases hcheck : checkReturnLoan (some (publisherHandle p)) loanedMessage with
  | error f =>
    refine conveys_rejected hp (f := f) ?_
    simp only [publisherCall, rmwReturnLoanedMessageFromPublisher, hcheck]
  | ok checked =>
    obtain ⟨h', p', ptr⟩ := checked
    obtain ⟨rfl, hdata, hloans⟩ := checkReturnLoan_ok hcheck
    obtain rfl : p = p' := Option.some_inj.mp hdata
    have hpod : isPod (t.typeSupport .cpp) = true := hp.typesupport ▸ hloans
    obtain ⟨registry, hreturn⟩ := returnLoan_registry (p := p) ptr
    simp only [Conveys, publisherExec, publisherCall, rmwReturnLoanedMessageFromPublisher, hcheck,
      PublisherOutcome.finished, hreturn, List.nil_append]
    refine ⟨⟨{ p with registry := registry }, rfl, hp.with_registry hpod _⟩, ?_⟩
    simp only [Publisher.returnLoan]
    cases p.registry.release ptr <;> simp [sentBy]

theorem conveys_publishLoaned (hp : PublisherOf t p) (hclass : Classified t) (memory : H)
    {rosMessage : Option Address} :
    Conveys t memory (publisherHandle p) (.publishLoaned port rosMessage) := by
  cases rosMessage with
  | none => exact conveys_rejected hp rfl
  | some ptr =>
    simp only [Conveys, publisherExec, publisherCall, rmwPublishLoanedMessage,
      checkPublisher_handle, PublisherOutcome.finished, List.nil_append]
    cases hpod : isPod (t.typeSupport .cpp) with
    | true =>
      obtain ⟨registry, hpublish⟩ : ∃ registry, (p.publishLoan port ptr).publisher =
        { p with registry := registry } := publishLoan_registry ptr
      refine ⟨⟨_, by rw [hpublish]; rfl, hp.with_registry hpod registry⟩, fun payload hsent ↦ ?_⟩
      obtain ⟨sample, hstored, rfl⟩ := sentBy_publishLoan hsent
      refine ⟨t.read .cpp memory sample.payload, ?_, Means.of_read hpod hclass memory _⟩
      simp only [handed, publisherHandle, Option.bind_some, hstored, Option.map_some]
    | false =>
      simp only [Publisher.publishLoan, hp.release_empty hpod]
      exact ⟨⟨p, rfl, hp⟩, by simp [sentBy]⟩

theorem conveys_publishSerialized (hp : PublisherOf t p) (memory : H)
    {serializedMessage : Option SerializedMessage}
    (hok : Publishable t (publisherHandle p) (.publishSerialized port serializedMessage)) :
    Conveys t memory (publisherHandle p) (.publishSerialized port serializedMessage) := by
  cases serializedMessage with
  | none => exact conveys_rejected hp rfl
  | some message =>
    obtain ⟨hpod, hserialized⟩ := hok
    obtain ⟨value, capacity, hsize, hbytes⟩ := hserialized message rfl
    simp only [Conveys, publisherExec, publisherCall, rmwPublishSerializedMessage,
      checkPublisher_handle, PublisherOutcome.finished, List.nil_append,
      Publisher.publishCopy_publisher]
    refine ⟨⟨p, rfl, hp⟩, fun payload hsent ↦ ⟨value, ?_, ?_⟩⟩
    · obtain ⟨bytes, hbytes', hround⟩ := t.roundTrip value capacity hsize
      rw [hbytes, Except.ok.injEq] at hbytes'
      have hdecode := hround []
      rw [List.append_nil, ← hbytes'] at hdecode
      simp only [handed, Option.bind_some, hdecode, Except.toOption]
    · have hmeans := Means.of_serialized hpod hsize hbytes []
      rwa [List.append_nil, ← sentBy_publishCopy hsent] at hmeans

/-- Whatever way a message takes into a publisher, what is sent means the message. -/
theorem conveys (hp : PublisherOf t p) (hclass : Classified t) (memory : H) {op : PublisherOp M}
    (hok : Publishable t (publisherHandle p) op) : Conveys t memory (publisherHandle p) op := by
  cases op with
  | publish port rosMessage => exact conveys_publish hp hclass memory hok
  | borrow port typeSupport rosMessage => exact conveys_borrow hp memory
  | returnLoaned loanedMessage => exact conveys_returnLoaned hp memory
  | publishLoaned port rosMessage => exact conveys_publishLoaned hp hclass memory
  | publishSerialized port serializedMessage => exact conveys_publishSerialized hp memory hok

variable {s : Subscriber M}

def SubscriberOf (t : MessageType M H) (s : Subscriber M) : Prop :=
  s.typesupport = t.typeSupport .cpp

/-- The sample that iceoryx2 hands to a call, which it is asked for once the checks have passed. -/
def received (h : RmwSubscription M) : SubscriptionOp M → Option Sample
  | .take port rosMessage taken =>
    match checkTake (some h) "ros_message" rosMessage taken, port with
    | .ok _, .ok sample => sample
    | _, _ => none
  | .takeSerialized port _ serializedMessage taken =>
    match checkTake (some h) "serialized_message" serializedMessage taken, port with
    | .ok _, .ok sample => sample
    | _, _ => none
  | .takeLoaned port loanedMessage taken =>
    match checkTakeLoaned (some h) loanedMessage taken, port with
    | .ok _, .ok sample => sample
    | _, _ => none
  | .returnLoaned _ => none

def portOf : SubscriptionOp M → Option SubscriberPort
  | .take port _ _ => some port
  | .takeSerialized port _ _ _ => some port
  | .takeLoaned port _ _ => some port
  | .returnLoaned _ => none

variable (t) in
/-- The message a call that succeeds leaves with the caller, who deserializes what is serialized. -/
def obtained (memory : H) (fresh : RosMessage M) (out : SubscriptionOutcome M) : Option M :=
  if out.ret = .ok then
    (out.written.bind (writtenValue t .cpp memory)).or
      ((out.loaned.map fun loan ↦ t.read .cpp memory loan.payload).or
        (out.serialized.bind fun message ↦
          (rmwDeserialize (some message) (some (t.typeSupport .cpp)) (some fresh)).toOption))
  else none

/-- What is assumed of a call that takes: a sample lies where no held one lies, and a resize that
succeeds makes room for what it was asked for. -/
def Takeable (t : MessageType M H) (h : RmwSubscription M) (op : SubscriptionOp M) : Prop :=
  ReceivesUnused h op ∧ match op with
    | .takeSerialized _ resize _ _ => isPod (t.typeSupport .cpp) = false ∧
      ∀ message n resized, resize message n = some resized → n ≤ resized.bufferCapacity
    | _ => True

def Storable : SubscriptionOp M → Prop
  | .takeSerialized port resize serializedMessage _ => ∀ message sample,
      serializedMessage = some message → port = .ok (some sample) →
        (resize message sample.payload.length).isSome
  | _ => True

/-- A call leaves a subscription of the type; the caller has what the received sample means, unless
there was no room for it, and nothing else. -/
structure Yields (t : MessageType M H) (memory : H) (fresh : RosMessage M) (h : RmwSubscription M)
    (op : SubscriptionOp M) : Prop where
  kept : ∃ s, subscriptionExec h op = subscriptionHandle s ∧ SubscriberOf t s
  sound : ∀ value, obtained t memory fresh (subscriptionCall h op) = some value →
    ∃ sample, received h op = some sample ∧ Means t sample.payload value
  complete : Storable op → (received h op).isSome →
    (obtained t memory fresh (subscriptionCall h op)).isSome

theorem yields_ended {memory : H} {fresh : RosMessage M} {op : SubscriptionOp M}
    (hs : SubscriberOf t s) (ret : RmwRet) (chain : List String) (taken : Option Bool)
    (hcall : subscriptionCall (subscriptionHandle s) op =
      .ended ret chain (some (subscriptionHandle s)) taken)
    (hnone : received (subscriptionHandle s) op = none) :
    Yields t memory fresh (subscriptionHandle s) op where
  kept := ⟨s, by rw [subscriptionExec, hcall]; rfl, hs⟩
  sound value h := by simp [hcall, SubscriptionOutcome.ended, obtained] at h
  complete _ h := by simp [hnone] at h

theorem Means.deserialized (hpod : isPod (t.typeSupport .cpp) = false) {payload : Bytes} {value : M}
    (h : Means t payload value) (rest : Bytes) :
    (t.callbacks .cpp).cdrDeserialize (payload ++ rest) = .ok value := by
  simp only [Means, hpod, Bool.false_eq_true, ↓reduceIte] at h
  exact h rest

theorem Means.read (hpod : isPod (t.typeSupport .cpp) = true) {payload : Bytes} {value : M}
    (h : Means t payload value) (memory : H) : t.read .cpp memory payload = value := by
  simp only [Means, hpod, ↓reduceIte] at h
  exact h memory

theorem yields_value {memory : H} {fresh : RosMessage M} {op : SubscriptionOp M} (sample : Sample)
    (value : M) (hkept : ∃ s', subscriptionExec (subscriptionHandle s) op =
      subscriptionHandle s' ∧ SubscriberOf t s')
    (hobtained : obtained t memory fresh (subscriptionCall (subscriptionHandle s) op) = some value)
    (hsample : received (subscriptionHandle s) op = some sample)
    (hmeans : Means t sample.payload value) : Yields t memory fresh (subscriptionHandle s) op where
  kept := hkept
  sound value' h := by
    rw [hobtained, Option.some_inj] at h
    exact ⟨sample, hsample, h ▸ hmeans⟩
  complete _ _ := by rw [hobtained, Option.isSome_some]

theorem yields_take (hs : SubscriberOf t s) (memory : H) (fresh : RosMessage M)
    {port : SubscriberPort} {rosMessage : Option (RosMessage M)} {taken : Option Bool}
    (hok : Takeable t (subscriptionHandle s) (.take port rosMessage taken))
    (hmeans : ∀ sample, port = .ok (some sample) → ∃ value, Means t sample.payload value) :
    Yields t memory fresh (subscriptionHandle s) (.take port rosMessage taken) := by
  cases hcheck : checkTake (some (subscriptionHandle s)) "ros_message" rosMessage taken with
  | error f =>
    refine yields_ended hs f.error f.chain taken ?_ ?_
    · simp only [subscriptionCall, rmwTake, hcheck]
    · simp only [received, hcheck]
  | ok checked =>
    obtain ⟨-, -, s', m, hdata, hm, rfl⟩ := checkTake_eq_ok.mp hcheck
    obtain rfl : s = s' := Option.some_inj.mp hdata
    have hloans : (subscriptionHandle s).canLoanMessages = isPod (t.typeSupport .cpp) := by
      rw [← hs]
      rfl
    have hcall : subscriptionCall (subscriptionHandle s) (.take port rosMessage taken) =
        if isPod (t.typeSupport .cpp) then takeRaw port (subscriptionHandle s) taken
        else takeDeserialized port (subscriptionHandle s) s m taken := by
      simp only [subscriptionCall, rmwTake, hcheck, hloans]
    rcases port with e | _ | sample
    · cases hpod : isPod (t.typeSupport .cpp) <;> rw [hpod] at hcall <;>
        exact yields_ended hs _ _ taken hcall (by simp only [received, hcheck])
    · cases hpod : isPod (t.typeSupport .cpp) <;> rw [hpod] at hcall <;>
        exact yields_ended hs _ _ (some false) hcall (by simp only [received, hcheck])
    · obtain ⟨value, hvalue⟩ := hmeans sample rfl
      cases hpod : isPod (t.typeSupport .cpp) with
      | true =>
        rw [hpod] at hcall
        refine yields_value sample value ⟨s, ?_, hs⟩ ?_ ?_ hvalue
        · rw [subscriptionExec, hcall]
          rfl
        · rw [hcall]
          exact congrArg some (hvalue.read hpod memory)
        · simp only [received, hcheck]
      | false =>
        have hread := hvalue.deserialized hpod []
        rw [List.append_nil] at hread
        have hcpp : s.typesupport.fastrtpsCpp = some (some (t.callbacks .cpp)) := by
          rw [hs]
          rfl
        rw [hpod, if_neg Bool.false_ne_true,
          takeDeserialized_ok (hok.1 s sample rfl rfl) hcpp hread] at hcall
        refine yields_value sample value ⟨s, ?_, hs⟩ ?_ ?_ hvalue
        · rw [subscriptionExec, hcall]
          rfl
        · rw [hcall]
          rfl
        · simp only [received, hcheck]

theorem checkTakeLoaned_data {h h' : RmwSubscription M} {loanedMessage : Option (Option Address)}
    {taken : Option Bool} (hok : checkTakeLoaned (some h) loanedMessage taken = .ok (h', s)) :
    h.data = some s := by
  simp only [checkTakeLoaned, bind_eq_ok, ensureNotNull_eq_ok, ensureCanLoan_eq_ok,
    Option.some_inj] at hok
  obtain ⟨_, rfl, -, -, -, hloans, _, -, message, -, hok⟩ := hok
  cases message with
  | some ptr => simp [bind, Except.bind, throw, throwThe, MonadExceptOf.throw] at hok
  | none =>
    simp only [hloans, Option.isSome_none, Bool.false_eq_true, if_false, Bool.not_true, bind_eq_ok,
      uncheckedCast_eq_ok, pure, Except.pure, Except.ok.injEq, Prod.mk.injEq] at hok
    obtain ⟨s', hdata, -, rfl⟩ := hok
    exact hdata

theorem yields_takeLoaned (hs : SubscriberOf t s) (memory : H) (fresh : RosMessage M)
    {port : SubscriberPort} {loanedMessage : Option (Option Address)} {taken : Option Bool}
    (hmeans : ∀ sample, port = .ok (some sample) → ∃ value, Means t sample.payload value) :
    Yields t memory fresh (subscriptionHandle s) (.takeLoaned port loanedMessage taken) := by
  cases hcheck : checkTakeLoaned (some (subscriptionHandle s)) loanedMessage taken with
  | error f =>
    refine yields_ended hs f.error f.chain taken ?_ ?_
    · simp only [subscriptionCall, rmwTakeLoanedMessage, hcheck]
    · simp only [received, hcheck]
  | ok checked =>
    obtain ⟨h', s'⟩ := checked
    obtain ⟨rfl, hloans⟩ := checkTakeLoaned_ok hcheck
    obtain rfl : s = s' := Option.some_inj.mp (checkTakeLoaned_data hcheck)
    have hpod : isPod (t.typeSupport .cpp) = true := by
      rw [← hs]
      exact hloans
    rcases port with e | _ | sample
    · refine yields_ended hs .error ["failed to take sample from subscriber", e] taken ?_ ?_
      · simp only [subscriptionCall, rmwTakeLoanedMessage, hcheck, Subscriber.takeLoan]
        rfl
      · simp only [received, hcheck]
    · refine yields_ended hs .ok [] (some false) ?_ ?_
      · simp only [subscriptionCall, rmwTakeLoanedMessage, hcheck, Subscriber.takeLoan]
        rfl
      · simp only [received, hcheck]
    · obtain ⟨value, hvalue⟩ := hmeans sample rfl
      refine yields_value sample value ⟨{ s with registry := (s.registry.store sample).1 }, ?_, hs⟩
        ?_ ?_ hvalue
      · simp only [subscriptionExec, subscriptionCall, rmwTakeLoanedMessage, hcheck,
          Subscriber.takeLoan]
        rfl
      · simp only [subscriptionCall, rmwTakeLoanedMessage, hcheck, Subscriber.takeLoan]
        exact congrArg some (hvalue.read hpod memory)
      · simp only [received, hcheck]

/-- A payload that was copied into a message with room for it is read off that message. -/
theorem deserialize_copied (hpod : isPod (t.typeSupport .cpp) = false) {payload : Bytes} {value : M}
    (hvalue : Means t payload value) {message : SerializedMessage}
    (hroom : payload.length ≤ message.bufferCapacity) (fresh : RosMessage M) :
    rmwDeserialize (some { message with buffer := payload ++ message.buffer.drop payload.length })
      (some (t.typeSupport .cpp)) (some fresh) = .ok value := by
  have htake : (payload ++ message.buffer.drop payload.length).take message.bufferCapacity =
      payload ++ (message.buffer.drop payload.length).take
        (message.bufferCapacity - payload.length) := by
    rw [List.take_append, List.take_of_length_le hroom]
  have hread := hvalue.deserialized hpod
    ((message.buffer.drop payload.length).take (message.bufferCapacity - payload.length))
  rw [← htake] at hread
  simp only [rmwDeserialize, ensureNotNull, fastrtpsCallbacks, MessageType.typeSupport, hread]

theorem yields_takeSerialized (hs : SubscriberOf t s) (memory : H) (fresh : RosMessage M)
    {port : SubscriberPort} {resize : SerializedMessage → ℕ → Option SerializedMessage}
    {serializedMessage : Option SerializedMessage} {taken : Option Bool}
    (hok : Takeable t (subscriptionHandle s) (.takeSerialized port resize serializedMessage taken))
    (hmeans : ∀ sample, port = .ok (some sample) → ∃ value, Means t sample.payload value) :
    Yields t memory fresh (subscriptionHandle s)
      (.takeSerialized port resize serializedMessage taken) := by
  obtain ⟨hunused, hpod, hresizes⟩ := hok
  cases hcheck : checkTake (some (subscriptionHandle s)) "serialized_message" serializedMessage
      taken with
  | error f =>
    refine yields_ended hs f.error f.chain taken ?_ ?_
    · simp only [subscriptionCall, rmwTakeSerializedMessage, hcheck]
    · simp only [received, hcheck]
  | ok checked =>
    obtain ⟨-, -, s', m, hdata, hm, rfl⟩ := checkTake_eq_ok.mp hcheck
    obtain rfl : s = s' := Option.some_inj.mp hdata
    rcases port with e | _ | sample
    · refine yields_ended hs .error ["failed to take loan from subscriber", e] taken ?_ ?_
      · simp only [subscriptionCall, rmwTakeSerializedMessage, hcheck, Subscriber.takeLoan]
        rfl
      · simp only [received, hcheck]
    · refine yields_ended hs .ok [] (some false) ?_ ?_
      · simp only [subscriptionCall, rmwTakeSerializedMessage, hcheck, Subscriber.takeLoan]
        rfl
      · simp only [received, hcheck]
    · obtain ⟨value, hvalue⟩ := hmeans sample rfl
      have hfree := hunused s sample rfl rfl
      cases hresize : resize m sample.payload.length with
      | none =>
        refine ⟨⟨s.holding sample, ?_, hs⟩, fun value' hobtained ↦ ?_, fun hstorable _ ↦ ?_⟩
        · simp only [subscriptionExec, subscriptionCall, rmwTakeSerializedMessage, hcheck,
            Subscriber.takeLoan_received rfl hfree, SubscriberLoan.numberOfBytes, hresize]
          rfl
        · simp [subscriptionCall, rmwTakeSerializedMessage, hcheck,
            Subscriber.takeLoan_received rfl hfree, SubscriberLoan.numberOfBytes, hresize,
            SubscriptionOutcome.ended, obtained] at hobtained
        · have hsome := hstorable m sample hm rfl
          simp [hresize] at hsome
      | some resized =>
        refine yields_value sample value ⟨s, ?_, hs⟩ ?_ ?_ hvalue
        · simp only [subscriptionExec, subscriptionCall, rmwTakeSerializedMessage, hcheck,
            Subscriber.takeLoan_received rfl hfree, SubscriberLoan.numberOfBytes, hresize,
            Subscriber.returnLoan_holding hfree]
          rfl
        · have hread := deserialize_copied hpod hvalue (hresizes m _ resized hresize) fresh
          simp only [subscriptionCall, rmwTakeSerializedMessage, hcheck,
            Subscriber.takeLoan_received rfl hfree, SubscriberLoan.numberOfBytes, hresize,
            Subscriber.returnLoan_holding hfree, obtained, SubscriptionOutcome.ended, ↓reduceIte,
            Option.bind_none, Option.map_none, Option.none_or, Option.bind_some, hread,
            Except.toOption]
        · simp only [received, hcheck]

theorem checkReturnLoanedMessage_data {h h' : RmwSubscription M} {loanedMessage : Option Address}
    {ptr : Address} (hok : checkReturnLoanedMessage (some h) loanedMessage = .ok (h', s, ptr)) :
    h.data = some s := by
  simp only [checkReturnLoanedMessage, bind_eq_ok, ensureNotNull_eq_ok, ensureCanLoan_eq_ok,
    Option.some_inj] at hok
  obtain ⟨_, rfl, -, -, -, hloans, _, -, hok⟩ := hok
  simp only [hloans, Bool.not_true, Bool.false_eq_true, if_false, bind_eq_ok, uncheckedCast_eq_ok,
    pure, Except.pure, Except.ok.injEq, Prod.mk.injEq] at hok
  obtain ⟨s', hdata, -, rfl, -⟩ := hok
  exact hdata

theorem yields_returnLoaned (hs : SubscriberOf t s) (memory : H) (fresh : RosMessage M)
    {loanedMessage : Option Address} :
    Yields t memory fresh (subscriptionHandle s) (.returnLoaned loanedMessage) := by
  cases hcheck : checkReturnLoanedMessage (some (subscriptionHandle s)) loanedMessage with
  | error f =>
    refine yields_ended hs f.error f.chain none ?_ rfl
    simp only [subscriptionCall, rmwReturnLoanedMessageFromSubscription, hcheck]
  | ok checked =>
    obtain ⟨h', s', ptr⟩ := checked
    obtain rfl := checkReturnLoanedMessage_ok hcheck
    obtain rfl : s = s' := Option.some_inj.mp (checkReturnLoanedMessage_data hcheck)
    cases hrelease : s.registry.release ptr with
    | error f =>
      refine yields_ended hs .error ["failed to return loaned message to publisher"] none ?_ rfl
      simp only [subscriptionCall, rmwReturnLoanedMessageFromSubscription, hcheck,
        Subscriber.returnLoan, hrelease]
      rfl
    | ok freed =>
      have hcall : subscriptionCall (subscriptionHandle s) (.returnLoaned loanedMessage) =
          .ended .ok [] (some (subscriptionHandle { s with registry := freed.2 })) none := by
        simp only [subscriptionCall, rmwReturnLoanedMessageFromSubscription, hcheck,
          Subscriber.returnLoan, hrelease]
        rfl
      refine ⟨⟨{ s with registry := freed.2 }, ?_, hs⟩, fun value hobtained ↦ ?_, fun _ h ↦ ?_⟩
      · rw [subscriptionExec, hcall]
        rfl
      · simp [hcall, SubscriptionOutcome.ended, obtained] at hobtained
      · cases h

/-- Whatever way a message leaves a subscription, the caller has what was received. -/
theorem yields (hs : SubscriberOf t s) (memory : H) (fresh : RosMessage M) {op : SubscriptionOp M}
    (hok : Takeable t (subscriptionHandle s) op)
    (hmeans : ∀ sample, portOf op = some (.ok (some sample)) →
      ∃ value, Means t sample.payload value) :
    Yields t memory fresh (subscriptionHandle s) op := by
  cases op with
  | take port rosMessage taken =>
    exact yields_take hs memory fresh hok fun sample hport ↦ hmeans sample (congrArg some hport)
  | takeSerialized port resize serializedMessage taken =>
    exact yields_takeSerialized hs memory fresh hok fun sample hport ↦
      hmeans sample (congrArg some hport)
  | takeLoaned port loanedMessage taken =>
    exact yields_takeLoaned hs memory fresh fun sample hport ↦ hmeans sample (congrArg some hport)
  | returnLoaned loanedMessage => exact yields_returnLoaned hs memory fresh

theorem portOf_of_received {h : RmwSubscription M} {op : SubscriptionOp M} {sample : Sample}
    (hreceived : received h op = some sample) : portOf op = some (.ok (some sample)) := by
  cases op with
  | returnLoaned loanedMessage => cases hreceived
  | _ =>
    simp only [received] at hreceived
    split at hreceived
    · rw [portOf, hreceived]
    · cases hreceived

end RmwIceoryx2.System.Delivery
