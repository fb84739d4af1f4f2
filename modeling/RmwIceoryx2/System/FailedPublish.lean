import RmwIceoryx2.Rmw.PublishAccounting
import RmwIceoryx2.Runtime.LoanCustody
import RmwIceoryx2.System.Readiness

namespace RmwIceoryx2.System.FailedPublish

open RmwIceoryx2.Common RmwIceoryx2.Runtime RmwIceoryx2.Rmw RmwIceoryx2.Message
open RmwIceoryx2.Library

abbrev Queues := List (Subscription × List Bytes)

variable {M : Type}

/-- `Publisher::publish_copy`, together with the queues that an accepted send fills. -/
def publishCopyTo (port : PublisherPort) (p : Publisher M) (data : Bytes) (numberOfBytes : ℕ)
    (queues : Queues) : Publisher.Return M Unit × Queues :=
  let payload := data.take numberOfBytes
  match port.sendSliceCopy payload with
  | .error e => (⟨p, [.sendSliceCopy payload], .error ⟨.sendFailure, [e]⟩⟩, queues)
  | .ok () =>
    let queues := deliver queues p.serviceName payload
    match port.notify with
    | .error e =>
      (⟨p, [.sendSliceCopy payload, .notify], .error ⟨.notificationFailure, [e]⟩⟩, queues)
    | .ok () => (⟨p, [.sendSliceCopy payload, .notify], .ok ()⟩, queues)

/-- `Publisher::publish_loan` in the same way. The sample is released before it is sent. -/
def publishLoanTo (port : PublisherPort) (p : Publisher M) (loanedMemory : Address)
    (queues : Queues) : Publisher.Return M Unit × Queues :=
  match p.registry.release loanedMemory with
  | .error _ => (⟨p, [], .error ⟨.invalidPayload, ["invalid payload pointer"]⟩⟩, queues)
  | .ok (sample, registry) =>
    let p := { p with registry := registry }
    match port.send sample with
    | .error e => (⟨p, [.send sample.payload], .error ⟨.sendFailure, [e]⟩⟩, queues)
    | .ok () =>
      let queues := deliver queues p.serviceName sample.payload
      match port.notify with
      | .error e =>
        (⟨p, [.send sample.payload, .notify], .error ⟨.notificationFailure, [e]⟩⟩, queues)
      | .ok () => (⟨p, [.send sample.payload, .notify], .ok ()⟩, queues)

def publishSerializedTo (port : PublisherPort) (h : RmwPublisher M) (p : Publisher M)
    (rosMessage : RosMessage M) (queues : Queues) : PublisherOutcome M × Queues :=
  let serializedSize := serializedMessageSize rosMessage p.typesupport
  let loan := p.loan port serializedSize
  match loan.result with
  | .error f => (⟨.error, "failed to loan bytes required for serialization" :: f.chain,
      some { h with data := some loan.publisher }, loan.requests, none⟩, queues)
  | .ok ptr =>
    let buffer := ((loan.publisher.registry.retrieve ptr).map (·.payload)).getD []
    match rmwSerialize (some rosMessage) (some p.typesupport)
        (some ⟨buffer, serializedSize, serializedSize⟩) with
    | .error f => (⟨.error, "failed to serialize into loaned payload" :: f.chain,
        some { h with data := some loan.publisher }, loan.requests, none⟩, queues)
    | .ok written =>
      let (r, queues) := publishLoanTo port (loan.publisher.writeLoan ptr written.buffer) ptr queues
      (.finished h loan.requests "failed to publish serialized payload" r, queues)

def rmwPublishTo (port : PublisherPort) (rmwPublisher : Option (RmwPublisher M))
    (rosMessage : Option (RosMessage M)) (queues : Queues) : PublisherOutcome M × Queues :=
  match checkPublisher rmwPublisher "ros_message" rosMessage with
  | .error f => (.rejected rmwPublisher f, queues)
  | .ok (h, p, rosMessage) =>
    if h.canLoanMessages then
      let (r, queues) := publishCopyTo port p rosMessage.bytes p.unserializedSize queues
      (.finished h [] "failed to publish copy" r, queues)
    else publishSerializedTo port h p rosMessage queues

def rmwPublishLoanedMessageTo (port : PublisherPort) (rmwPublisher : Option (RmwPublisher M))
    (rosMessage : Option Address) (queues : Queues) : PublisherOutcome M × Queues :=
  match checkPublisher rmwPublisher "ros_message" rosMessage with
  | .error f => (.rejected rmwPublisher f, queues)
  | .ok (h, p, rosMessage) =>
    let (r, queues) := publishLoanTo port p rosMessage queues
    (.finished h [] "failed to publish loaned message" r, queues)

variable {port : PublisherPort} {p : Publisher M} {queues : Queues}

/-- But for the queues these are the calls themselves. -/
theorem publishCopyTo_fst (data : Bytes) (n : ℕ) :
    (publishCopyTo port p data n queues).1 = p.publishCopy port data n := by
  simp only [publishCopyTo, Publisher.publishCopy]
  cases port.sendSliceCopy (data.take n) with
  | error e => rfl
  | ok u => cases port.notify <;> rfl

theorem publishLoanTo_fst (ptr : Address) :
    (publishLoanTo port p ptr queues).1 = p.publishLoan port ptr := by
  simp only [publishLoanTo, Publisher.publishLoan]
  cases p.registry.release ptr with
  | error f => rfl
  | ok released =>
    cases hsend : port.send released.1 with
    | error e => simp only [hsend]
    | ok u => cases hnotify : port.notify <;> simp only [hsend]

theorem publishSerializedTo_fst (h : RmwPublisher M) (m : RosMessage M) :
    (publishSerializedTo port h p m queues).1 = publishSerialized port h p m := by
  simp only [publishSerializedTo, publishSerialized]
  cases (p.loan port (serializedMessageSize m p.typesupport)).result with
  | error f => rfl
  | ok ptr =>
    simp only
    generalize rmwSerialize _ _ _ = written
    cases written with
    | error f => rfl
    | ok written => simp only [publishLoanTo_fst]

theorem rmwPublishTo_fst (rmwPublisher : Option (RmwPublisher M))
    (rosMessage : Option (RosMessage M)) :
    (rmwPublishTo port rmwPublisher rosMessage queues).1 =
      rmwPublish port rmwPublisher rosMessage := by
  simp only [rmwPublishTo, rmwPublish]
  cases checkPublisher rmwPublisher "ros_message" rosMessage with
  | error f => rfl
  | ok checked =>
    obtain ⟨h, p, m⟩ := checked
    simp only
    split
    · rw [publishCopyTo_fst]
    · rw [publishSerializedTo_fst]

theorem rmwPublishLoanedMessageTo_fst (rmwPublisher : Option (RmwPublisher M))
    (rosMessage : Option Address) :
    (rmwPublishLoanedMessageTo port rmwPublisher rosMessage queues).1 =
      rmwPublishLoanedMessage port rmwPublisher rosMessage := by
  simp only [rmwPublishLoanedMessageTo, rmwPublishLoanedMessage]
  cases checkPublisher rmwPublisher "ros_message" rosMessage with
  | error f => rfl
  | ok checked =>
    simp only
    rw [publishLoanTo_fst]

def Subscribed (queues : Queues) (name : String) : Prop :=
  ∃ q ∈ queues, serviceName q.1 = name

theorem deliver_eq_self {name : String} {payload : Bytes} :
    deliver queues name payload = queues ↔ ¬ Subscribed queues name := by
  unfold deliver Subscribed
  induction queues with
  | nil => simp
  | cons q qs ih =>
    rw [List.map_cons, List.cons.injEq, ih]
    by_cases hq : serviceName q.1 = name
    · simp only [hq, ↓reduceIte, List.exists_mem_cons_iff, true_or, not_true_eq_false, iff_false,
        not_and]
      intro he
      simp [Prod.ext_iff] at he
    · simp [hq]

/-- Where a copy that is sent reaches a subscription, the notification succeeds too. -/
def CopyCompletes (port : PublisherPort) (p : Publisher M) (data : Bytes) (n : ℕ)
    (queues : Queues) : Prop :=
  port.sendSliceCopy (data.take n) = .ok () → Subscribed queues p.serviceName →
    port.notify = .ok ()

/-- Where the pointer is that of a loan, sending it and the notification both succeed. -/
def LoanCompletes (port : PublisherPort) (p : Publisher M) (ptr : Address) : Prop :=
  ∀ sample, p.registry.retrieve ptr = some sample →
    port.send sample = .ok () ∧ port.notify = .ok ()

theorem publishCopyTo_iff (data : Bytes) (n : ℕ) :
    ((publishCopyTo port p data n queues).1.result ≠ .ok () →
      (publishCopyTo port p data n queues).2 = queues) ↔ CopyCompletes port p data n queues := by
  simp only [publishCopyTo, CopyCompletes]
  cases hsend : port.sendSliceCopy (data.take n) with
  | error e => simp
  | ok u =>
    cases hnotify : port.notify with
    | error e => simp [deliver_eq_self]
    | ok u => simp

theorem publishLoanTo_iff (ptr : Address) :
    ((publishLoanTo port p ptr queues).1.result ≠ .ok () →
      (publishLoanTo port p ptr queues).2 = queues ∧
        (publishLoanTo port p ptr queues).1.publisher.registry = p.registry) ↔
      LoanCompletes port p ptr := by
  unfold LoanCompletes
  cases hfind : p.registry.retrieve ptr with
  | none =>
    have hrelease : p.registry.release ptr = .error ⟨.invalidPayload, []⟩ := by
      rw [SampleRegistry.release, hfind]
    simp [publishLoanTo, hrelease]
  | some sample =>
    have hrelease : p.registry.release ptr = .ok (sample, p.registry.remove ptr) := by
      rw [SampleRegistry.release, hfind]
    have hremoved : p.registry.remove ptr ≠ p.registry := by
      intro he
      have hstill : KeyedMap.find (p.registry.remove ptr) ptr = some sample := by
        rw [he]
        exact hfind
      exact (SampleRegistry.find_remove_iff.mp hstill).2 rfl
    simp only [publishLoanTo, hrelease, Option.some_inj, forall_eq']
    cases hsend : port.send sample with
    | error e => simp [hremoved]
    | ok u =>
      cases hnotify : port.notify with
      | error e => simp [hremoved]
      | ok u => simp

theorem checkPublisher_handed {α : Type} {rmwPublisher : Option (RmwPublisher M)}
    {argument : String} {value : Option α} {h : RmwPublisher M} {a : α}
    (hok : checkPublisher rmwPublisher argument value = .ok (h, p, a)) :
    rmwPublisher = some h ∧ h.data = some p := by
  cases rmwPublisher with
  | none => cases hok
  | some h' =>
    obtain ⟨-, p', v, hdata, -, he⟩ := checkPublisher_eq_ok.mp hok
    cases he
    exact ⟨rfl, hdata⟩

theorem finished_ret {h : RmwPublisher M} {earlier : List PortRequest} {msg : String}
    {r : Publisher.Return M Unit} :
    (PublisherOutcome.finished h earlier msg r).ret ≠ .ok ↔ r.result ≠ .ok () := by
  unfold PublisherOutcome.finished
  cases r.result <;> simp

/-- When a publish that fails leaves no trace: neither a message in a queue nor, of a loan, a
sample less in the registry. -/
theorem failed_publish_harmless_iff (port : PublisherPort) (queues : Queues) :
    (∀ (p : Publisher M) data n,
      ((publishCopyTo port p data n queues).1.result ≠ .ok () →
        (publishCopyTo port p data n queues).2 = queues) ↔
      CopyCompletes port p data n queues) ∧
    (∀ (p : Publisher M) ptr,
      ((publishLoanTo port p ptr queues).1.result ≠ .ok () →
        (publishLoanTo port p ptr queues).2 = queues ∧
          (publishLoanTo port p ptr queues).1.publisher.registry = p.registry) ↔
      LoanCompletes port p ptr) ∧
    (∀ (rmwPublisher : Option (RmwPublisher M)) rosMessage,
      (∀ h, rmwPublisher = some h → h.canLoanMessages = true) →
      (((rmwPublishTo port rmwPublisher rosMessage queues).1.ret ≠ .ok →
        (rmwPublishTo port rmwPublisher rosMessage queues).2 = queues) ↔
      ∀ h p m, checkPublisher rmwPublisher "ros_message" rosMessage = .ok (h, p, m) →
        CopyCompletes port p m.bytes p.unserializedSize queues)) ∧
    (∀ (rmwPublisher : Option (RmwPublisher M)) rosMessage,
      ((rmwPublishLoanedMessageTo port rmwPublisher rosMessage queues).1.ret ≠ .ok →
        (rmwPublishLoanedMessageTo port rmwPublisher rosMessage queues).2 = queues ∧
          (rmwPublishLoanedMessageTo port rmwPublisher rosMessage queues).1.publisher.bind
            RmwPublisher.samples = rmwPublisher.bind RmwPublisher.samples) ↔
      ∀ h p ptr, checkPublisher rmwPublisher "ros_message" rosMessage = .ok (h, p, ptr) →
        LoanCompletes port p ptr) := by
  refine ⟨fun p ↦ publishCopyTo_iff, fun p ↦ publishLoanTo_iff, fun rmwPublisher rosMessage hpod ↦ ?_,
    fun rmwPublisher rosMessage ↦ ?_⟩
  · unfold rmwPublishTo
    cases hcheck : checkPublisher rmwPublisher "ros_message" rosMessage with
    | error f => simp
    | ok checked =>
      obtain ⟨h, p, m⟩ := checked
      simp only [hpod h (checkPublisher_handed hcheck).1, ↓reduceIte, finished_ret,
        publishCopyTo_iff]
      constructor
      · intro hc h p m he
        cases he
        exact hc
      · intro hc
        exact hc h p m rfl
  · unfold rmwPublishLoanedMessageTo
    cases hcheck : checkPublisher rmwPublisher "ros_message" rosMessage with
    | error f => simp [PublisherOutcome.rejected]
    | ok checked =>
      obtain ⟨h, p, ptr⟩ := checked
      obtain ⟨rfl, hdata⟩ := checkPublisher_handed hcheck
      have hsamples : ∀ r : Publisher.Return M Unit,
          (PublisherOutcome.finished h [] "failed to publish loaned message" r).publisher.bind
            RmwPublisher.samples = (some h).bind RmwPublisher.samples ↔
          r.publisher.registry = p.registry := by
        intro r
        simp [PublisherOutcome.finished, RmwPublisher.samples, hdata]
      simp only [finished_ret, hsamples, publishLoanTo_iff]
      constructor
      · intro hc h p m he
        cases he
        exact hc
      · intro hc
        exact hc h p ptr rfl

def byteTypeSupport : TypeSupport UInt8 :=
  ⟨true, none, some ⟨1, [⟨.uint8, false, 0, false, none⟩]⟩, none, none⟩

def lendingPublisher : Publisher UInt8 :=
  Publisher.holding ⟨"/chatter", byteTypeSupport, 1, Names.topic "/chatter", 1, .empty _⟩ ⟨7, [1]⟩

def unnotifiedPort : PublisherPort := { grantingPort with notify := .error "ExceedsMaxSupportedId" }

def brokenPort : PublisherPort := { grantingPort with send := fun _ ↦ .error "ConnectionCorrupted" }

def oneSubscriber : Queues := [(⟨0, "/chatter"⟩, [])]

theorem failed_publish_leaves_traces :
    ((publishCopyTo unnotifiedPort lendingPublisher [1] 1 oneSubscriber).1.result ≠ .ok () ∧
      (publishCopyTo unnotifiedPort lendingPublisher [1] 1 oneSubscriber).2 ≠ oneSubscriber) ∧
    ((publishLoanTo brokenPort lendingPublisher 7 oneSubscriber).1.result ≠ .ok () ∧
      (publishLoanTo brokenPort lendingPublisher 7 oneSubscriber).1.publisher.registry ≠
        lendingPublisher.registry) := by
  refine ⟨⟨nofun, fun h ↦ ?_⟩, ⟨nofun, fun h ↦ ?_⟩⟩
  · have hsubscribed : Subscribed oneSubscriber lendingPublisher.serviceName :=
      ⟨_, List.mem_singleton_self _, rfl⟩
    exact deliver_eq_self.mp h hsubscribed
  · have hfind := congrArg (·.find 7) h
    exact absurd hfind (by decide)

theorem failed_publish_harmless_iff_byte :
    ((rmwPublishTo grantingPort (some (publisherHandle lendingPublisher)) (some ⟨[1], 1⟩)
        oneSubscriber).1.ret ≠ .ok →
      (rmwPublishTo grantingPort (some (publisherHandle lendingPublisher)) (some ⟨[1], 1⟩)
        oneSubscriber).2 = oneSubscriber) ↔
    ∀ h p m, checkPublisher (some (publisherHandle lendingPublisher)) "ros_message"
      (some (⟨[1], 1⟩ : RosMessage UInt8)) = .ok (h, p, m) →
        CopyCompletes grantingPort p m.bytes p.unserializedSize oneSubscriber :=
  (failed_publish_harmless_iff grantingPort oneSubscriber).2.2.1 _ _
    (fun h he ↦ by cases he; rfl)

end RmwIceoryx2.System.FailedPublish
