import RmwIceoryx2.Message.MessageType
import RmwIceoryx2.Rmw.Endpoint

namespace RmwIceoryx2.System

open RmwIceoryx2.Common RmwIceoryx2.Runtime RmwIceoryx2.Message RmwIceoryx2.Rmw
open RmwIceoryx2.Library

variable {M H : Type} {t : MessageType M H}

/-- A middleware that grants every loan, where no held sample lies, and sends whatever it is given. -/
structure Grants (port : PublisherPort) (h : RmwPublisher M) : Prop where
  loan : ∀ n, ∃ sample, port.loanSliceUninit n = .ok sample ∧
    ∀ p, h.data = some p → p.registry.Unused sample
  send : ∀ sample, port.send sample = .ok ()
  sendSliceCopy : ∀ payload, port.sendSliceCopy payload = .ok ()
  notify : port.notify = .ok ()

def payloadSent : PortRequest → Option Bytes
  | .send payload | .sendSliceCopy payload => some payload
  | _ => none

def writtenValue (t : MessageType M H) (lang : Lang) (memory : H) : Written M → Option M
  | .raw bytes => some (t.read lang memory bytes)
  | .deserialized value => some value
  | .unfinished => none

def TakesValue (t : MessageType M H) (lang : Lang) (memory : H) (h : RmwSubscription M)
    (payload : Bytes) (value : M) : Prop :=
  ∀ sample destination, sample.payload = payload →
    (∀ s, h.data = some s → s.registry.Unused sample) →
      (rmwTake (.ok (some sample)) (some h) (some destination) (some false)).ret = .ok ∧
      (rmwTake (.ok (some sample)) (some h) (some destination) (some false)).taken = some true ∧
      ∃ w, (rmwTake (.ok (some sample)) (some h) (some destination) (some false)).written = some w ∧
        writtenValue t lang memory w = some value

/-- Every message is published, and taken as a message with the same value. -/
def EncodingsAgree (t : MessageType M H) (lang lang' : Lang) (pub : RmwPublisher M)
    (sub : RmwSubscription M) : Prop :=
  ∀ port, Grants port pub → ∀ memory memory' m, t.Represents lang memory m →
    (rmwPublish port (some pub) (some m)).ret = .ok ∧
    ∃ payload, (rmwPublish port (some pub) (some m)).requests.filterMap payloadSent = [payload] ∧
      TakesValue t lang' memory' sub payload m.value

variable {port : PublisherPort} {p : Publisher M} {s : Subscriber M} {m : RosMessage M}

theorem unused_of_empty {r : SampleRegistry} (h : r = .empty _) (sample : Sample) :
    r.Unused sample := by
  rw [h]
  exact KeyedMap.find_empty _

theorem publish_raw (hpod : isPod p.typesupport = true)
    (hsize : p.unserializedSize = m.bytes.length) (hport : Grants port (publisherHandle p)) :
    (rmwPublish port (some (publisherHandle p)) (some m)).ret = .ok ∧
      (rmwPublish port (some (publisherHandle p)) (some m)).requests.filterMap payloadSent =
        [m.bytes] := by
  have htake : m.bytes.take p.unserializedSize = m.bytes := by rw [hsize, List.take_length]
  rw [rmwPublish_handle, if_pos hpod]
  simp [PublisherOutcome.finished, Publisher.publishCopy, htake, hport.sendSliceCopy, hport.notify,
    payloadSent]

theorem publish_serialized (hts : p.typesupport = t.typeSupport .cpp)
    (hpod : isPod p.typesupport = false) (hport : Grants port (publisherHandle p)) :
    (rmwPublish port (some (publisherHandle p)) (some m)).ret = .ok ∧
      ∃ payload, (rmwPublish port (some (publisherHandle p)) (some m)).requests.filterMap
          payloadSent = [payload] ∧
        (t.callbacks .cpp).cdrDeserialize payload = .ok m.value := by
  have hcpp : p.typesupport.fastrtpsCpp = some (some (t.callbacks .cpp)) := by rw [hts]; rfl
  have hsize : (t.callbacks .cpp).getSerializedSize m.value ≤
      serializedMessageSize m p.typesupport := by
    simp [hts, serializedMessageSize, MessageType.typeSupport]
  obtain ⟨sample, hloan, hunused⟩ := hport.loan (serializedMessageSize m p.typesupport)
  obtain ⟨bytes, hbytes, hround⟩ := t.roundTrip m.value _ hsize
  have hfree : p.registry.Unused sample := hunused p rfl
  rw [rmwPublish_handle, hpod, if_neg Bool.false_ne_true,
    publishSerialized_granted hloan hfree hcpp hbytes,
    Publisher.publishLoan_sent hfree (hport.send _) hport.notify]
  exact ⟨rfl, _, rfl, hround _⟩

theorem publish_unresolved (hpod : isPod p.typesupport = false)
    (hcpp : p.typesupport.fastrtpsCpp = none) :
    (rmwPublish port (some (publisherHandle p)) (some m)).ret ≠ .ok := by
  rw [rmwPublish_handle, hpod, if_neg Bool.false_ne_true, publishSerialized]
  simp only [rmwSerialize, fastrtpsCallbacks, hcpp, ensureNotNull]
  split <;> simp

theorem takesValue_raw_iff {lang : Lang} {memory : H} {payload : Bytes} {value : M}
    (hpod : isPod s.typesupport = true) (hempty : s.registry = .empty _)
    (destination : RosMessage M) :
    TakesValue t lang memory (subscriptionHandle s) payload value ↔
      t.read lang memory payload = value := by
  constructor
  · intro h
    obtain ⟨-, -, w, hw, hvalue⟩ := h ⟨0, payload⟩ destination rfl fun s' hs' ↦ by
      obtain rfl := Option.some_inj.mp hs'
      exact unused_of_empty hempty _
    rw [rmwTake_handle, if_pos hpod] at hw
    obtain rfl : Written.raw payload = w := Option.some_inj.mp hw
    exact Option.some_inj.mp hvalue
  · intro hvalue sample destination hpayload _
    rw [rmwTake_handle, if_pos hpod]
    refine ⟨rfl, rfl, .raw sample.payload, rfl, ?_⟩
    rw [writtenValue, hpayload, hvalue]

theorem take_deserialized {lang : Lang} {memory : H} {payload : Bytes} {value : M}
    {callbacks : Callbacks M} (hpod : isPod s.typesupport = false)
    (hcpp : s.typesupport.fastrtpsCpp = some (some callbacks))
    (hvalue : callbacks.cdrDeserialize payload = .ok value) :
    TakesValue t lang memory (subscriptionHandle s) payload value := by
  intro sample destination hpayload hunused
  rw [← hpayload] at hvalue
  rw [rmwTake_handle, hpod, if_neg Bool.false_ne_true,
    takeDeserialized_ok (hunused s rfl) hcpp hvalue]
  exact ⟨rfl, rfl, _, rfl, rfl⟩

theorem take_unresolved {lang : Lang} {memory : H} {payload : Bytes} {value : M}
    (hpod : isPod s.typesupport = false) (hcpp : s.typesupport.fastrtpsCpp = none)
    (hempty : s.registry = .empty _) (destination : RosMessage M) :
    ¬ TakesValue t lang memory (subscriptionHandle s) payload value := by
  intro h
  have hunused := unused_of_empty hempty ⟨0, payload⟩
  have hok := (h ⟨0, payload⟩ destination rfl fun s' hs' ↦ by
    rwa [← Option.some_inj.mp hs']).1
  obtain ⟨chain, hfailed⟩ := takeDeserialized_failed (h := subscriptionHandle s) (m := destination)
    hunused fun callbacks value hcallbacks ↦ by simp [hcpp] at hcallbacks
  rw [rmwTake_handle, hpod, if_neg Bool.false_ne_true, hfailed] at hok
  cases hok

theorem grants_granting (hempty : p.registry = .empty _) :
    Grants grantingPort (publisherHandle p) where
  loan n := by
    refine ⟨_, rfl, fun p' hp' ↦ ?_⟩
    obtain rfl := Option.some_inj.mp hp'
    exact unused_of_empty hempty _
  send _ := rfl
  sendSliceCopy _ := rfl
  notify := rfl

def zeroMessage (t : MessageType M H) (lang : Lang) (memory : H) : RosMessage M :=
  ⟨List.replicate (t.description lang).sizeOf 0,
    t.read lang memory (List.replicate (t.description lang).sizeOf 0)⟩

theorem zeroMessage_represents (lang : Lang) (memory : H) :
    t.Represents lang memory (zeroMessage t lang memory) :=
  ⟨List.length_replicate, rfl⟩

section Created

variable {env env' : EndpointAnswers} {mw : CreationAnswers} {mw' : SubscriberCreationAnswers}
  {node node' : Option RmwNode} {topicName : Option String} {qos qos' : Option QosProfile}
  {options options' : Option Unit} {pub : RmwPublisher M} {sub : RmwSubscription M}

/-- A publisher and a subscription of one type that were created on one topic agree on the encoding
exactly if both were created with the type support for C++ and the type is not taken for
self-contained wrongly. -/
theorem encodings_agree_iff [Inhabited H] {lang lang' : Lang}
    (hpub : rmwCreatePublisher env mw node (some (t.typeSupport lang)) topicName qos options =
      .ok pub)
    (hsub : rmwCreateSubscription env' mw' node' (some (t.typeSupport lang')) topicName qos' options' =
      .ok sub) :
    EncodingsAgree t lang lang' pub sub ↔ lang = .cpp ∧ lang' = .cpp ∧
      (isPod (t.typeSupport .cpp) = true → SelfContained (some (t.description .cpp))) := by
  obtain ⟨topic, p, hp, rfl⟩ := rmwCreatePublisher_ok hpub
  obtain ⟨topic', s, hs, rfl⟩ := rmwCreateSubscription_ok hsub
  have hts : p.typesupport = t.typeSupport lang := by rw [Publisher.create_ok hp]
  have hsize : p.unserializedSize = messageSize (t.typeSupport lang) := by
    rw [Publisher.create_ok hp]
  have hts' : s.typesupport = t.typeSupport lang' := by rw [Subscriber.create_ok hs]
  have hempty' : s.registry = .empty _ := by rw [Subscriber.create_ok hs]
  have hgrants : Grants grantingPort (publisherHandle p) :=
    grants_granting (by rw [Publisher.create_ok hp])
  constructor
  · intro h
    have hlang : lang = .cpp := by
      cases lang with
      | cpp => rfl
      | c =>
        have hret := (h _ hgrants default default _ (zeroMessage_represents .c default)).1
        exact absurd hret (publish_unresolved (by rw [hts]; rfl) (by rw [hts]; rfl))
    have hlang' : lang' = .cpp := by
      cases lang' with
      | cpp => rfl
      | c =>
        obtain ⟨-, payload, -, htakes⟩ := h _ hgrants default default _
          (zeroMessage_represents lang default)
        exact absurd htakes (take_unresolved (by rw [hts']; rfl) (by rw [hts']; rfl) hempty'
          (zeroMessage t .c default))
    subst hlang hlang'
    refine ⟨rfl, rfl, fun hpod ↦ ?_⟩
    by_contra hself
    obtain ⟨memory, memory', bytes, hlen, hne⟩ := t.read_pointers hself
    have hraw := publish_raw (p := p) (m := ⟨bytes, t.read .cpp memory bytes⟩) (hts ▸ hpod)
      (hsize.trans hlen.symm) hgrants
    obtain ⟨-, payload, hpayload, htakes⟩ := h _ hgrants memory memory'
      ⟨bytes, t.read .cpp memory bytes⟩ ⟨hlen, rfl⟩
    obtain rfl : bytes = payload := List.singleton_inj.mp (hraw.2.symm.trans hpayload)
    rw [takesValue_raw_iff (hts' ▸ hpod) hempty' ⟨bytes, t.read .cpp memory bytes⟩] at htakes
    exact hne htakes.symm
  · intro h
    obtain ⟨rfl, rfl, hself⟩ := h
    intro port hport memory memory' m hm
    cases hpod : isPod (t.typeSupport .cpp) with
    | true =>
      obtain ⟨hret, hsent⟩ := publish_raw (hts ▸ hpod) (hsize.trans hm.1.symm) hport
      refine ⟨hret, m.bytes, hsent, (takesValue_raw_iff (hts' ▸ hpod) hempty' m).mpr ?_⟩
      rw [← hm.2]
      exact t.read_selfContained (hself hpod) _ _ _
    | false =>
      obtain ⟨hret, payload, hsent, hvalue⟩ := publish_serialized (m := m) hts (hts ▸ hpod) hport
      exact ⟨hret, payload, hsent, take_deserialized (hts' ▸ hpod) (by rw [hts']; rfl) hvalue⟩

end Created

def plainAnswers : EndpointAnswers := ⟨fun _ ↦ "", fun _ ↦ some none, true, true, true⟩

def plainNode : RmwNode := ⟨rmwGetImplementationIdentifier, some (some ()), some ()⟩

def plainQos : QosProfile := ⟨.keepLast, .reliable, .volatile, .automatic, false⟩

def createdPublisher (lang : Lang) : RmwPublisher Text :=
  publisherHandle ⟨"/chatter", textType.typeSupport lang, messageSize (textType.typeSupport lang),
    Names.topic "/chatter", messageSize (textType.typeSupport lang), .empty _⟩

def createdSubscription (lang : Lang) : RmwSubscription Text :=
  subscriptionHandle ⟨"/chatter", textType.typeSupport lang, Names.topic "/chatter", .empty _⟩

theorem createdPublisher_ok (lang : Lang) :
    rmwCreatePublisher plainAnswers ⟨fun _ ↦ .ok (), fun _ ↦ .ok (), fun _ ↦ .ok (), fun _ ↦ .ok (),
      .ok ()⟩ (some plainNode) (some (textType.typeSupport lang)) (some "/chatter") (some plainQos)
        (some ()) = .ok (createdPublisher lang) := by
  cases lang <;> rfl

theorem createdSubscription_ok (lang : Lang) :
    rmwCreateSubscription plainAnswers ⟨fun _ ↦ .ok (), fun _ ↦ .ok (), .ok ()⟩ (some plainNode)
      (some (textType.typeSupport lang)) (some "/chatter") (some plainQos) (some ()) =
        .ok (createdSubscription lang) := by
  cases lang <;> rfl

theorem encodings_agree_iff_text :
    EncodingsAgree textType .cpp .cpp (createdPublisher .cpp) (createdSubscription .cpp) :=
  (encodings_agree_iff (createdPublisher_ok .cpp) (createdSubscription_ok .cpp)).mpr
    ⟨rfl, rfl, fun h ↦ absurd h (by decide)⟩

theorem c_publisher_fails :
    rmwCreatePublisher plainAnswers ⟨fun _ ↦ .ok (), fun _ ↦ .ok (), fun _ ↦ .ok (), fun _ ↦ .ok (),
      .ok ()⟩ (some plainNode) (some (textType.typeSupport .c)) (some "/chatter") (some plainQos)
        (some ()) = .ok (createdPublisher .c) ∧
    rmwCreateSubscription plainAnswers ⟨fun _ ↦ .ok (), fun _ ↦ .ok (), .ok ()⟩ (some plainNode)
      (some (textType.typeSupport .cpp)) (some "/chatter") (some plainQos) (some ()) =
        .ok (createdSubscription .cpp) ∧
    ¬ EncodingsAgree textType .c .cpp (createdPublisher .c) (createdSubscription .cpp) := by
  refine ⟨createdPublisher_ok .c, createdSubscription_ok .cpp, fun h ↦ ?_⟩
  have hret := (h grantingPort (grants_granting rfl) default default _
    (zeroMessage_represents .c default)).1
  exact absurd hret (publish_unresolved rfl rfl)

end RmwIceoryx2.System
