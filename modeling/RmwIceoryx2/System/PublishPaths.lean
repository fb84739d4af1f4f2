import RmwIceoryx2.System.Encoding

namespace RmwIceoryx2.System

open RmwIceoryx2.Common RmwIceoryx2.Runtime RmwIceoryx2.Message RmwIceoryx2.Rmw
open RmwIceoryx2.Library

variable {M H : Type}

/-- Serializing into a buffer that is large enough writes the announced number of bytes. -/
def WritesSerializedSize (callbacks : Callbacks M) : Prop :=
  ∀ value capacity, callbacks.getSerializedSize value ≤ capacity →
    ∃ bytes, callbacks.cdrSerialize value capacity = .ok bytes ∧
      bytes.length = callbacks.getSerializedSize value

/-- A loan is as long as requested; what its memory held before is not known. -/
def LoansRequestedSize (port : PublisherPort) : Prop :=
  ∀ n sample, port.loanSliceUninit n = .ok sample → sample.payload.length = n

def publishedPayloads (port : PublisherPort) (pub : RmwPublisher M) (m : RosMessage M) :
    List Bytes := (rmwPublish port (some pub) (some m)).requests.filterMap payloadSent

/-- What `rmw_serialize` into `destination` and then `rmw_publish_serialized_message` send. -/
def serializedPayloads (port : PublisherPort) (pub : RmwPublisher M) (typeSupport : TypeSupport M)
    (destination : SerializedMessage) (m : RosMessage M) : List Bytes :=
  match rmwSerialize (some m) (some typeSupport) (some destination) with
  | .error _ => []
  | .ok serialized =>
    (rmwPublishSerializedMessage port (some pub) (some serialized)).requests.filterMap payloadSent

variable {t : MessageType M H} {port : PublisherPort} {p : Publisher M} {m : RosMessage M}
  {destination : SerializedMessage} {lang : Lang}

theorem publishedPayloads_c (hts : p.typesupport = t.typeSupport .c) :
    publishedPayloads port (publisherHandle p) m = [] := by
  have hsize : serializedMessageSize m p.typesupport = 0 := by rw [hts]; rfl
  have hserialize : ∀ destination, rmwSerialize (some m) (some p.typesupport) (some destination) =
      .error ⟨.error, ["failed to get typesupport handle"]⟩ := by
    intro destination
    rw [hts]
    rfl
  have hpod : isPod p.typesupport = false := by rw [hts]; rfl
  rw [publishedPayloads, rmwPublish_handle, hpod, if_neg Bool.false_ne_true, publishSerialized, hsize]
  cases hloan : port.loanSliceUninit 0 with
  | error e => simp only [Publisher.loan_refused hloan]; rfl
  | ok sample => simp only [Publisher.loan, hloan, hserialize]; rfl

theorem serializedPayloads_c (pub : RmwPublisher M) :
    serializedPayloads port pub (t.typeSupport .c) destination m = [] := rfl

/-- The loan is four bytes longer than the message in CDR, and those keep what the memory held. -/
theorem publishedPayloads_cpp (hts : p.typesupport = t.typeSupport .cpp)
    (hpod : isPod p.typesupport = false) (hwrites : WritesSerializedSize (t.callbacks .cpp))
    (hport : Grants port (publisherHandle p)) {sample : Sample}
    (hloan : port.loanSliceUninit (4 + (t.callbacks .cpp).getSerializedSize m.value) = .ok sample) :
    ∃ bytes, (t.callbacks .cpp).cdrSerialize m.value
        (4 + (t.callbacks .cpp).getSerializedSize m.value) = .ok bytes ∧
      bytes.length = (t.callbacks .cpp).getSerializedSize m.value ∧
        publishedPayloads port (publisherHandle p) m =
          [bytes ++ sample.payload.drop bytes.length] := by
  have hcpp : p.typesupport.fastrtpsCpp = some (some (t.callbacks .cpp)) := by rw [hts]; rfl
  have hsize : serializedMessageSize m p.typesupport =
      4 + (t.callbacks .cpp).getSerializedSize m.value := by rw [hts]; rfl
  obtain ⟨granted, hgranted, hunused⟩ := hport.loan
    (4 + (t.callbacks .cpp).getSerializedSize m.value)
  obtain rfl : sample = granted := Except.ok.inj (hloan.symm.trans hgranted)
  obtain ⟨bytes, hbytes, hlen⟩ := hwrites m.value _ (Nat.le_add_left _ 4)
  have hfree : p.registry.Unused sample := hunused p rfl
  refine ⟨bytes, hbytes, hlen, ?_⟩
  rw [publishedPayloads, rmwPublish_handle, hpod, if_neg Bool.false_ne_true,
    publishSerialized_granted (hsize ▸ hloan) hfree hcpp (hsize ▸ hbytes),
    Publisher.publishLoan_sent hfree (hport.send _) hport.notify]
  rfl

theorem serializedPayloads_cpp (hwrites : WritesSerializedSize (t.callbacks .cpp))
    (hport : Grants port (publisherHandle p))
    (hcapacity : (t.callbacks .cpp).getSerializedSize m.value ≤ destination.bufferCapacity) :
    ∃ bytes, (t.callbacks .cpp).cdrSerialize m.value destination.bufferCapacity = .ok bytes ∧
      bytes.length = (t.callbacks .cpp).getSerializedSize m.value ∧
        serializedPayloads port (publisherHandle p) (t.typeSupport .cpp) destination m =
          [bytes] := by
  obtain ⟨bytes, hbytes, hlen⟩ := hwrites m.value _ hcapacity
  have hwritten := rmwSerialize_ok.mpr
    ⟨t.callbacks .cpp, bytes, (rfl : (t.typeSupport .cpp).fastrtpsCpp = _), hbytes, rfl⟩
  refine ⟨bytes, hbytes, hlen, ?_⟩
  have htake : (bytes ++ destination.buffer.drop bytes.length).take bytes.length = bytes :=
    List.take_left
  simp only [serializedPayloads, hwritten, rmwPublishSerializedMessage, checkPublisher_handle,
    PublisherOutcome.finished, Publisher.publishCopy, htake, hport.sendSliceCopy, hport.notify]
  rfl

section Created

variable {env : EndpointAnswers} {mw : CreationAnswers} {node : Option RmwNode}
  {topicName : Option String} {qos : Option QosProfile} {options : Option Unit}
  {pub : RmwPublisher M}

/-- The two ways of publishing send the same exactly if the publisher has the type support for C,
where neither sends anything, or the code takes the type for self-contained and the struct of the
message happens to be its own serialization. -/
theorem publish_paths_agree_iff
    (hpub : rmwCreatePublisher env mw node (some (t.typeSupport lang)) topicName qos options =
      .ok pub)
    (hwrites : WritesSerializedSize (t.callbacks .cpp)) (hport : Grants port pub)
    (hsized : LoansRequestedSize port) (hm : m.bytes.length = (t.description lang).sizeOf)
    (hcapacity : (t.callbacks .cpp).getSerializedSize m.value ≤ destination.bufferCapacity) :
    publishedPayloads port pub m =
        serializedPayloads port pub (t.typeSupport lang) destination m ↔
      lang = .c ∨ (isPod (t.typeSupport .cpp) = true ∧
        (t.callbacks .cpp).cdrSerialize m.value destination.bufferCapacity = .ok m.bytes) := by
  obtain ⟨topic, p, hp, rfl⟩ := rmwCreatePublisher_ok hpub
  have hts : p.typesupport = t.typeSupport lang := by rw [Publisher.create_ok hp]
  have hunserialized : p.unserializedSize = messageSize (t.typeSupport lang) := by
    rw [Publisher.create_ok hp]
  cases lang with
  | c => simp [publishedPayloads_c hts, serializedPayloads_c]
  | cpp =>
    obtain ⟨bytes, hbytes, hlen, hserialized⟩ := serializedPayloads_cpp hwrites hport hcapacity
    rw [hserialized, hbytes]
    cases hpod : isPod (t.typeSupport .cpp) with
    | true =>
      have hraw := publish_raw (hts ▸ hpod) (hunserialized.trans hm.symm) hport
      rw [publishedPayloads, hraw.2]
      simp [eq_comm]
    | false =>
      obtain ⟨sample, hloan, -⟩ := hport.loan (4 + (t.callbacks .cpp).getSerializedSize m.value)
      have hloaned : sample.payload.length = 4 + (t.callbacks .cpp).getSerializedSize m.value :=
        hsized _ _ hloan
      obtain ⟨written, -, hwritten, hpublished⟩ :=
        publishedPayloads_cpp hts (hts ▸ hpod) hwrites hport hloan
      rw [hpublished]
      simp only [reduceCtorEq, Bool.false_eq_true, false_and, or_false, iff_false]
      intro hsame
      have hlength := congrArg List.length (List.singleton_inj.mp hsame)
      rw [List.length_append, List.length_drop] at hlength
      omega

end Created

def recyclingPort : PublisherPort :=
  { grantingPort with loanSliceUninit := fun n ↦ .ok ⟨7, List.replicate n 238⟩ }

theorem recyclingPort_grants : Grants recyclingPort (createdPublisher .cpp) where
  loan n := by
    refine ⟨_, rfl, fun p hp ↦ ?_⟩
    obtain rfl := Option.some_inj.mp hp
    exact unused_of_empty rfl _
  send _ := rfl
  sendSliceCopy _ := rfl
  notify := rfl

theorem recyclingPort_sized : LoansRequestedSize recyclingPort := by
  intro n sample h
  obtain rfl := Except.ok.inj h
  exact List.length_replicate

theorem textCallbacks_write : WritesSerializedSize textCallbacks := by
  intro text capacity hsize
  rw [← cdrText_length] at hsize
  exact ⟨cdrText text, by simp only [textCallbacks, hsize, if_true], cdrText_length text⟩

def greeting : RosMessage Text := ⟨List.replicate 32 0, ⟨[104, 105], by decide⟩⟩

def blankMessage : SerializedMessage := ⟨List.replicate 16 0, 0, 16⟩

theorem publish_paths_agree_iff_greeting :
    publishedPayloads recyclingPort (createdPublisher .cpp) greeting ≠
      serializedPayloads recyclingPort (createdPublisher .cpp) (textType.typeSupport .cpp)
        blankMessage greeting := by
  intro hsame
  have h := (publish_paths_agree_iff (createdPublisher_ok .cpp) textCallbacks_write
    recyclingPort_grants recyclingPort_sized rfl (by decide)).mp hsame
  obtain h | ⟨h, -⟩ := h
  all_goals exact absurd h (by decide)

/-- The message is published with four bytes that it does not determine. -/
theorem recycled_bytes_published :
    Grants recyclingPort (createdPublisher .cpp) ∧ LoansRequestedSize recyclingPort ∧
      WritesSerializedSize (textType.callbacks .cpp) ∧
      ¬ SelfContained (some (textType.description .cpp)) ∧
      publishedPayloads recyclingPort (createdPublisher .cpp) greeting =
        [[3, 0, 0, 0, 104, 105, 0, 238, 238, 238, 238]] ∧
      serializedPayloads recyclingPort (createdPublisher .cpp) (textType.typeSupport .cpp)
        blankMessage greeting = [[3, 0, 0, 0, 104, 105, 0]] ∧
      publishedPayloads recyclingPort (createdPublisher .cpp) greeting ≠
        serializedPayloads recyclingPort (createdPublisher .cpp) (textType.typeSupport .cpp)
          blankMessage greeting := by
  refine ⟨recyclingPort_grants, recyclingPort_sized, textCallbacks_write,
    textMembers_not_selfContained .cpp, ?_, ?_, ?_⟩
  all_goals decide

end RmwIceoryx2.System
