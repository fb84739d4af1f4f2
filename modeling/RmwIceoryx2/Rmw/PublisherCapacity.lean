import RmwIceoryx2.Rmw.Publisher

namespace RmwIceoryx2.Rmw

open RmwIceoryx2.Common RmwIceoryx2.Runtime RmwIceoryx2.Message

variable {M : Type} {typeSupport : TypeSupport M} {p : Publisher M} {m : RosMessage M}

def PublisherOutcome.sliceLens (o : PublisherOutcome M) : List ℕ :=
  o.requests.filterMap PortRequest.sliceLen

theorem loan_requests (port : PublisherPort) (numberOfBytes : ℕ) :
    (p.loan port numberOfBytes).requests = [.loanSliceUninit numberOfBytes] := by
  cases h : port.loanSliceUninit numberOfBytes <;> simp [Publisher.loan, h]

theorem publishCopy_sliceLens (port : PublisherPort) (data : Bytes) (numberOfBytes : ℕ) :
    (p.publishCopy port data numberOfBytes).requests.filterMap PortRequest.sliceLen =
      [min numberOfBytes data.length] := by
  simp only [Publisher.publishCopy]
  cases hsend : port.sendSliceCopy (data.take numberOfBytes) with
  | error e => simp [PortRequest.sliceLen]
  | ok u => cases hnotify : port.notify <;> simp [PortRequest.sliceLen]

theorem publishLoan_sliceLens (port : PublisherPort) (loanedMemory : Address) :
    (p.publishLoan port loanedMemory).requests.filterMap PortRequest.sliceLen = [] := by
  simp only [Publisher.publishLoan]
  repeat' split
  all_goals simp [PortRequest.sliceLen]

theorem publishSerialized_sliceLens (port : PublisherPort) (h : RmwPublisher M) :
    (publishSerialized port h p m).sliceLens = [serializedMessageSize m p.typesupport] := by
  simp only [publishSerialized, PublisherOutcome.sliceLens]
  repeat' split
  all_goals simp [loan_requests, PublisherOutcome.finished, publishLoan_sliceLens,
    PortRequest.sliceLen]

theorem rmwPublish_sliceLens (port : PublisherPort) :
    (rmwPublish port (some (publisherHandle p)) (some m)).sliceLens =
      [if isPod p.typesupport then min p.unserializedSize m.bytes.length
        else serializedMessageSize m p.typesupport] := by
  rw [rmwPublish, checkPublisher_handle]
  cases hpod : isPod p.typesupport with
  | true =>
    simp [publisherHandle, hpod, PublisherOutcome.finished, PublisherOutcome.sliceLens,
      publishCopy_sliceLens]
  | false => simp [publisherHandle, hpod, publishSerialized_sliceLens]

theorem rmwPublishSerializedMessage_sliceLens (port : PublisherPort)
    (serializedMessage : SerializedMessage) :
    (rmwPublishSerializedMessage port (some (publisherHandle p)) (some serializedMessage)).sliceLens =
      [min serializedMessage.bufferLength serializedMessage.buffer.length] := by
  rw [rmwPublishSerializedMessage, checkPublisher_handle]
  simp [PublisherOutcome.finished, PublisherOutcome.sliceLens, publishCopy_sliceLens]

theorem rmwBorrowLoanedMessage_sliceLens (port : PublisherPort)
    (borrowed : Option (TypeSupport M)) (rosMessage : Option (Option Address)) :
    ∀ n ∈ (rmwBorrowLoanedMessage port (some (publisherHandle p)) borrowed rosMessage).sliceLens,
      n = messageSize p.typesupport := by
  rw [rmwBorrowLoanedMessage]
  cases hcheck : checkBorrow (some (publisherHandle p)) borrowed rosMessage with
  | error f => simp [PublisherOutcome.rejected, PublisherOutcome.sliceLens]
  | ok checked =>
    obtain ⟨h, p'⟩ := checked
    obtain rfl : p = p' := Option.some_inj.mp (checkBorrow_ok hcheck).2
    simp only
    cases hloan : (p.loan port (messageSize p.typesupport)).result <;>
      simp [PublisherOutcome.sliceLens, loan_requests, PortRequest.sliceLen]

/-- On every path the slice that the publisher was built with is long enough for the message. -/
structure SliceSuffices (p : Publisher M) (m : RosMessage M) : Prop where
  publish : ∀ port, ∀ n ∈ (rmwPublish port (some (publisherHandle p)) (some m)).sliceLens,
    n ≤ p.initialMaxSliceLen
  borrow : ∀ port typeSupport rosMessage, ∀ n ∈ (rmwBorrowLoanedMessage port
    (some (publisherHandle p)) typeSupport rosMessage).sliceLens, n ≤ p.initialMaxSliceLen
  publishSerialized : ∀ port serializedMessage written,
    rmwSerialize (some m) (some p.typesupport) (some serializedMessage) = .ok written →
      ∀ n ∈ (rmwPublishSerializedMessage port (some (publisherHandle p)) (some written)).sliceLens,
        n ≤ p.initialMaxSliceLen

/-- In CDR the message is no longer than the generated struct. -/
structure SerializedFits (typeSupport : TypeSupport M) (m : RosMessage M) : Prop where
  header : isPod typeSupport = false → typeSupport.hasData = true →
    ∀ callbacks, typeSupport.fastrtpsCpp = some (some callbacks) →
      4 + callbacks.getSerializedSize m.value ≤ messageSize typeSupport
  serialized : ∀ callbacks, typeSupport.fastrtpsCpp = some (some callbacks) →
    ∀ capacity bytes, callbacks.cdrSerialize m.value capacity = .ok bytes →
      bytes.length ≤ messageSize typeSupport

theorem serializedMessageSize_le {bound : ℕ} (hcallbacks : typeSupport.fastrtpsCpp ≠ some none)
    (h : typeSupport.hasData = true → ∀ callbacks,
      typeSupport.fastrtpsCpp = some (some callbacks) →
        4 + callbacks.getSerializedSize m.value ≤ bound) :
    serializedMessageSize m typeSupport ≤ bound := by
  rw [serializedMessageSize]
  cases hdata : typeSupport.hasData with
  | false => simp
  | true =>
    match hcpp : typeSupport.fastrtpsCpp with
    | none => simp
    | some none => exact absurd hcpp hcallbacks
    | some (some callbacks) => exact h hdata callbacks hcpp

/-- A publisher's slice is long enough for a message on every path exactly if the generated struct
is as long as the message in CDR. -/
theorem slice_suffices_iff {mw : CreationAnswers} {topic : String} (registry : SampleRegistry)
    (hcallbacks : typeSupport.fastrtpsCpp ≠ some none)
    (hp : Publisher.create mw topic typeSupport = .ok p) :
    SliceSuffices { p with registry := registry } m ↔ SerializedFits typeSupport m := by
  obtain rfl := Publisher.create_ok hp
  constructor
  · intro h
    refine ⟨fun hpod hdata callbacks hcpp ↦ ?_, fun callbacks hcpp capacity bytes hbytes ↦ ?_⟩
    · have hle := h.publish default (serializedMessageSize m typeSupport)
        (by rw [rmwPublish_sliceLens]; simp [hpod])
      simpa only [serializedMessageSize, hdata, if_true, hcpp, Option.map_some, Option.getD_some]
        using hle
    · have hwritten : rmwSerialize (some m) (some typeSupport) (some ⟨[], 0, capacity⟩) =
          .ok ⟨bytes, bytes.length, capacity⟩ :=
        rmwSerialize_ok.mpr ⟨callbacks, bytes, hcpp, hbytes, by simp⟩
      exact h.publishSerialized default _ _ hwritten bytes.length
        (by rw [rmwPublishSerializedMessage_sliceLens]; simp)
  · intro h
    refine ⟨fun port n hn ↦ ?_, fun port borrowed rosMessage n hn ↦ ?_,
      fun port serializedMessage written hwritten n hn ↦ ?_⟩
    · rw [rmwPublish_sliceLens, List.mem_singleton] at hn
      cases hpod : isPod typeSupport with
      | true =>
        rw [hn, hpod]
        exact Nat.min_le_left _ _
      | false =>
        rw [hn, hpod]
        exact serializedMessageSize_le hcallbacks (h.header hpod)
    · exact (rmwBorrowLoanedMessage_sliceLens port borrowed rosMessage n hn).le
    · obtain ⟨callbacks, bytes, hcpp, hbytes, rfl⟩ := rmwSerialize_ok.mp hwritten
      rw [rmwPublishSerializedMessage_sliceLens, List.mem_singleton] at hn
      have hle := h.serialized callbacks hcpp _ _ hbytes
      rw [hn]
      exact (Nat.min_le_left _ _).trans hle

def chatterPublisher : Publisher Text :=
  ⟨"chatter", textTypeSupport, 32, Names.topic "chatter", 32, .empty _⟩

def text (n : ℕ) (h : n + 1 < 2 ^ 32) : RosMessage Text :=
  ⟨List.replicate 32 0, ⟨List.replicate n 97, by rwa [List.length_replicate]⟩⟩

theorem slice_suffices_iff_text : SliceSuffices chatterPublisher (text 16 (by decide)) := by
  have hp : Publisher.create ⟨fun _ ↦ .ok (), fun _ ↦ .ok (), fun _ ↦ .ok (), fun _ ↦ .ok (), .ok ()⟩
      "chatter" textTypeSupport = .ok chatterPublisher := rfl
  refine (slice_suffices_iff (.empty _) (by simp [textTypeSupport]) hp).mpr
    ⟨fun _ _ callbacks hcpp ↦ ?_, fun callbacks hcpp capacity bytes hbytes ↦ ?_⟩
  · obtain rfl : textCallbacks = callbacks := by simpa [textTypeSupport] using hcpp
    decide
  · obtain rfl : textCallbacks = callbacks := by simpa [textTypeSupport] using hcpp
    by_cases hcap : (cdrText (text 16 (by decide)).value).length ≤ capacity
    · simp only [textCallbacks, hcap, if_true, Except.ok.injEq] at hbytes
      rw [← hbytes]
      decide
    · simp [textCallbacks, hcap] at hbytes

def staticPort (sliceLen : ℕ) : PublisherPort where
  loanSliceUninit n := if n ≤ sliceLen then .ok ⟨7, List.replicate n 0⟩ else .error "ExceedsMaxLoanSize"
  send _ := .ok ()
  sendSliceCopy payload := if payload.length ≤ sliceLen then .ok () else .error "ExceedsMaxLoanSize"
  notify := .ok ()

theorem long_text_refused : ¬ SliceSuffices chatterPublisher (text 100 (by decide)) ∧
    (rmwPublish (staticPort chatterPublisher.initialMaxSliceLen)
      (some (publisherHandle chatterPublisher)) (some (text 100 (by decide)))).ret = .error := by
  refine ⟨fun h ↦ ?_, by decide⟩
  have hle := h.publish default 109 (by decide)
  exact absurd hle (by decide)

end RmwIceoryx2.Rmw
