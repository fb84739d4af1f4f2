import RmwIceoryx2.Library.Execution
import RmwIceoryx2.Rmw.Subscription
import RmwIceoryx2.System.Encoding

namespace RmwIceoryx2.System

open RmwIceoryx2.Common RmwIceoryx2.Runtime RmwIceoryx2.Message RmwIceoryx2.Rmw
open RmwIceoryx2.Library RmwIceoryx2.Library.Execution

variable {M : Type}

/-- What `rmw_serialized_message_resize` does when it succeeds. -/
def Resizes (resize : SerializedMessage → ℕ → Option SerializedMessage) : Prop :=
  ∀ message size resized, resize message size = some resized →
    resized.bufferCapacity = size ∧ resized.bufferLength = min message.bufferLength size ∧
      resized.buffer.length = size

/-- One process that takes a serialized message and publishes it again. -/
structure Hop (M : Type) where
  subscription : RmwSubscription M
  publisher : RmwPublisher M
  address : Address
  resize : SerializedMessage → ℕ → Option SerializedMessage
  destination : SerializedMessage
  port : PublisherPort

structure Relay where
  payload : Bytes
  message : Option SerializedMessage
  deriving DecidableEq, Repr

def Hop.take (hop : Hop M) (payload : Bytes) : SubscriptionOutcome M :=
  rmwTakeSerializedMessage (.ok (some ⟨hop.address, payload⟩)) hop.resize (some hop.subscription)
    (some hop.destination) (some false)

def Hop.publish (hop : Hop M) (message : Option SerializedMessage) : PublisherOutcome M :=
  rmwPublishSerializedMessage hop.port (some hop.publisher) message

def forward (r : Relay) (hop : Hop M) : Relay where
  payload := ((hop.publish (hop.take r.payload).serialized).requests.filterMap
    payloadSent).head?.getD []
  message := (hop.take r.payload).serialized

structure Forwards (r : Relay) (hop : Hop M) : Prop where
  resizes : Resizes hop.resize
  takes : (hop.take r.payload).ret = .ok ∧ (hop.take r.payload).taken = some true
  publishes : (hop.publish (hop.take r.payload).serialized).ret = .ok

/-- The bytes are on their way, and are what the last taken message says it holds. -/
def Carries (b : Bytes) (r : Relay) : Prop :=
  r.payload = b ∧ ∀ message, r.message = some message →
    message.bufferLength = b.length ∧ message.buffer.take message.bufferLength = b

def LongEnough (r : Relay) (hop : Hop M) : Prop :=
  r.payload.length ≤ hop.destination.bufferLength

variable {r : Relay} {hop : Hop M}

theorem taken_message (h : Forwards r hop) :
    ∃ message, (hop.take r.payload).serialized = some message ∧
      message.bufferLength = min hop.destination.bufferLength r.payload.length ∧
      message.buffer.take r.payload.length = r.payload := by
  obtain ⟨hresize, ⟨hret, -⟩, -⟩ := h
  simp only [Hop.take, rmwTakeSerializedMessage] at hret ⊢
  cases hcheck : checkTake (some hop.subscription) "serialized_message" (some hop.destination)
      (some false) with
  | error f =>
    simp only [hcheck, SubscriptionOutcome.ended] at hret
    exact absurd hret (checkTake_rejects hcheck)
  | ok checked =>
    obtain ⟨-, -, s, v, -, hv, rfl⟩ := checkTake_eq_ok.mp hcheck
    obtain rfl := Option.some_inj.mp hv
    simp only [hcheck, Subscriber.takeLoan, SubscriberLoan.numberOfBytes] at hret ⊢
    cases hsize : hop.resize hop.destination r.payload.length with
    | none => simp [hsize, SubscriptionOutcome.ended] at hret
    | some resized =>
      obtain ⟨-, hlength, -⟩ := hresize _ _ _ hsize
      simp only [hsize] at hret ⊢
      split
      all_goals exact ⟨_, rfl, hlength, List.take_left⟩

theorem published_payload {message : SerializedMessage}
    (h : (hop.publish (some message)).ret = .ok) :
    (hop.publish (some message)).requests.filterMap payloadSent =
      [message.buffer.take message.bufferLength] := by
  simp only [Hop.publish, rmwPublishSerializedMessage] at h ⊢
  cases hcheck : checkPublisher (some hop.publisher) "serialized_message" (some message) with
  | error f =>
    simp only [hcheck, PublisherOutcome.rejected] at h
    exact absurd h (checkPublisher_rejects hcheck)
  | ok checked =>
    obtain ⟨-, p, v, -, hv, rfl⟩ := checkPublisher_eq_ok.mp hcheck
    obtain rfl := Option.some_inj.mp hv
    simp only [Publisher.publishCopy, PublisherOutcome.finished]
    cases hsend : hop.port.sendSliceCopy (message.buffer.take message.bufferLength) with
    | error e => rfl
    | ok u => cases hnotify : hop.port.notify <;> rfl

theorem forward_spec (h : Forwards r hop) :
    ∃ message, forward r hop = ⟨message.buffer.take message.bufferLength, some message⟩ ∧
      message.bufferLength = min hop.destination.bufferLength r.payload.length ∧
      message.buffer.take r.payload.length = r.payload := by
  obtain ⟨message, htaken, hlength, hbytes⟩ := taken_message h
  have hpublishes := h.publishes
  rw [htaken] at hpublishes
  refine ⟨message, ?_, hlength, hbytes⟩
  rw [forward, htaken, published_payload hpublishes]
  rfl

/-- A hop keeps the bytes and states their number exactly if the old length is no shorter. -/
theorem forward_carries_iff {b : Bytes} (hr : Carries b r) (h : Forwards r hop) :
    Carries b (forward r hop) ↔ LongEnough r hop := by
  obtain ⟨rfl, -⟩ := hr
  obtain ⟨message, hforward, hlength, hbytes⟩ := forward_spec h
  rw [hforward]
  constructor
  · intro hcarries
    obtain ⟨hstated, -⟩ := hcarries.2 message rfl
    rw [LongEnough]
    omega
  · intro hlong
    rw [LongEnough] at hlong
    have hstated : message.bufferLength = r.payload.length := by omega
    have hkept : message.buffer.take message.bufferLength = r.payload := by rw [hstated, hbytes]
    refine ⟨hkept, fun message' hmessage' ↦ ?_⟩
    obtain rfl := Option.some_inj.mp hmessage'
    exact ⟨hstated, hkept⟩

/-- Over any number of hops the bytes arrive unchanged, and each taken message states their number,
exactly if every destination was at least as long before. -/
theorem forwards_unchanged_iff {b : Bytes} {hops : List (Hop M)}
    (h : Admissible forward Forwards ⟨b, none⟩ hops) :
    (∀ pre, pre <+: hops → Carries b (run forward ⟨b, none⟩ pre)) ↔
      Admissible forward LongEnough ⟨b, none⟩ hops :=
  always_iff (fun _ _ ↦ forward_carries_iff) ⟨rfl, fun _ hnone ↦ by cases hnone⟩ h

def resizeChecked (message : SerializedMessage) (size : ℕ) : Option SerializedMessage :=
  some ⟨(message.buffer ++ List.replicate size 0).take size, min message.bufferLength size, size⟩

theorem resizeChecked_resizes : Resizes resizeChecked := by
  intro message size resized h
  obtain rfl := Option.some_inj.mp h
  refine ⟨rfl, rfl, ?_⟩
  rw [List.length_take, List.length_append, List.length_replicate]
  omega

def chatterHop (length : ℕ) : Hop Text where
  subscription := subscriptionHandle
    ⟨"/chatter", textTypeSupport, Names.topic "/chatter", .empty _⟩
  publisher := publisherHandle
    ⟨"/chatter", textTypeSupport, 32, Names.topic "/chatter", 32, .empty _⟩
  address := 7
  resize := resizeChecked
  destination := ⟨List.replicate 8 0, length, 8⟩
  port := grantingPort

theorem forwards_unchanged_iff_chatter :
    (∀ pre, pre <+: [chatterHop 8, chatterHop 4] →
      Carries [1, 2, 3, 4] (run forward ⟨[1, 2, 3, 4], none⟩ pre)) ↔
      Admissible forward LongEnough ⟨[1, 2, 3, 4], none⟩ [chatterHop 8, chatterHop 4] :=
  forwards_unchanged_iff ⟨⟨resizeChecked_resizes, by decide, by decide⟩,
    ⟨resizeChecked_resizes, by decide, by decide⟩, trivial⟩

/-- A message that was just initialised holds nothing after the take, and nothing is passed on. -/
theorem fresh_message_stays_empty :
    Forwards ⟨[1, 2, 3, 4], none⟩ (chatterHop 0) ∧
      (forward ⟨[1, 2, 3, 4], none⟩ (chatterHop 0)).message =
        some ⟨[1, 2, 3, 4], 0, 4⟩ ∧
      (forward ⟨[1, 2, 3, 4], none⟩ (chatterHop 0)).payload = [] ∧
      ¬ ∀ pre, pre <+: [chatterHop 0] → Carries [1, 2, 3, 4] (run forward ⟨[1, 2, 3, 4], none⟩ pre) := by
  have hforward : forward ⟨[1, 2, 3, 4], none⟩ (chatterHop 0) = ⟨[], some ⟨[1, 2, 3, 4], 0, 4⟩⟩ := by
    decide
  refine ⟨⟨resizeChecked_resizes, by decide, by decide⟩, congrArg Relay.message hforward,
    congrArg Relay.payload hforward, fun hall ↦ ?_⟩
  have hcarries := hall _ (List.prefix_rfl)
  rw [run_cons, run_nil, hforward] at hcarries
  exact absurd hcarries.1 (by decide)

end RmwIceoryx2.System
