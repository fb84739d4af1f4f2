import RmwIceoryx2.Library.Execution
import RmwIceoryx2.Rmw.Subscription

namespace RmwIceoryx2.System

open RmwIceoryx2.Common RmwIceoryx2.Runtime RmwIceoryx2.Message RmwIceoryx2.Rmw
open RmwIceoryx2.Library.Execution

/-- A topic as one subscription sees it, with the payloads that were sent on its service. -/
structure Topic (M : Type) where
  subscription : RmwSubscription M
  sent : List Bytes

/-- Some publisher sends a payload, or the application calls on the subscription. -/
inductive TopicOp (M : Type)
  | send (payload : Bytes)
  | call (op : SubscriptionOp M)

variable {M : Type} {typeSupport : TypeSupport M} {h : RmwSubscription M}

def topicExec (t : Topic M) : TopicOp M → Topic M
  | .send payload => { t with sent := t.sent ++ [payload] }
  | .call op => { t with subscription := subscriptionExec t.subscription op }

def Delivers (t : Topic M) : TopicOp M → Prop
  | .call (.take port _ _) | .call (.takeLoaned port _ _) =>
    ∀ sample, port = .ok (some sample) → sample.payload ∈ t.sent
  | _ => True

def payloadsSent (ops : List (TopicOp M)) : List Bytes :=
  ops.filterMap fun | .send payload => some payload | .call _ => none

/-- An error or no message with the destination untouched, or the bytes of one message. -/
def WritesOneMessage (typeSupport : TypeSupport M) (o : SubscriptionOutcome M) : Prop :=
  (o.written = none ∧ (o.ret ≠ .ok ∨ o.taken = some false)) ∨
    ∃ bytes, o.written = some (.raw bytes) ∧ bytes.length = messageSize typeSupport

def LendsOneMessage (typeSupport : TypeSupport M) (o : SubscriptionOutcome M) : Prop :=
  ∀ loan, o.loaned = some loan → messageSize typeSupport ≤ loan.payload.length

def TakesOneMessage (typeSupport : TypeSupport M) (t : Topic M) (op : TopicOp M) : Prop :=
  match op with
  | .call (.take port rosMessage taken) => WritesOneMessage typeSupport
      (subscriptionCall t.subscription (.take port rosMessage taken))
  | .call (.takeLoaned port loanedMessage taken) => LendsOneMessage typeSupport
      (subscriptionCall t.subscription (.takeLoaned port loanedMessage taken))
  | _ => True

theorem takeRaw_writes_iff {sample : Sample} {taken : Option Bool} :
    WritesOneMessage typeSupport (takeRaw (.ok (some sample)) h taken) ↔
      sample.payload.length = messageSize typeSupport := by
  simp [WritesOneMessage, takeRaw, Subscriber.takeCopy, SubscriptionOutcome.ended]

theorem take_writes {port : SubscriberPort} {rosMessage : Option (RosMessage M)}
    {taken : Option Bool} (hloans : h.canLoanMessages = true)
    (hport : ∀ sample, port = .ok (some sample) →
      sample.payload.length = messageSize typeSupport) :
    WritesOneMessage typeSupport (subscriptionCall h (.take port rosMessage taken)) := by
  simp only [subscriptionCall, rmwTake]
  cases hcheck : checkTake (some h) "ros_message" rosMessage taken with
  | error f => exact Or.inl ⟨rfl, Or.inl (checkTake_rejects hcheck)⟩
  | ok checked =>
    obtain ⟨-, -, s, m, -, -, rfl⟩ := checkTake_eq_ok.mp hcheck
    simp only [hloans, if_true]
    rcases port with e | _ | sample
    · exact Or.inl ⟨rfl, Or.inl (by simp [takeRaw, Subscriber.takeCopy,
        SubscriptionOutcome.ended])⟩
    · exact Or.inl ⟨rfl, Or.inr rfl⟩
    · exact takeRaw_writes_iff.mpr (hport sample rfl)

theorem takeLoaned_lends {port : SubscriberPort} {loanedMessage : Option (Option Address)}
    {taken : Option Bool}
    (hport : ∀ sample, port = .ok (some sample) →
      messageSize typeSupport ≤ sample.payload.length) :
    LendsOneMessage typeSupport (subscriptionCall h (.takeLoaned port loanedMessage taken)) := by
  intro loan hloan
  simp only [subscriptionCall, rmwTakeLoanedMessage] at hloan
  cases hcheck : checkTakeLoaned (some h) loanedMessage taken with
  | error f => simp [hcheck, SubscriptionOutcome.ended] at hloan
  | ok checked =>
    obtain ⟨h', s⟩ := checked
    rcases port with e | _ | sample
    · simp [hcheck, Subscriber.takeLoan, SubscriptionOutcome.ended] at hloan
    · simp [hcheck, Subscriber.takeLoan, SubscriptionOutcome.ended] at hloan
    · simp only [hcheck, Subscriber.takeLoan, SubscriptionOutcome.ended, Option.some_inj] at hloan
      obtain rfl := hloan
      exact hport sample rfl

/-- A topic with a self-contained subscription on which only the given payloads were sent. -/
def RawOnly (payloads : List Bytes) (t : Topic M) : Prop :=
  t.subscription.canLoanMessages = true ∧ ∀ p ∈ t.sent, p ∈ payloads

theorem rawOnly_step {payloads : List Bytes} {t : Topic M} {op : TopicOp M}
    (ht : RawOnly payloads t) (hop : ∀ p, op = .send p → p ∈ payloads) :
    RawOnly payloads (topicExec t op) := by
  cases op with
  | send payload =>
    refine ⟨ht.1, fun p hp ↦ ?_⟩
    rcases List.mem_append.mp hp with hp | hp
    · exact ht.2 p hp
    · exact hop p (by rw [List.mem_singleton.mp hp])
  | call op =>
    obtain ⟨data, hdata⟩ := subscriptionExec_handle t.subscription op
    refine ⟨?_, ht.2⟩
    rw [topicExec, hdata]
    exact ht.1

theorem takesOneMessage_of_rawOnly {payloads : List Bytes} {t : Topic M} {op : TopicOp M}
    (hsize : ∀ p ∈ payloads, p.length = messageSize typeSupport) (ht : RawOnly payloads t)
    (hop : Delivers t op) : TakesOneMessage typeSupport t op := by
  match op with
  | .call (.take port rosMessage taken) =>
    exact take_writes ht.1 fun sample hs ↦ hsize _ (ht.2 _ (hop sample hs))
  | .call (.takeLoaned port loanedMessage taken) =>
    exact takeLoaned_lends fun sample hs ↦ (hsize _ (ht.2 _ (hop sample hs))).ge
  | .call (.takeSerialized _ _ _ _) => trivial
  | .call (.returnLoaned _) => trivial
  | .send payload => trivial

theorem run_sends (t : Topic M) (payloads : List Bytes) :
    run topicExec t (payloads.map .send) = { t with sent := t.sent ++ payloads } := by
  induction payloads generalizing t with
  | nil => simp
  | cons p payloads ih => simp [ih, topicExec]

theorem payloadsSent_sends (payloads : List Bytes) (op : SubscriptionOp M) :
    payloadsSent (payloads.map .send ++ [.call op]) = payloads := by
  simp [payloadsSent]

/-- Whatever is received of the payloads, and whenever, each take takes one message. -/
def TakesMessages (s : Subscriber M) (payloads : List Bytes) : Prop :=
  ∀ ops, payloadsSent ops = payloads →
    Admissible topicExec Delivers ⟨subscriptionHandle s, []⟩ ops →
      Admissible topicExec (TakesOneMessage s.typesupport) ⟨subscriptionHandle s, []⟩ ops

/-- A self-contained subscription takes messages exactly if each payload is as long as one. -/
theorem raw_takes_iff (s : Subscriber M) (hpod : isPod s.typesupport = true)
    (destination : RosMessage M) (payloads : List Bytes) :
    TakesMessages s payloads ↔ ∀ p ∈ payloads, p.length = messageSize s.typesupport := by
  constructor
  · intro hall p hp
    have hsends : Admissible topicExec Delivers ⟨subscriptionHandle s, []⟩
        (payloads.map .send) := by
      refine admissible_of_forall _ fun op hop t ↦ ?_
      obtain ⟨q, -, rfl⟩ := List.mem_map.mp hop
      trivial
    have hdelivers : Delivers (run topicExec ⟨subscriptionHandle s, []⟩ (payloads.map .send))
        (.call (.take (.ok (some ⟨0, p⟩)) (some destination) (some false))) := by
      intro sample hs
      obtain rfl : (⟨0, p⟩ : Sample) = sample := by simpa using hs
      simpa only [run_sends, List.nil_append] using hp
    have htakes := hall _ (payloadsSent_sends payloads _)
      ((admissible_snoc _ _ _ _).mpr ⟨hsends, hdelivers⟩)
    have htake := ((admissible_snoc _ _ _ _).mp htakes).2
    rw [run_sends, TakesOneMessage, subscriptionCall, rmwTake_handle, if_pos hpod,
      takeRaw_writes_iff] at htake
    exact htake
  · intro hsize ops hsent hops
    have honly : Admissible topicExec (fun _ op ↦ ∀ p, op = .send p → p ∈ payloads)
        (⟨subscriptionHandle s, []⟩ : Topic M) ops := by
      refine admissible_of_forall _ fun op hop _ p hp ↦ ?_
      rw [← hsent, payloadsSent, List.mem_filterMap]
      exact ⟨op, hop, by rw [hp]⟩
    refine Admissible.of_invariant (fun t op ht hop ↦ rawOnly_step ht hop.2)
      (fun t op ht hop ↦ takesOneMessage_of_rawOnly hsize ht hop.1) ?_ (hops.and honly)
    exact ⟨hpod, by simp⟩

def wordSubscriber : Subscriber Unit :=
  ⟨"chatter", ⟨true, none, some ⟨4, [⟨.uint32, false, 0, false, none⟩]⟩, none, some none⟩,
    "ros2://topics/chatter", .empty _⟩

theorem raw_takes_iff_word : TakesMessages wordSubscriber [[1, 2, 3, 4]] :=
  (raw_takes_iff wordSubscriber (by decide) ⟨[0, 0, 0, 0], ()⟩ [[1, 2, 3, 4]]).mpr (by decide)

/-- Five bytes are sent on the topic, as by a publisher of another type, and then taken. -/
def longPayload : List (TopicOp Unit) :=
  [.send [1, 2, 3, 4, 5],
    .call (.take (.ok (some ⟨7, [1, 2, 3, 4, 5]⟩)) (some ⟨[0, 0, 0, 0], ()⟩) (some false))]

theorem long_payload_overruns :
    Admissible topicExec Delivers ⟨subscriptionHandle wordSubscriber, []⟩ longPayload ∧
      ¬ Admissible topicExec (TakesOneMessage wordSubscriber.typesupport)
        ⟨subscriptionHandle wordSubscriber, []⟩ longPayload := by
  refine ⟨⟨trivial, fun sample hs ↦ ?_, trivial⟩, fun h ↦ ?_⟩
  · obtain rfl : (⟨7, [1, 2, 3, 4, 5]⟩ : Sample) = sample := by simpa using hs
    exact List.mem_singleton_self _
  · have htake : WritesOneMessage wordSubscriber.typesupport
        (takeRaw (.ok (some ⟨7, [1, 2, 3, 4, 5]⟩)) (subscriptionHandle wordSubscriber)
          (some false)) := h.2.1
    exact absurd (takeRaw_writes_iff.mp htake) (by decide)

end RmwIceoryx2.System
