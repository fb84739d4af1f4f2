import RmwIceoryx2.Library.Inbox
import RmwIceoryx2.System.EndpointPaths

namespace RmwIceoryx2.System.Delivery

open RmwIceoryx2.Common RmwIceoryx2.Runtime RmwIceoryx2.Message RmwIceoryx2.Rmw
open RmwIceoryx2.Library RmwIceoryx2.Library.Execution
open scoped List

variable {M H ι κ : Type}

/-- The endpoints of one topic, and for each subscription the payloads it has yet to take. -/
structure Exchange (M ι κ : Type) where
  publishers : ι → RmwPublisher M
  subscriptions : κ → RmwSubscription M
  inboxes : κ → Inbox Bytes Subscriber.subscriberMaxBufferSize

/-- A call on one of the endpoints, or the application writing to a message it has on loan. -/
inductive Op (M ι κ : Type)
  | publisher (i : ι) (op : PublisherOp M)
  | write (i : ι) (loanedMemory : Address) (payload : Bytes)
  | subscription (k : κ) (op : SubscriptionOp M)

def writeLoan (h : RmwPublisher M) (loanedMemory : Address) (payload : Bytes) : RmwPublisher M :=
  { h with data := h.data.map (·.writeLoan loanedMemory payload) }

variable [DecidableEq ι] [DecidableEq κ]

namespace Exchange

def inboxStep (e : Exchange M ι κ) (k : κ) : Op M ι κ → Option (Inbox.Step Bytes)
  | .publisher i op => (sentBy (publisherCall (e.publishers i) op).requests).map .push
  | .write _ _ _ => none
  | .subscription j op =>
    if j = k ∧ (received (e.subscriptions j) op).isSome then some .pop else none

def exec (e : Exchange M ι κ) (op : Op M ι κ) : Exchange M ι κ where
  publishers := match op with
    | .publisher i op => Function.update e.publishers i (publisherExec (e.publishers i) op)
    | .write i loanedMemory payload =>
      Function.update e.publishers i (writeLoan (e.publishers i) loanedMemory payload)
    | .subscription _ _ => e.publishers
  subscriptions := match op with
    | .subscription k op =>
      Function.update e.subscriptions k (subscriptionExec (e.subscriptions k) op)
    | _ => e.subscriptions
  inboxes k := run Inbox.step (e.inboxes k) (e.inboxStep k op).toList

end Exchange

variable (t : MessageType M H)

/-- What is assumed of a step: its arguments are well formed, and iceoryx2 hands over the oldest
payload of the subscription's inbox, or fails. -/
def Ideal (e : Exchange M ι κ) : Op M ι κ → Prop
  | .publisher i op => Publishable t (e.publishers i) op
  | .write _ _ _ => True
  | .subscription k op => Takeable t (e.subscriptions k) op ∧ ∀ port, portOf op = some port →
      (∃ error, port = .error error) ∨
        ∃ address, port = .ok ((e.inboxes k).items.head?.map (⟨address, ·⟩))

structure Sound (e : Exchange M ι κ) : Prop where
  publishers : ∀ i, ∃ p, e.publishers i = publisherHandle p ∧ PublisherOf t p
  subscriptions : ∀ k, ∃ s, e.subscriptions k = subscriptionHandle s ∧ SubscriberOf t s
  inboxes : ∀ k, ∀ payload ∈ (e.inboxes k).items, ∃ value, Means t payload value

def published (memory : H) (e : Exchange M ι κ) : Op M ι κ → Option M
  | .publisher i op => (sentBy (publisherCall (e.publishers i) op).requests).bind
      fun _ ↦ handed t memory (e.publishers i) op
  | _ => none

def obtainedBy (memory : H) (fresh : RosMessage M) (k : κ) (e : Exchange M ι κ) :
    Op M ι κ → Option M
  | .subscription j op =>
    if j = k then obtained t memory fresh (subscriptionCall (e.subscriptions j) op) else none
  | _ => none

def meaning (memory : H) (payload : Bytes) : Option M :=
  if isPod (t.typeSupport .cpp) then some (t.read .cpp memory payload)
  else ((t.callbacks .cpp).cdrDeserialize payload).toOption

variable {t} {e : Exchange M ι κ} {op : Op M ι κ} {k : κ}

theorem Means.meaning_eq {payload : Bytes} {value : M} (h : Means t payload value) (memory : H) :
    meaning t memory payload = some value := by
  cases hpod : isPod (t.typeSupport .cpp) with
  | true => simp only [meaning, hpod, ↓reduceIte, h.read hpod memory]
  | false =>
    have hread := h.deserialized hpod []
    rw [List.append_nil] at hread
    simp only [meaning, hpod, Bool.false_eq_true, ↓reduceIte, hread, Except.toOption]

omit [DecidableEq ι] [DecidableEq κ] in
theorem head?_of_received {k : κ} {op : SubscriptionOp M} {sample : Sample}
    (hok : Ideal t e (.subscription k op)) (h : portOf op = some (.ok (some sample))) :
    (e.inboxes k).items.head? = some sample.payload := by
  obtain ⟨-, hport⟩ := hok
  rcases hport _ h with ⟨error, he⟩ | ⟨address, ha⟩
  · cases he
  · rw [Except.ok.injEq] at ha
    obtain ⟨payload, hhead, rfl⟩ := Option.map_eq_some_iff.mp ha.symm
    exact hhead

omit [DecidableEq ι] [DecidableEq κ] in
theorem yields_of_sound (he : Sound t e) {op : SubscriptionOp M}
    (hok : Ideal t e (.subscription k op)) (memory : H) (fresh : RosMessage M) :
    Yields t memory fresh (e.subscriptions k) op := by
  obtain ⟨s, hs, hof⟩ := he.subscriptions k
  have htake := hok.1
  rw [hs] at htake ⊢
  refine yields hof memory fresh htake fun sample hport ↦ ?_
  have hhead := head?_of_received hok hport
  exact he.inboxes k _ (List.mem_of_mem_head? hhead)

omit [DecidableEq ι] [DecidableEq κ] in
theorem conveys_of_sound (he : Sound t e) (hclass : Classified t) {i : ι} {op : PublisherOp M}
    (hok : Ideal t e (.publisher i op)) (memory : H) : Conveys t memory (e.publishers i) op := by
  obtain ⟨p, hp, hof⟩ := he.publishers i
  have hpublish : Publishable t (e.publishers i) op := hok
  rw [hp] at hpublish ⊢
  exact conveys hof hclass memory hpublish

theorem writeLoan_of {p : Publisher M} (hp : PublisherOf t p) (ptr : Address) (payload : Bytes) :
    ∃ p', writeLoan (publisherHandle p) ptr payload = publisherHandle p' ∧ PublisherOf t p' := by
  refine ⟨p.writeLoan ptr payload, rfl, ?_⟩
  refine ⟨hp.typesupport, hp.unserializedSize, fun hpod ↦ ?_⟩
  simp only [Publisher.writeLoan, SampleRegistry.write, hp.registry hpod, KeyedMap.modify,
    KeyedMap.find_empty]

theorem exec_sound (hclass : Classified t) (memory : H) (fresh : RosMessage M) (e : Exchange M ι κ)
    (op : Op M ι κ) (he : Sound t e) (hok : Ideal t e op) : Sound t (e.exec op) := by
  refine ⟨fun i ↦ ?_, fun k ↦ ?_, fun k payload hmem ↦ ?_⟩
  · cases op with
    | publisher j op =>
      by_cases hi : i = j
      · subst hi
        obtain ⟨p, hp, hof⟩ := (conveys_of_sound he hclass hok memory).1
        exact ⟨p, by simp only [Exchange.exec, Function.update_self, hp], hof⟩
      · simpa only [Exchange.exec, Function.update_of_ne hi] using he.publishers i
    | write j ptr payload =>
      by_cases hi : i = j
      · subst hi
        obtain ⟨p, hp, hof⟩ := he.publishers i
        obtain ⟨p', hp', hof'⟩ := writeLoan_of hof ptr payload
        exact ⟨p', by simp only [Exchange.exec, Function.update_self, hp, hp'], hof'⟩
      · simpa only [Exchange.exec, Function.update_of_ne hi] using he.publishers i
    | subscription j op => exact he.publishers i
  · cases op with
    | publisher j op => exact he.subscriptions k
    | write j ptr payload => exact he.subscriptions k
    | subscription j op =>
      by_cases hk : k = j
      · subst hk
        obtain ⟨s, hs, hof⟩ := (yields_of_sound he hok memory fresh).kept
        exact ⟨s, by simp only [Exchange.exec, Function.update_self, hs], hof⟩
      · simpa only [Exchange.exec, Function.update_of_ne hk] using he.subscriptions k
  · cases op with
    | write j ptr written => exact he.inboxes k payload hmem
    | publisher i op =>
      simp only [Exchange.exec, Exchange.inboxStep] at hmem
      cases hsent : sentBy (publisherCall (e.publishers i) op).requests with
      | none =>
        rw [hsent] at hmem
        exact he.inboxes k payload hmem
      | some sent =>
        rw [hsent] at hmem
        rcases Inbox.mem_push hmem with hold | rfl
        · exact he.inboxes k payload hold
        · obtain ⟨value, -, hmeans⟩ := (conveys_of_sound he hclass hok memory).2 _ hsent
          exact ⟨value, hmeans⟩
    | subscription j op =>
      simp only [Exchange.exec, Exchange.inboxStep] at hmem
      split at hmem
      · exact he.inboxes k payload (List.mem_of_mem_tail hmem)
      · exact he.inboxes k payload hmem

def messageStep (t : MessageType M H) (memory : H) (k : κ) (e : Exchange M ι κ) (op : Op M ι κ) :
    Option (Inbox.Step (Option M)) :=
  (e.inboxStep k op).map (.map (meaning t memory))

def messages (t : MessageType M H) (memory : H) (k : κ) (e : Exchange M ι κ) :
    Inbox (Option M) Subscriber.subscriberMaxBufferSize :=
  (e.inboxes k).map (meaning t memory)

/-- Seen from a subscription, the topic is a bounded inbox of messages. -/
theorem inbox_refines (hclass : Classified t) (memory : H) (fresh : RosMessage M) (k : κ) :
    Refines (Exchange.exec (M := M) (ι := ι)) Inbox.step (Ideal t) (Sound t)
      (messages t memory k) (messageStep t memory k) := by
  refine ⟨exec_sound hclass memory fresh, fun e op _ _ ↦ ?_⟩
  simp only [messages, messageStep, Exchange.exec]
  cases e.inboxStep k op with
  | none => rfl
  | some step => exact Inbox.map_step _ _ _

omit [DecidableEq ι] in
theorem published_eq_pushed (he : Sound t e) (hclass : Classified t) (hok : Ideal t e op)
    (memory : H) : (published t memory e op).map some =
      (messageStep t memory k e op).bind Inbox.Step.pushed := by
  cases op with
  | write i ptr payload => rfl
  | subscription j op =>
    simp only [published, messageStep, Exchange.inboxStep]
    split <;> rfl
  | publisher i op =>
    simp only [published, messageStep, Exchange.inboxStep]
    cases hsent : sentBy (publisherCall (e.publishers i) op).requests with
    | none => rfl
    | some payload =>
      obtain ⟨value, hvalue, hmeans⟩ := (conveys_of_sound he hclass hok memory).2 _ hsent
      simp only [Option.bind_some, hvalue, Option.map_some, Inbox.Step.map, Inbox.Step.pushed,
        hmeans.meaning_eq memory]

omit [DecidableEq ι] in
theorem popped_of_obtained (he : Sound t e) (hok : Ideal t e op) {memory : H}
    {fresh : RosMessage M} {value : M} (h : obtainedBy t memory fresh k e op = some value) :
    (messageStep t memory k e op).bind (Inbox.popped (messages t memory k e)) =
      some (some value) := by
  cases op with
  | write i ptr payload => cases h
  | publisher i op => cases h
  | subscription j op =>
    simp only [obtainedBy] at h
    split at h
    · rename_i hj
      subst hj
      obtain ⟨sample, hreceived, hmeans⟩ := (yields_of_sound he hok memory fresh).sound value h
      have hhead := head?_of_received hok (portOf_of_received hreceived)
      simp only [messageStep, Exchange.inboxStep, hreceived, Option.isSome_some, and_self,
        ↓reduceIte, Option.map_some, Option.bind_some, Inbox.Step.map, Inbox.popped, messages,
        Inbox.items_map, List.head?_map, hhead, hmeans.meaning_eq memory]
    · cases h

theorem sublist_of_map_some {l l' : List M} (h : l.map some <+ l'.map some) : l <+ l' := by
  have hfilter := h.filterMap id
  simpa only [List.filterMap_map, Function.comp_def, id_eq, List.filterMap_some] using hfilter

/-- The endpoints as they were created for the type, before anything was published. -/
structure Opened (t : MessageType M H) (topicName : String) (e : Exchange M ι κ) : Prop where
  publishers : ∀ i, ∃ env mw node qos options, rmwCreatePublisher env mw node
    (some (t.typeSupport .cpp)) (some topicName) qos options = .ok (e.publishers i)
  subscriptions : ∀ k, ∃ env mw node qos options, rmwCreateSubscription env mw node
    (some (t.typeSupport .cpp)) (some topicName) qos options = .ok (e.subscriptions k)
  inboxes : ∀ k, e.inboxes k = .empty _ _

omit [DecidableEq ι] [DecidableEq κ] in
theorem Opened.sound {topicName : String} (h : Opened t topicName e) : Sound t e := by
  refine ⟨fun i ↦ ?_, fun k ↦ ?_, fun k payload hmem ↦ ?_⟩
  · obtain ⟨env, mw, node, qos, options, hcreate⟩ := h.publishers i
    obtain ⟨topic, p, hp, hhandle⟩ := rmwCreatePublisher_ok hcreate
    exact ⟨p, hhandle, publisherOf_of_create hp⟩
  · obtain ⟨env, mw, node, qos, options, hcreate⟩ := h.subscriptions k
    obtain ⟨topic, s, hs, hhandle⟩ := rmwCreateSubscription_ok hcreate
    exact ⟨s, hhandle, by rw [SubscriberOf, Subscriber.create_ok hs]⟩
  · rw [h.inboxes k] at hmem
    cases hmem

theorem pushed_of_run (hclass : Classified t) (he : Sound t e) (memory : H) (fresh : RosMessage M)
    (k : κ) {ops : List (Op M ι κ)} (hops : Admissible Exchange.exec (Ideal t) e ops) :
    (trace Exchange.exec (messageStep t memory k) e ops).filterMap Inbox.Step.pushed =
      (trace Exchange.exec (published t memory) e ops).map some := by
  have hrefines := inbox_refines (ι := ι) hclass memory fresh k
  rw [← trace_map, ← trace_eq_filterMap, ← hrefines.trace_bind _ he hops]
  exact (trace_congr hrefines.inv_exec
    (fun e op he hok ↦ published_eq_pushed he hclass hok memory) he hops).symm

/-- In every run, a subscription's callers have messages that were published, in the order in which
they were, each at most once, whichever calls publish and take them. -/
theorem delivered_in_order (hclass : Classified t) {topicName : String}
    (hopened : Opened t topicName e) (memory : H) (fresh : RosMessage M) (k : κ)
    {ops : List (Op M ι κ)} (hops : Admissible Exchange.exec (Ideal t) e ops) :
    trace Exchange.exec (obtainedBy t memory fresh k) e ops <+
      trace Exchange.exec (published t memory) e ops := by
  have he := hopened.sound
  have hrefines := inbox_refines (ι := ι) hclass memory fresh k
  have hpopped : (trace Exchange.exec (obtainedBy t memory fresh k) e ops).map some <+
      trace Inbox.step Inbox.popped (messages t memory k e)
        (trace Exchange.exec (messageStep t memory k) e ops) := by
    rw [← trace_map, ← hrefines.trace_bind _ he hops]
    refine trace_sublist hrefines.inv_exec (fun e op value he hok h ↦ ?_) he hops
    obtain ⟨value, hvalue, rfl⟩ := Option.map_eq_some_iff.mp h
    exact popped_of_obtained he hok hvalue
  have hinbox := Inbox.popped_sublist (messages t memory k e)
    (trace Exchange.exec (messageStep t memory k) e ops)
  rw [pushed_of_run hclass he memory fresh k hops] at hinbox
  apply sublist_of_map_some
  calc (trace Exchange.exec (obtainedBy t memory fresh k) e ops).map some
    _ <+ _ := hpopped.trans (List.sublist_append_left _ _)
    _ <+ _ := hinbox
    _ = _ := by
      simp only [messages, hopened.inboxes k, Inbox.items_map, Inbox.empty, List.map_nil,
        List.nil_append]

/-- The inbox has room for what is sent, and the caller for what it takes. -/
def HasRoom (k : κ) (e : Exchange M ι κ) : Op M ι κ → Prop
  | .publisher i op => (sentBy (publisherCall (e.publishers i) op).requests).isSome →
      (e.inboxes k).items.length < Subscriber.subscriberMaxBufferSize
  | .write _ _ _ => True
  | .subscription j op => j = k → Storable op

omit [DecidableEq ι] in
theorem popped_eq_obtained (he : Sound t e) (hok : Ideal t e op) (hroom : HasRoom k e op)
    (memory : H) (fresh : RosMessage M) : (obtainedBy t memory fresh k e op).map some =
      (messageStep t memory k e op).bind (Inbox.popped (messages t memory k e)) := by
  cases hobtained : obtainedBy t memory fresh k e op with
  | some value => exact (popped_of_obtained he hok hobtained).symm
  | none =>
    cases op with
    | write i ptr payload => rfl
    | publisher i op =>
      simp only [messageStep, Exchange.inboxStep]
      cases sentBy (publisherCall (e.publishers i) op).requests <;> rfl
    | subscription j op =>
      simp only [messageStep, Exchange.inboxStep]
      split
      · rename_i htaken
        obtain ⟨rfl, hreceived⟩ := htaken
        have hsome := (yields_of_sound he hok memory fresh).complete (hroom rfl) hreceived
        simp only [obtainedBy, ↓reduceIte] at hobtained
        rw [hobtained] at hsome
        cases hsome
      · rfl

/-- If there was room for everything, the callers have the oldest of what was published, and the
inbox holds the rest. -/
theorem delivered_completely (hclass : Classified t) {topicName : String}
    (hopened : Opened t topicName e) (memory : H) (fresh : RosMessage M) (k : κ)
    {ops : List (Op M ι κ)} (hops : Admissible Exchange.exec (Ideal t) e ops)
    (hroom : Admissible Exchange.exec (HasRoom k) e ops) :
    trace Exchange.exec (obtainedBy t memory fresh k) e ops <+:
        trace Exchange.exec (published t memory) e ops ∧
      (trace Exchange.exec (published t memory) e ops).length =
        (trace Exchange.exec (obtainedBy t memory fresh k) e ops).length +
          ((run Exchange.exec e ops).inboxes k).items.length := by
  have he := hopened.sound
  have hrefines := inbox_refines (ι := ι) hclass memory fresh k
  have hboth : Refines (Exchange.exec (M := M) (ι := ι)) Inbox.step
      (fun e op ↦ Ideal t e op ∧ HasRoom k e op) (Sound t) (messages t memory k)
      (messageStep t memory k) :=
    ⟨fun e op he hok ↦ hrefines.inv_exec e op he hok.1,
      fun e op he hok ↦ hrefines.view_exec e op he hok.1⟩
  have hall := hops.and hroom
  have hpopped : (trace Exchange.exec (obtainedBy t memory fresh k) e ops).map some =
      trace Inbox.step Inbox.popped (messages t memory k e)
        (trace Exchange.exec (messageStep t memory k) e ops) := by
    rw [← trace_map, ← hrefines.trace_bind _ he hops]
    exact trace_congr hboth.inv_exec
      (fun e op he hok ↦ popped_eq_obtained he hok.1 hok.2 memory fresh) he hall
  have hfits : Admissible Inbox.step Inbox.HasRoom (messages t memory k e)
      (trace Exchange.exec (messageStep t memory k) e ops) := by
    refine hboth.admissible_trace (fun e op step he hok hstep ↦ ?_) he hall
    obtain ⟨step, hinboxStep, rfl⟩ := Option.map_eq_some_iff.mp hstep
    cases step with
    | pop => trivial
    | push payload =>
      cases op with
      | write i ptr written => cases hinboxStep
      | subscription j op =>
        simp only [Exchange.inboxStep] at hinboxStep
        split at hinboxStep <;> cases hinboxStep
      | publisher i op =>
        obtain ⟨sent, hsent, -⟩ := Option.map_eq_some_iff.mp hinboxStep
        have hlt : (e.inboxes k).items.length < Subscriber.subscriberMaxBufferSize :=
          hok.2 (by rw [hsent, Option.isSome_some])
        simpa only [Inbox.Step.map, Inbox.HasRoom, messages, Inbox.items_map, List.length_map]
          using hlt
  have hinbox := Inbox.popped_eq hfits
  rw [pushed_of_run hclass he memory fresh k hops, ← hpopped, ← hrefines.view_run he hops]
    at hinbox
  simp only [messages, hopened.inboxes k, Inbox.items_map, Inbox.empty, List.map_nil,
    List.nil_append] at hinbox
  constructor
  · have hvalues := congrArg (List.filterMap id) hinbox
    simp only [List.filterMap_append, List.filterMap_map, Function.comp_def, id_eq,
      List.filterMap_some] at hvalues
    exact ⟨_, hvalues⟩
  · have hlength := congrArg List.length hinbox
    simp only [List.length_append, List.length_map] at hlength
    exact hlength.symm

section Chatter

def chatter : Exchange Text Bool Bool :=
  ⟨fun _ ↦ createdPublisher .cpp, fun _ ↦ createdSubscription .cpp, fun _ ↦ .empty _ _⟩

theorem chatter_opened : Opened textType "/chatter" chatter where
  publishers _ := ⟨_, _, _, _, _, createdPublisher_ok .cpp⟩
  subscriptions _ := ⟨_, _, _, _, _, createdSubscription_ok .cpp⟩
  inboxes _ := rfl

def greeting : RosMessage Text := ⟨List.replicate 32 0, ⟨[104, 101, 121], by decide⟩⟩

def greetingPayload : Bytes := [4, 0, 0, 0, 104, 101, 121, 0, 0, 0, 0, 0]

def serializedHi : SerializedMessage := ⟨[3, 0, 0, 0, 104, 105, 0], 7, 7⟩

def resizeTo (message : SerializedMessage) (n : ℕ) : Option SerializedMessage :=
  some { message with bufferCapacity := n }

/-- One subscription takes both messages, first as a value and then serialized. The other takes the
first one serialized, after an attempt in vain. -/
def conversation : List (Op Text Bool Bool) :=
  [.publisher false (.publish grantingPort (some greeting)),
    .publisher true (.publishSerialized grantingPort (some serializedHi)),
    .subscription false (.take (.ok (some ⟨9, greetingPayload⟩)) (some greeting) (some false)),
    .subscription true (.take (.error "ExceedsMaxBorrowedSamples") (some greeting) (some false)),
    .subscription true (.takeSerialized (.ok (some ⟨9, greetingPayload⟩)) resizeTo
      (some ⟨[], 0, 0⟩) (some false)),
    .subscription false (.takeSerialized (.ok (some ⟨11, serializedHi.buffer⟩)) resizeTo
      (some ⟨[], 0, 0⟩) (some false))]

theorem text_classified : Classified textType := fun h ↦ absurd h (by decide)

theorem conversation_ideal : Admissible Exchange.exec (Ideal textType) chatter conversation := by
  have hresizes : ∀ message n resized, resizeTo message n = some resized →
      n ≤ resized.bufferCapacity := by
    intro message n resized h
    cases h
    exact Nat.le_refl n
  refine ⟨⟨fun p n sample hp _ ↦ ?_, fun m hm ↦ ?_⟩, ⟨rfl, fun message hmessage ↦ ?_⟩,
    ⟨⟨fun s sample hs _ ↦ ?_, trivial⟩, fun port hport ↦ ?_⟩,
    ⟨⟨fun s sample hs _ ↦ ?_, trivial⟩, fun port hport ↦ ?_⟩,
    ⟨⟨fun s sample hs _ ↦ ?_, rfl, hresizes⟩, fun port hport ↦ ?_⟩,
    ⟨⟨fun s sample hs _ ↦ ?_, rfl, hresizes⟩, fun port hport ↦ ?_⟩, trivial⟩
  · obtain rfl := Option.some_inj.mp hp
    exact KeyedMap.find_empty _
  · obtain rfl := Option.some_inj.mp hm
    exact ⟨greeting.value, rfl, rfl⟩
  · obtain rfl := Option.some_inj.mp hmessage
    exact ⟨⟨[104, 105], by decide⟩, 7, by decide, rfl⟩
  · obtain rfl := Option.some_inj.mp hs
    rfl
  · obtain rfl := Option.some_inj.mp hport
    exact Or.inr ⟨9, rfl⟩
  · obtain rfl := Option.some_inj.mp hs
    rfl
  · obtain rfl := Option.some_inj.mp hport
    exact Or.inl ⟨_, rfl⟩
  · obtain rfl := Option.some_inj.mp hs
    rfl
  · obtain rfl := Option.some_inj.mp hport
    exact Or.inr ⟨9, rfl⟩
  · obtain rfl := Option.some_inj.mp hs
    rfl
  · obtain rfl := Option.some_inj.mp hport
    exact Or.inr ⟨11, rfl⟩

theorem delivered_in_order_conversation :
    trace Exchange.exec (obtainedBy textType greeting.value greeting false) chatter conversation <+
      trace Exchange.exec (published textType greeting.value) chatter conversation :=
  delivered_in_order text_classified chatter_opened greeting.value greeting false conversation_ideal

example : trace Exchange.exec (obtainedBy textType greeting.value greeting false) chatter
    conversation = [greeting.value, ⟨[104, 105], by decide⟩] := by
  decide

end Chatter

section Flags

def flags : Exchange Bool Bool Bool where
  publishers _ := publisherHandle
    ⟨"/flag", flagType.typeSupport .cpp, 1, Names.topic "/flag", 1, .empty _⟩
  subscriptions _ := subscriptionHandle
    ⟨"/flag", flagType.typeSupport .cpp, Names.topic "/flag", .empty _⟩
  inboxes _ := .empty _ _

theorem flags_opened : Opened flagType "/flag" flags where
  publishers _ := ⟨plainAnswers, ⟨fun _ ↦ .ok (), fun _ ↦ .ok (), fun _ ↦ .ok (), fun _ ↦ .ok (),
    .ok ()⟩, some plainNode, some plainQos, some (), rfl⟩
  subscriptions _ := ⟨plainAnswers, ⟨fun _ ↦ .ok (), fun _ ↦ .ok (), .ok ()⟩, some plainNode,
    some plainQos, some (), rfl⟩
  inboxes _ := rfl

theorem flag_classified : Classified flagType := fun _ ↦ flagMembers_selfContained .cpp

def lowered : RosMessage Bool := ⟨[0], false⟩

/-- A flag that was written to a loan and one that was copied, taken as loans and as a copy. -/
def signalling : List (Op Bool Bool Bool) :=
  [.publisher false (.borrow grantingPort (some (flagType.typeSupport .cpp)) (some none)),
    .write false 7 [1],
    .publisher true (.publish grantingPort (some lowered)),
    .publisher false (.publishLoaned grantingPort (some 7)),
    .subscription false (.takeLoaned (.ok (some ⟨9, [0]⟩)) (some none) (some false)),
    .subscription true (.take (.ok (some ⟨9, [0]⟩)) (some lowered) (some false)),
    .subscription false (.takeLoaned (.ok (some ⟨11, [1]⟩)) (some none) (some false)),
    .subscription false (.returnLoaned (some 9))]

theorem signalling_ideal : Admissible Exchange.exec (Ideal flagType) flags signalling := by
  refine ⟨trivial, trivial, ⟨fun p n sample hp _ ↦ ?_, fun m hm ↦ ?_⟩, trivial,
    ⟨⟨trivial, trivial⟩, fun port hport ↦ ?_⟩, ⟨⟨fun s sample hs _ ↦ ?_, trivial⟩,
      fun port hport ↦ ?_⟩, ⟨⟨trivial, trivial⟩, fun port hport ↦ ?_⟩,
    ⟨⟨trivial, trivial⟩, fun port hport ↦ ?_⟩, trivial⟩
  · obtain rfl := Option.some_inj.mp hp
    rfl
  · obtain rfl := Option.some_inj.mp hm
    exact ⟨(), rfl, rfl⟩
  · obtain rfl := Option.some_inj.mp hport
    exact Or.inr ⟨9, rfl⟩
  · obtain rfl := Option.some_inj.mp hs
    rfl
  · obtain rfl := Option.some_inj.mp hport
    exact Or.inr ⟨9, rfl⟩
  · obtain rfl := Option.some_inj.mp hport
    exact Or.inr ⟨11, rfl⟩
  · cases hport

theorem signalling_hasRoom : Admissible Exchange.exec (HasRoom false) flags signalling := by
  refine ⟨fun _ ↦ ?_, trivial, fun _ ↦ ?_, fun _ ↦ ?_, fun _ ↦ trivial, fun _ ↦ trivial,
    fun _ ↦ trivial, fun _ ↦ trivial, trivial⟩
  all_goals decide

theorem delivered_completely_signalling :
    trace Exchange.exec (obtainedBy flagType () lowered false) flags signalling <+:
        trace Exchange.exec (published flagType ()) flags signalling ∧
      (trace Exchange.exec (published flagType ()) flags signalling).length =
        (trace Exchange.exec (obtainedBy flagType () lowered false) flags signalling).length +
          ((run Exchange.exec flags signalling).inboxes false).items.length :=
  delivered_completely flag_classified flags_opened () lowered false signalling_ideal
    signalling_hasRoom

example : trace Exchange.exec (obtainedBy flagType () lowered false) flags signalling =
    [false, true] := by
  decide

end Flags

end RmwIceoryx2.System.Delivery
