import RmwIceoryx2.Library.Execution
import RmwIceoryx2.Library.Handshake
import RmwIceoryx2.Library.Inbox
import RmwIceoryx2.Runtime.Publisher
import RmwIceoryx2.Runtime.Readiness
import RmwIceoryx2.Runtime.Representation
import RmwIceoryx2.Rmw.Subscription
import RmwIceoryx2.Rmw.WaitDelivery

namespace RmwIceoryx2.System

open RmwIceoryx2.Common RmwIceoryx2.Runtime RmwIceoryx2.Runtime.WaitSet RmwIceoryx2.Rmw
open RmwIceoryx2.Message RmwIceoryx2.Library RmwIceoryx2.Library.Execution

variable {M ι : Type}

instance : HasServiceName (Subscriber M) := ⟨fun s ↦ s.serviceName⟩

inductive PublishCall
  | publishCopy (data : Bytes) (numberOfBytes : ℕ)
  | publishLoan (loanedMemory : Address)

def publishWith (port : PublisherPort) (p : Publisher M) : PublishCall → Publisher.Return M Unit
  | .publishCopy data numberOfBytes => p.publishCopy port data numberOfBytes
  | .publishLoan loanedMemory => p.publishLoan port loanedMemory

inductive ClientPhase
  | calling
  | waiting (waitTimeout : Option RmwTime)
  | taking
  deriving DecidableEq, Repr

/-- The publishers of a topic, each with the requests it has yet to make for the call it is in, and
a client that waits on one subscription and takes from it. -/
structure Channel (M ι : Type) where
  publishers : ι → Publisher M
  remaining : ι → List PortRequest
  queue : Inbox Bytes Subscriber.subscriberMaxBufferSize
  waitSet : WaitSet
  subscriber : Subscriber M
  phase : ClientPhase

namespace Channel

def arrays (c : Channel M ι) : WaitArrays (Subscriber M) String :=
  ⟨some [some c.subscriber], none, none, none, none⟩

def perform (c : Channel M ι) (serviceName : String) : PortRequest → Channel M ι
  | .loanSliceUninit _ => c
  | .send payload | .sendSliceCopy payload => { c with queue := c.queue.push payload }
  | .notify => { c with waitSet := c.waitSet.notify .subscriber serviceName }

/-- The first part of `rmw_wait`, after which the client blocks. -/
def enterWait (c : Channel M ι) (mw : Middleware) (waitTimeout : Option RmwTime) : Channel M ι :=
  match checkWaitArguments (some (handle c.waitSet)) c.arrays with
  | .error _ => c
  | .ok _ =>
    match mapArrays mw c.arrays c.waitSet with
    | (ws, .error _) => { c with waitSet := ws }
    | (ws, .ok ()) => { c with waitSet := ws, phase := .waiting waitTimeout }

def waitOutcome (c : Channel M ι) (mw : Middleware) (waitTimeout : Option RmwTime) :
    WaitOutcome (Subscriber M) String :=
  waitArrays mw (handle c.waitSet) c.arrays c.waitSet (timeoutOf waitTimeout)

def ReportedReady (out : WaitOutcome (Subscriber M) String) : Prop :=
  out.ret = .ok ∧ ((out.arrays.subscriptions.getD [])[0]?.bind id).isSome

instance (out : WaitOutcome (Subscriber M) String) : Decidable (ReportedReady out) :=
  inferInstanceAs (Decidable (_ ∧ _))

def leaveWait (c : Channel M ι) (mw : Middleware) (waitTimeout : Option RmwTime) : Channel M ι :=
  let out := c.waitOutcome mw waitTimeout
  { c with
    waitSet := (out.waitSet.bind (·.data)).getD c.waitSet
    phase := if ReportedReady out then .taking else .calling }

def takeOutcome (c : Channel M ι) (address : Address) (rosMessage : RosMessage M) (taken : Bool) :
    SubscriptionOutcome M :=
  rmwTake (.ok (c.queue.items.head?.map (⟨address, ·⟩))) (some (subscriptionHandle c.subscriber))
    (some rosMessage) (some taken)

def take (c : Channel M ι) (address : Address) (rosMessage : RosMessage M) (taken : Bool) :
    Channel M ι :=
  let out := c.takeOutcome address rosMessage taken
  { c with
    queue := c.queue.pop
    subscriber := (out.subscription.bind (·.data)).getD c.subscriber
    phase := if out.taken = some false then .calling else .taking }

end Channel

/-- The steps of the publishers and of the client. A publisher begins a call only after its last,
and the client does what its loop is at. -/
inductive ChannelOp (M ι : Type)
  | loan (i : ι) (port : PublisherPort) (numberOfBytes : ℕ)
  | writeLoan (i : ι) (loanedMemory : Address) (payload : Bytes)
  | publish (i : ι) (port : PublisherPort) (call : PublishCall)
  | proceed (i : ι)
  | waitEnter (mw : Middleware) (waitTimeout : Option RmwTime)
  | waitLeave (mw : Middleware)
  | take (address : Address) (rosMessage : RosMessage M) (taken : Bool)

namespace Channel

variable [DecidableEq ι]

def exec (c : Channel M ι) : ChannelOp M ι → Channel M ι
  | .loan i port numberOfBytes =>
    let p := ((c.publishers i).loan port numberOfBytes).publisher
    { c with publishers := Function.update c.publishers i p }
  | .writeLoan i loanedMemory payload =>
    let p := (c.publishers i).writeLoan loanedMemory payload
    { c with publishers := Function.update c.publishers i p }
  | .publish i port call =>
    match c.remaining i with
    | [] =>
      let r := publishWith port (c.publishers i) call
      { c with
        publishers := Function.update c.publishers i r.publisher
        remaining := Function.update c.remaining i r.requests }
    | _ :: _ => c
  | .proceed i =>
    match c.remaining i with
    | [] => c
    | request :: requests =>
      { c with remaining := Function.update c.remaining i requests }.perform
        (c.publishers i).serviceName request
  | .waitEnter mw waitTimeout =>
    match c.phase with
    | .calling => c.enterWait mw waitTimeout
    | _ => c
  | .waitLeave mw =>
    match c.phase with
    | .waiting waitTimeout => c.leaveWait mw waitTimeout
    | _ => c
  | .take address rosMessage taken =>
    match c.phase with
    | .taking => c.take address rosMessage taken
    | _ => c

/-- Entering and leaving a wait with nothing in between is `rmw_wait`. -/
theorem waitSet_enter_leave (c : Channel M ι) (hcalling : c.phase = .calling) (mw : Middleware)
    (waitTimeout : Option RmwTime) :
    (run exec c [.waitEnter mw waitTimeout, .waitLeave mw]).waitSet =
      ((rmwWait mw (some (handle c.waitSet)) c.arrays waitTimeout).waitSet.bind (·.data)).getD
        c.waitSet := by
  simp only [run_cons, run_nil, exec, hcalling, enterWait]
  unfold rmwWait
  cases hcheck : checkWaitArguments (some (handle c.waitSet)) c.arrays with
  | error f => simp only [hcalling, handle, Option.bind_some, Option.getD_some]
  | ok h =>
    obtain ⟨hh, -, -⟩ := checkWaitArguments_ok.mp hcheck
    cases hh
    simp only [handle, uncheckedCast]
    cases hmap : mapArrays mw c.arrays c.waitSet with
    | mk ws r =>
      cases r with
      | error f => simp only [Option.bind_some, Option.getD_some]
      | ok u =>
        simp only [leaveWait, waitOutcome, waitArrays, arrays, handle]
        cases hres : (ws.wait mw (timeoutOf waitTimeout)).result <;> rfl

def Succeeds (c : Channel M ι) : ChannelOp M ι → Prop
  | .publish i port call => (publishWith port (c.publishers i) call).result = .ok ()
  | .waitLeave mw => ∀ waitTimeout, c.phase = .waiting waitTimeout →
      (c.waitOutcome mw waitTimeout).ret ≠ .error
  | .take address rosMessage taken => (c.takeOutcome address rosMessage taken).ret = .ok
  | _ => True

/-- What may be left of a publish that succeeds. -/
def Underway (requests : List PortRequest) : Prop :=
  requests = [] ∨ requests = [.notify] ∨
    ∃ payload, requests = [.send payload, .notify] ∨ requests = [.sendSliceCopy payload, .notify]

/-- A state between two waits, at the start of a run: the wait set has a listener of the topic, and
publishers may be at work. -/
structure Starting (c : Channel M ι) : Prop where
  sameTopic : ∀ i, (c.publishers i).serviceName = c.subscriber.serviceName
  listener : (c.waitSet.findListener .subscriber c.subscriber.serviceName).isSome
  unmapped : c.waitSet.mapping = []
  underway : ∀ i, Underway (c.remaining i)
  queue : c.queue.items = []
  calling : c.phase = .calling

def entries (c : Channel M ι) : List Entry :=
  match c.phase with
  | .waiting _ => c.arrays.entries
  | _ => []

structure WellFormed (name : String) (c : Channel M ι) : Prop where
  subscribed : c.subscriber.serviceName = name
  published : ∀ i, (c.publishers i).serviceName = name
  listener : (c.waitSet.findListener .subscriber name).isSome
  underway : ∀ i, Underway (c.remaining i)
  staged : Staged c.waitSet c.entries

def handshake (M ι : Type) (name : String) : Handshake (Channel M ι) ι where
  filled c := c.queue.items ≠ []
  raised c := c.waitSet.Ready .subscriber name
  announcing i c := c.remaining i = [.notify]
  collecting c := c.phase = .taking

variable {c : Channel M ι} {name : String} {port : PublisherPort} {p : Publisher M}

omit [DecidableEq ι] in
theorem Starting.wellFormed (h : Starting c) : WellFormed c.subscriber.serviceName c where
  subscribed := rfl
  published := h.sameTopic
  listener := h.listener
  underway := h.underway
  staged := by
    rw [entries, h.calling]
    exact ⟨h.unmapped, fun e he ↦ absurd he List.not_mem_nil⟩

theorem publishWith_underway {call : PublishCall} (h : (publishWith port p call).result = .ok ()) :
    Underway (publishWith port p call).requests := by
  cases call with
  | publishCopy data n =>
    simp only [publishWith, Publisher.publishCopy] at h ⊢
    cases hsend : port.sendSliceCopy (data.take n) with
    | error e => simp [hsend] at h
    | ok u =>
      cases hnotify : port.notify with
      | error e => simp [hsend, hnotify] at h
      | ok u => exact Or.inr (Or.inr ⟨_, Or.inr rfl⟩)
  | publishLoan ptr =>
    simp only [publishWith, Publisher.publishLoan] at h ⊢
    cases hrelease : p.registry.release ptr with
    | error f => simp [hrelease] at h
    | ok r =>
      obtain ⟨sample, registry⟩ := r
      simp only [hrelease] at h ⊢
      cases hsend : port.send sample with
      | error e => simp [hsend] at h
      | ok u =>
        cases hnotify : port.notify with
        | error e => simp [hsend, hnotify] at h
        | ok u => exact Or.inr (Or.inr ⟨_, Or.inl rfl⟩)

theorem publishWith_serviceName (call : PublishCall) :
    (publishWith port p call).publisher.serviceName = p.serviceName := by
  cases call with
  | publishCopy data n => rw [publishWith, Publisher.publishCopy_publisher]
  | publishLoan ptr =>
    simp only [publishWith, Publisher.publishLoan]
    repeat' split
    all_goals rfl

theorem loan_serviceName (n : ℕ) : (p.loan port n).publisher.serviceName = p.serviceName := by
  unfold Publisher.loan
  split <;> rfl

theorem published_update {publishers : ι → Publisher M} (h : ∀ i, (publishers i).serviceName = name)
    {i : ι} (hp : p.serviceName = (publishers i).serviceName) (j : ι) :
    (Function.update publishers i p j).serviceName = name := by
  by_cases hj : j = i
  · subst hj
    rw [Function.update_self, hp, h]
  · rw [Function.update_of_ne hj, h]

theorem WellFormed.update (hc : WellFormed name c) {i : ι}
    (hp : p.serviceName = (c.publishers i).serviceName) :
    WellFormed name { c with publishers := Function.update c.publishers i p } :=
  ⟨hc.subscribed, published_update hc.published hp, hc.listener, hc.underway, hc.staged⟩

theorem exec_publish (hc : WellFormed name c) (i : ι) {call : PublishCall}
    (hok : Succeeds c (.publish i port call)) :
    WellFormed name (c.exec (.publish i port call)) ∧
      (handshake M ι name).Ordered c (c.exec (.publish i port call)) := by
  simp only [exec]
  split
  · rename_i hidle
    refine ⟨⟨hc.subscribed, published_update hc.published (publishWith_serviceName call),
      hc.listener, fun j ↦ ?_, hc.staged⟩, .of_same id id (fun j hj ↦ ?_) id⟩
    · by_cases hj : j = i
      · subst hj
        simpa only [Function.update_self] using publishWith_underway hok
      · simpa only [Function.update_of_ne hj] using hc.underway j
    · have hne : j ≠ i := by
        rintro rfl
        simp [handshake, hidle] at hj
      simpa only [handshake, Function.update_of_ne hne] using hj
  · exact ⟨hc, .of_same id id (fun _ ↦ id) id⟩

theorem update_underway {remaining : ι → List PortRequest} (h : ∀ i, Underway (remaining i))
    {i : ι} {requests : List PortRequest} (hi : Underway requests) (j : ι) :
    Underway (Function.update remaining i requests j) := by
  by_cases hj : j = i
  · subst hj
    rwa [Function.update_self]
  · rw [Function.update_of_ne hj]
    exact h j

theorem sent_spec (hc : WellFormed name c) (i : ι) (payload : Bytes) (c' : Channel M ι)
    (hc' : c' = { c with
      remaining := Function.update c.remaining i [.notify], queue := c.queue.push payload }) :
    WellFormed name c' ∧ (handshake M ι name).Ordered c c' := by
  subst hc'
  refine ⟨⟨hc.subscribed, hc.published, hc.listener,
    update_underway hc.underway (Or.inr (Or.inl rfl)), hc.staged⟩, ?_, fun j hj ↦ ?_, Or.inl, Or.inl⟩
  · intro hqueue
    exact Or.inr ⟨i, Function.update_self _ _ _⟩
  · left
    by_cases hji : j = i
    · subst hji
      exact Function.update_self _ _ _
    · exact (Function.update_of_ne hji _ _).trans hj

theorem notified_spec (hc : WellFormed name c) (i : ι) (c' : Channel M ι) (hc' : c' = { c with
      remaining := Function.update c.remaining i [], waitSet := c.waitSet.notify .subscriber name }) :
    WellFormed name c' ∧ (handshake M ι name).Ordered c c' := by
  subst hc'
  refine ⟨⟨hc.subscribed, hc.published, ?_, update_underway hc.underway (Or.inl rfl),
    hc.staged.mapListeners keepsIdentity_notifiedOn⟩, Or.inl, fun j hj ↦ ?_, fun hready ↦ ?_,
    Or.inl⟩
  · rw [notify, keepsIdentity_notifiedOn.findListener]
    exact hc.listener
  · by_cases hji : j = i
    · exact Or.inr (ready_notify.mpr (Or.inl ⟨rfl, rfl, hc.listener⟩))
    · exact Or.inl ((Function.update_of_ne hji _ _).trans hj)
  · exact Or.inl (ready_notify.mpr (Or.inr hready))

theorem exec_proceed (hc : WellFormed name c) (i : ι) :
    WellFormed name (c.exec (.proceed i)) ∧
      (handshake M ι name).Ordered c (c.exec (.proceed i)) := by
  rcases hc.underway i with hi | hi | ⟨payload, hi | hi⟩
  · simp only [exec, hi]
    exact ⟨hc, .of_same id id (fun _ ↦ id) id⟩
  · refine notified_spec hc i _ ?_
    simp only [exec, hi, perform, hc.published i]
  · refine sent_spec hc i payload _ ?_
    simp only [exec, hi, perform]
  · refine sent_spec hc i payload _ ?_
    simp only [exec, hi, perform]

omit [DecidableEq ι] in
/-- Nothing has to be created, so that the client is certain to block. -/
theorem enterWait_spec (hc : WellFormed name c) (hcalling : c.phase = .calling) (mw : Middleware)
    (waitTimeout : Option RmwTime) :
    WellFormed name (c.enterWait mw waitTimeout) ∧
      (handshake M ι name).Ordered c (c.enterWait mw waitTimeout) := by
  have hcheck : checkWaitArguments (some (handle c.waitSet)) c.arrays = .ok (handle c.waitSet) := rfl
  have hlisten : (mapAll mw c.waitSet c.arrays.entries).2 = none := by
    refine mapAll_isOk.mpr fun e he ↦ Or.inl ?_
    obtain rfl := List.mem_singleton.mp he
    have hsome := hc.listener
    rw [← hc.subscribed] at hsome
    exact Option.isSome_iff_ne_none.mp hsome
  obtain ⟨hws, hok⟩ := mapArrays_eq mw (a := c.arrays) ⟨rfl, rfl⟩ c.waitSet
  have hmap : mapArrays mw c.arrays c.waitSet =
      ((mapAll mw c.waitSet c.arrays.entries).1, .ok ()) := Prod.ext hws (hok.mpr hlisten)
  have hmapping : c.waitSet.mapping = [] := by
    have hnone := hc.staged.mapping
    rwa [entries, hcalling] at hnone
  have hstaged : Staged (mapAll mw c.waitSet c.arrays.entries).1 c.arrays.entries :=
    mapAll_stages hmapping (Prod.ext rfl hlisten)
  have henter : c.enterWait mw waitTimeout =
      { c with waitSet := (mapAll mw c.waitSet c.arrays.entries).1, phase := .waiting waitTimeout } := by
    simp only [enterWait, hcheck, hmap]
  rw [henter]
  refine ⟨⟨hc.subscribed, hc.published, ?_, hc.underway, hstaged⟩,
    .of_same id (fun hready ↦ ready_mapAll.mpr hready) (fun _ ↦ id) fun htaking ↦ ?_⟩
  · rw [← hc.subscribed]
    exact hstaged.found _ (List.mem_singleton_self _)
  · exact absurd (hcalling.symm.trans htaking) (by decide)

omit [DecidableEq ι] in
theorem ready_unmapAll {ws : WaitSet} : ws.unmapAll.Ready .subscriber name ↔
    ws.Ready .subscriber name := Iff.rfl

omit [DecidableEq ι] in
theorem waiting_reported (hc : WellFormed name c) {waitTimeout : Option RmwTime}
    (hphase : c.phase = .waiting waitTimeout) {mw : Middleware} {triggers : List TriggeredWaitable}
    (h : (c.waitSet.wait mw (timeoutOf waitTimeout)).result = .ok triggers) :
    ∀ t ∈ triggers, t = ⟨.subscriber, 0⟩ := by
  intro t ht
  obtain ⟨m, hm, rfl⟩ := (wait_reported h).2 t ht
  have hmapping := hc.staged.mapping
  rw [entries, hphase] at hmapping
  rw [hmapping] at hm
  obtain ⟨e, he, rfl⟩ := List.mem_map.mp hm
  obtain rfl := List.mem_singleton.mp (FirstOccurrence.firsts_subset _ he)
  rfl

omit [DecidableEq ι] in
/-- Either nothing was drained, or the client is told to take. -/
theorem leaveWait_spec (hc : WellFormed name c) {waitTimeout : Option RmwTime}
    (hphase : c.phase = .waiting waitTimeout) {mw : Middleware}
    (hok : (c.waitOutcome mw waitTimeout).ret ≠ .error) :
    WellFormed name (c.leaveWait mw waitTimeout) ∧
      (handshake M ι name).Ordered c (c.leaveWait mw waitTimeout) := by
  have hidle : c.phase ≠ .taking := by simp [hphase]
  cases hres : (c.waitSet.wait mw (timeoutOf waitTimeout)).result with
  | error f => simp [waitOutcome, waitArrays, hres] at hok
  | ok triggers =>
    have hset : ((c.waitOutcome mw waitTimeout).waitSet.bind (·.data)).getD c.waitSet =
        (c.waitSet.wait mw (timeoutOf waitTimeout)).waitSet.unmapAll := by
      simp only [waitOutcome, waitArrays, hres, Option.bind_some, Option.getD_some]
    have hfind : (c.waitSet.wait mw (timeoutOf waitTimeout)).waitSet.findListener .subscriber name =
        c.waitSet.findListener .subscriber name := findListener_congr wait_serviceNames
    by_cases hnil : triggers = []
    · have hleave : c.leaveWait mw waitTimeout =
          { c with waitSet := c.waitSet.unmapAll, phase := .calling } := by
        simp only [leaveWait, hset, (wait_reported hres).1 hnil]
        simp [ReportedReady, waitOutcome, waitArrays, hres, hnil]
      rw [hleave]
      refine ⟨⟨hc.subscribed, hc.published, hc.listener, hc.underway, rfl, by simp [entries]⟩, ?_⟩
      exact .of_same id ready_unmapAll.mpr (fun _ ↦ id) fun htaking ↦ absurd htaking hidle
    · have hfirst : ⟨.subscriber, 0⟩ ∈ triggers := by
        obtain ⟨t, ht⟩ := List.exists_mem_of_ne_nil _ hnil
        rwa [← waiting_reported hc hphase hres t ht]
      have hentry : (((c.waitOutcome mw waitTimeout).arrays.subscriptions.getD [])[0]?) =
          some (some c.subscriber) := by
        simp only [waitOutcome, waitArrays, hres, resetArrays, List.isEmpty_iff, hnil, if_false,
          getElem?_reset, mem_triggeredIndices]
        exact ⟨rfl, hfirst⟩
      have hready : ReportedReady (c.waitOutcome mw waitTimeout) := by
        refine ⟨?_, by rw [hentry]; rfl⟩
        simp [waitOutcome, waitArrays, hres, hnil]
      have hleave : c.leaveWait mw waitTimeout =
          { c with
            waitSet := (c.waitSet.wait mw (timeoutOf waitTimeout)).waitSet.unmapAll
            phase := .taking } := by
        simp only [leaveWait, hset, if_pos hready]
      rw [hleave]
      refine ⟨⟨hc.subscribed, hc.published, ?_, hc.underway, rfl, by simp [entries]⟩, Or.inl,
        fun i hi ↦ Or.inl hi, fun _ ↦ Or.inr rfl, fun _ ↦ Or.inl rfl⟩
      exact (congrArg Option.isSome hfind).trans hc.listener

omit [DecidableEq ι] in
theorem take_spec (hc : WellFormed name c) (htaking : c.phase = .taking) {address : Address}
    {rosMessage : RosMessage M} {taken : Bool}
    (hok : (c.takeOutcome address rosMessage taken).ret = .ok) :
    WellFormed name (c.take address rosMessage taken) ∧
      (handshake M ι name).Ordered c (c.take address rosMessage taken) := by
  obtain ⟨htaken, hname⟩ := rmwTake_taken hok
  have hmapping : c.waitSet.mapping = [] := by
    have hnone := hc.staged.mapping
    rwa [entries, htaking] at hnone
  have hsubscribed : (c.take address rosMessage taken).subscriber.serviceName = name :=
    hname.trans hc.subscribed
  have hstaged : Staged c.waitSet (c.take address rosMessage taken).entries := by
    have hentries : (c.take address rosMessage taken).entries = [] := by
      simp only [entries, take]
      split
      · rename_i hwaiting
        split at hwaiting <;> cases hwaiting
      · rfl
    rw [hentries]
    exact ⟨hmapping, fun e he ↦ absurd he List.not_mem_nil⟩
  refine ⟨⟨hsubscribed, hc.published, hc.listener, hc.underway, hstaged⟩, fun hqueue ↦ ?_,
    fun i hi ↦ Or.inl hi, Or.inl, fun _ ↦ ?_⟩
  · left
    intro hnil
    simp [handshake, take, hnil] at hqueue
  · by_cases hempty : c.queue.items = []
    · right
      simp [handshake, take, hempty]
    · left
      obtain ⟨payload, rest, hqueue⟩ := List.exists_cons_of_ne_nil hempty
      have hsome : (c.takeOutcome address rosMessage taken).taken = some true := by
        rw [takeOutcome, htaken, hqueue]
        rfl
      simp only [handshake, take, hsome]
      rfl

theorem exec_spec (c : Channel M ι) (op : ChannelOp M ι) (hc : WellFormed name c)
    (hok : Succeeds c op) :
    WellFormed name (c.exec op) ∧ (handshake M ι name).Ordered c (c.exec op) := by
  have hsame : WellFormed name c ∧ (handshake M ι name).Ordered c c :=
    ⟨hc, .of_same id id (fun _ ↦ id) id⟩
  cases op with
  | loan i port n =>
    exact ⟨hc.update (loan_serviceName n), .of_same id id (fun _ ↦ id) id⟩
  | writeLoan i ptr payload => exact ⟨hc.update rfl, .of_same id id (fun _ ↦ id) id⟩
  | publish i port call => exact exec_publish hc i hok
  | proceed i => exact exec_proceed hc i
  | waitEnter mw waitTimeout =>
    cases hphase : c.phase with
    | calling => simpa only [exec, hphase] using enterWait_spec hc hphase mw waitTimeout
    | waiting _ => simpa only [exec, hphase] using hsame
    | taking => simpa only [exec, hphase] using hsame
  | waitLeave mw =>
    cases hphase : c.phase with
    | calling => simpa only [exec, hphase] using hsame
    | waiting waitTimeout =>
      simpa only [exec, hphase] using leaveWait_spec hc hphase (hok waitTimeout hphase)
    | taking => simpa only [exec, hphase] using hsame
  | take address rosMessage taken =>
    cases hphase : c.phase with
    | calling => simpa only [exec, hphase] using hsame
    | waiting _ => simpa only [exec, hphase] using hsame
    | taking => simpa only [exec, hphase] using take_spec hc hphase hok

/-- In every state that the publishers and the client reach, a message in the queue is about to be
noticed: the listener holds events, a publisher is between its send and its notify, or the client is
taking. -/
theorem no_stranded_message {ops : List (ChannelOp M ι)} (hstart : Starting c)
    (h : Admissible exec Succeeds c ops) (hqueue : (run exec c ops).queue.items ≠ []) :
    (run exec c ops).waitSet.Ready .subscriber c.subscriber.serviceName ∨
      (∃ i, (run exec c ops).remaining i = [.notify]) ∨ (run exec c ops).phase = .taking := by
  have hinv := invariant
    (I := fun c' ↦ WellFormed c.subscriber.serviceName c' ∧
      (handshake M ι c.subscriber.serviceName).Attended c')
    (fun s op hs hok ↦
      have ⟨hwell, hordered⟩ := exec_spec s op hs.1 hok
      ⟨hwell, hordered.attended hs.2⟩)
    ⟨hstart.wellFormed, fun hfilled ↦ absurd hstart.queue hfilled⟩ h
  exact hinv.2 hqueue

def chatterChannel : Channel Text Bool where
  publishers _ := ⟨"/chatter", textTypeSupport, 32, Names.topic "/chatter", 32, .empty _⟩
  remaining _ := []
  queue := .empty _ _
  waitSet := ⟨[], [⟨Names.topic "/chatter", ⟨7, false⟩⟩], []⟩
  subscriber := ⟨"/chatter", textTypeSupport, Names.topic "/chatter", .empty _⟩
  phase := .calling

/-- Two publishers, one of which sends while the client is already woken by the other. -/
def crossingRun : List (ChannelOp Text Bool) :=
  [.waitEnter (.offering [] []) none, .publish true grantingPort (.publishCopy [1] 1), .proceed true,
    .proceed true, .publish false grantingPort (.publishCopy [2] 1),
    .waitLeave (.offering [] [.notification 7]), .proceed false]

theorem no_stranded_message_crossing :
    (run exec chatterChannel crossingRun).waitSet.Ready .subscriber (Names.topic "/chatter") ∨
      (∃ i, (run exec chatterChannel crossingRun).remaining i = [.notify]) ∨
      (run exec chatterChannel crossingRun).phase = .taking := by
  refine no_stranded_message (c := chatterChannel) ⟨fun _ ↦ rfl, by decide, rfl, fun _ ↦ Or.inl rfl,
    rfl, rfl⟩ ?_ (by decide)
  refine ⟨trivial, rfl, trivial, trivial, rfl, fun waitTimeout hphase ↦ ?_, trivial, trivial⟩
  obtain rfl : none = waitTimeout := ClientPhase.waiting.inj hphase
  decide

end Channel

end RmwIceoryx2.System
