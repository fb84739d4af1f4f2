import RmwIceoryx2.Common.Names
import RmwIceoryx2.Library.Execution
import RmwIceoryx2.Runtime.Readiness
import RmwIceoryx2.Rmw.WaitDelivery

namespace RmwIceoryx2.System

open RmwIceoryx2.Common RmwIceoryx2.Runtime RmwIceoryx2.Runtime.WaitSet RmwIceoryx2.Rmw
open RmwIceoryx2.Library.Execution RmwIceoryx2.Library.FirstOccurrence

structure Subscription where
  id : ℕ
  topic : String
  deriving DecidableEq, Repr

structure GuardCondition where
  contextId : ℕ
  triggerId : ℕ
  deriving DecidableEq, Repr

instance : HasServiceName Subscription := ⟨fun s ↦ Names.topic s.topic⟩

instance : HasServiceName GuardCondition :=
  ⟨fun g ↦ Names.guardCondition g.contextId g.triggerId⟩

abbrev Arrays := WaitArrays Subscription GuardCondition

structure Waiting where
  arrays : Arrays
  waitTimeout : Option RmwTime

/-- One wait set with the subscriptions it is used for and the messages queued for each. -/
structure World (P : Type) where
  waitSet : WaitSet
  queues : List (Subscription × List P)
  waiting : Option Waiting
  returned : Option (WaitOutcome Subscription GuardCondition)

def World.initial (P : Type) : World P := ⟨.empty, [], none, none⟩

/-- What can happen, in any order. A wait is entered and left in two steps, so that others
happen while it blocks. -/
inductive Op (P : Type)
  | createSubscription (s : Subscription)
  | publish (topic : String) (payload : P)
  | trigger (g : GuardCondition)
  | take (s : Subscription)
  | waitEnter (mw : Middleware) (arrays : Arrays) (waitTimeout : Option RmwTime)
  | waitLeave (mw : Middleware)

variable {P : Type}

def deliver (queues : List (Subscription × List P)) (serviceName : String) (payload : P) :
    List (Subscription × List P) :=
  queues.map fun q ↦ if HasServiceName.serviceName q.1 = serviceName then (q.1, q.2 ++ [payload])
    else q

def takeOne (queues : List (Subscription × List P)) (s : Subscription) :
    List (Subscription × List P) :=
  queues.map fun q ↦ if q.1 = s then (q.1, q.2.tail) else q

def enterWait (w : World P) (mw : Middleware) (a : Arrays) (waitTimeout : Option RmwTime) :
    World P :=
  match checkWaitArguments (some (handle w.waitSet)) a with
  | .error f => { w with returned := some ⟨f.error, f.chain, some (handle w.waitSet), a, []⟩ }
  | .ok _ =>
    match mapArrays mw a w.waitSet with
    | (ws, .error f) =>
      { w with waitSet := ws, returned := some ⟨f.error, f.chain, some (handle ws), a, []⟩ }
    | (ws, .ok ()) => { w with waitSet := ws, waiting := some ⟨a, waitTimeout⟩ }

def leaveWait (w : World P) (mw : Middleware) : World P :=
  match w.waiting with
  | none => w
  | some c =>
    let out := waitArrays mw (handle w.waitSet) c.arrays w.waitSet (timeoutOf c.waitTimeout)
    { w with
      waitSet := (out.waitSet.bind (·.data)).getD w.waitSet
      waiting := none
      returned := some out }

def exec (w : World P) : Op P → World P
  | .createSubscription s => { w with queues := w.queues ++ [(s, [])] }
  | .publish topic payload =>
    { w with
      queues := deliver w.queues (Names.topic topic) payload
      waitSet := w.waitSet.notify .subscriber (Names.topic topic) }
  | .trigger g =>
    { w with waitSet := w.waitSet.notify .guardCondition (serviceName g) }
  | .take s => { w with queues := takeOne w.queues s }
  | .waitEnter mw a waitTimeout => enterWait w mw a waitTimeout
  | .waitLeave mw => leaveWait w mw

/-- Entering and leaving a wait with nothing in between is `rmw_wait`. -/
theorem rmwWait_eq_enter_leave (w : World P) (mw : Middleware) (a : Arrays)
    (waitTimeout : Option RmwTime) (hidle : w.waiting = none) :
    (run exec w [.waitEnter mw a waitTimeout, .waitLeave mw]).returned =
      some (rmwWait mw (some (handle w.waitSet)) a waitTimeout) := by
  simp only [run_cons, run_nil, exec, enterWait]
  unfold rmwWait
  cases hc : checkWaitArguments (some (handle w.waitSet)) a with
  | error f => simp only [leaveWait, hidle]
  | ok h =>
    obtain ⟨hh, -, -⟩ := checkWaitArguments_ok.mp hc
    cases hh
    simp only [handle, uncheckedCast]
    cases hm : mapArrays mw a w.waitSet with
    | mk ws r =>
      cases r with
      | error f => simp only [leaveWait, hidle]
      | ok u => rfl

/-- What is assumed of the middleware and the callers: no call of the middleware fails, a new
listener has a descriptor of its own, a blocked wait returns before the next one is entered, and
what is handed over is what is ready. -/
def Ideal (w : World P) : Op P → Prop
  | .waitEnter mw a _ => w.waiting = none ∧ Fresh mw w.waitSet ∧
      ∀ e ∈ a.entries, CanListen mw w.waitSet e.waitableType e.serviceName
  | .waitLeave mw => (∀ d, mw.attachInterval d = .ok ()) ∧
      (∀ fd, mw.attachNotification fd = .ok ()) ∧ (∀ fd, mw.tryWaitAll fd = .ok ()) ∧
      (∀ t, (mw.waitAndProcessOnce t).2 = .ok ()) ∧
      ∀ c, w.waiting = some c → HandsOverReady mw w.waitSet (timeoutOf c.waitTimeout)
  | _ => True

/-- Between two waits nothing is staged, and during a wait exactly its own entries are. -/
structure WellFormed (w : World P) : Prop where
  distinct : DistinctDescriptors w.waitSet
  idle : w.waiting = none → w.waitSet.mapping = []
  staged : ∀ c, w.waiting = some c → Staged w.waitSet c.arrays.entries

theorem wellFormed_initial : WellFormed (World.initial P) :=
  ⟨distinctDescriptors_empty, fun _ ↦ rfl, fun _ h ↦ by cases h⟩

theorem WellFormed.notify {w : World P} (h : WellFormed w) (ty : WaitableEntity) (name : String)
    (queues : List (Subscription × List P)) :
    WellFormed { w with queues := queues, waitSet := w.waitSet.notify ty name } :=
  ⟨h.distinct.mapListeners keepsIdentity_notifiedOn, h.idle,
    fun c hc ↦ (h.staged c hc).mapListeners keepsIdentity_notifiedOn⟩

variable {w : World P} {mw : Middleware} {name : String}

theorem wait_error (hw : WellFormed w) (hok : Ideal w (.waitLeave mw)) {c : Waiting}
    (hc : w.waiting = some c) {f : Failure WaitSetError}
    (hres : (w.waitSet.wait mw (timeoutOf c.waitTimeout)).result = .error f) :
    c.arrays.entries = [] ∧ timeoutOf c.waitTimeout = none := by
  have hs := hw.staged c hc
  obtain ⟨hint, hatt, -, hend, -⟩ := hok
  have hno : ¬ ∃ triggers, (w.waitSet.wait mw (timeoutOf c.waitTimeout)).result = .ok triggers := by
    rw [hres]
    simp
  rw [wait_isOk, hs.attach_iff, hs.mapping_eq_nil] at hno
  have hall : ∀ e ∈ c.arrays.entries, ∃ fd,
      descriptorOf mw w.waitSet e.waitableType e.serviceName = some fd ∧
        mw.attachNotification fd = .ok () := by
    intro e he
    obtain ⟨d, -, -, hdesc⟩ := getStoredListener_resolve mw (hs.found e he)
    exact ⟨_, hdesc, hatt _⟩
  by_contra hcon
  exact hno (Or.inr ⟨hcon, fun d _ ↦ hint d, hall, hend _⟩)

theorem leaveWait_spec (hw : WellFormed w) (hok : Ideal w (.waitLeave mw)) {c : Waiting}
    (hc : w.waiting = some c) :
    ∃ (r : List (TriggeredWaitable × FileDescriptor))
      (out : WaitOutcome Subscription GuardCondition),
      (∀ t fd, (t, fd) ∈ r ↔ ∃ e ∈ firsts Entry.key c.arrays.entries,
        t = ⟨e.waitableType, e.rmwIndex⟩ ∧
        descriptorOf mw w.waitSet e.waitableType e.serviceName = some fd ∧
        Consumed mw w.waitSet (timeoutOf c.waitTimeout) e) ∧
      leaveWait w mw = { w with
        waitSet := (w.waitSet.drainAll (r.map Prod.snd)).unmapAll
        waiting := none
        returned := some out } ∧
      (c.arrays.entries ≠ [] → out.ret = (if (r.map Prod.fst).isEmpty then .timeout else .ok) ∧
        out.arrays = resetArrays (r.map Prod.fst) c.arrays) := by
  have hs := hw.staged c hc
  cases hres : (w.waitSet.wait mw (timeoutOf c.waitTimeout)).result with
  | ok triggers =>
    obtain ⟨r, hr, hout⟩ := waitArrays_spec (handle w.waitSet) _ hs hw.distinct hres
    refine ⟨r, waitArrays mw (handle w.waitSet) c.arrays w.waitSet (timeoutOf c.waitTimeout), hr,
      ?_, fun _ ↦ ?_⟩
    · simp only [leaveWait, hc]
      rw [hout]
      rfl
    · rw [hout]
      exact ⟨rfl, rfl⟩
  | error f =>
    obtain ⟨hnil, hnone⟩ := wait_error hw hok hc hres
    have hmapping : w.waitSet.mapping = [] := hs.mapping_eq_nil.mpr hnil
    have hsame : (w.waitSet.wait mw none).waitSet = w.waitSet := by
      simp [WaitSet.wait, hmapping, zeroTimeout, noTimeout]
    have hclear : (w.waitSet.drainAll []).unmapAll = w.waitSet := by
      rw [drainAll_nil, unmapAll, ← hmapping]
    refine ⟨[], waitArrays mw (handle w.waitSet) c.arrays w.waitSet (timeoutOf c.waitTimeout),
      by simp [hnil], ?_, fun hne ↦ absurd hnil hne⟩
    rw [List.map_nil, hclear]
    simp only [leaveWait, hc, waitArrays, hres]
    rw [hnone, hsame]
    rfl

theorem exec_wellFormed (w : World P) (op : Op P) (hw : WellFormed w) (hok : Ideal w op) :
    WellFormed (exec w op) := by
  cases op with
  | createSubscription s => exact ⟨hw.distinct, hw.idle, hw.staged⟩
  | take s => exact ⟨hw.distinct, hw.idle, hw.staged⟩
  | publish topic payload => exact hw.notify _ _ _
  | trigger g => exact hw.notify _ _ w.queues
  | waitEnter mw a waitTimeout =>
    obtain ⟨hidle, hfresh, hlisten⟩ := hok
    simp only [exec, enterWait]
    split
    · exact ⟨hw.distinct, hw.idle, hw.staged⟩
    · rename_i h hcheck
      obtain ⟨-, -, hvalid⟩ := checkWaitArguments_ok.mp hcheck
      obtain ⟨hws, hiff⟩ := mapArrays_eq mw hvalid w.waitSet
      have hnone : (mapAll mw w.waitSet a.entries).2 = none := mapAll_isOk.mpr hlisten
      have hmapped : mapArrays mw a w.waitSet =
          ((mapAll mw w.waitSet a.entries).1, .ok ()) := Prod.ext hws (hiff.mpr hnone)
      rw [hmapped]
      refine ⟨(mapAll_distinct a.entries hw.distinct hfresh).1, fun h ↦ ?_, fun c hc ↦ ?_⟩
      · cases h
      · cases hc
        exact mapAll_stages (hw.idle hidle) (Prod.ext rfl hnone)
  | waitLeave mw =>
    cases hc : w.waiting with
    | none =>
      have hsame : exec w (.waitLeave mw) = w := by simp only [exec, leaveWait, hc]
      rw [hsame]
      exact hw
    | some c =>
      obtain ⟨r, out, -, hleave, -⟩ := leaveWait_spec hw hok hc
      rw [exec, hleave]
      refine ⟨?_, fun _ ↦ rfl, fun c' hc' ↦ by cases hc'⟩
      exact hw.distinct.mapListeners (keepsIdentity_drainedBy _)

def Op.notified : Op P → Option (WaitableEntity × String)
  | .publish topic _ => some (.subscriber, Names.topic topic)
  | .trigger g => some (.guardCondition, serviceName g)
  | _ => none

/-- A notification on a service that completes when the wait set has the service's listener. -/
def NotifiedOn (ty : WaitableEntity) (name : String) (w : World P) (op : Op P) : Prop :=
  op.notified = some (ty, name) ∧ (w.waitSet.findListener ty name).isSome

def ReturnedOn (ty : WaitableEntity) (name : String) (w : World P) (op : Op P) : Prop :=
  ∃ mw c, op = .waitLeave mw ∧ w.waiting = some c ∧ ∃ e ∈ c.arrays.entries, e.key = (ty, name)

/-- How one operation changes whether the listener of a service holds events. -/
theorem exec_ready {ty : WaitableEntity} (w : World P) (op : Op P) (hw : WellFormed w)
    (hok : Ideal w op) :
    (exec w op).waitSet.Ready ty name ↔
      NotifiedOn ty name w op ∨ (w.waitSet.Ready ty name ∧ ¬ ReturnedOn ty name w op) := by
  cases op with
  | createSubscription s => simp [exec, NotifiedOn, Op.notified, ReturnedOn]
  | take s => simp [exec, NotifiedOn, Op.notified, ReturnedOn]
  | publish topic payload =>
    have hno : ¬ ReturnedOn ty name w (.publish topic payload) := by simp [ReturnedOn]
    simp only [exec, ready_notify, NotifiedOn, Op.notified, Option.some_inj, Prod.mk.injEq,
      eq_comm (a := ty), eq_comm (a := name), and_assoc, hno, not_false_eq_true, and_true]
  | trigger g =>
    have hno : ¬ ReturnedOn ty name w (.trigger g) := by simp [ReturnedOn]
    simp only [exec, ready_notify, NotifiedOn, Op.notified, Option.some_inj, Prod.mk.injEq,
      eq_comm (a := ty), eq_comm (a := name), and_assoc, hno, not_false_eq_true, and_true]
  | waitEnter mw a waitTimeout =>
    have hkeep : (exec w (.waitEnter mw a waitTimeout)).waitSet = w.waitSet ∨
        (exec w (.waitEnter mw a waitTimeout)).waitSet = (mapAll mw w.waitSet a.entries).1 := by
      simp only [exec, enterWait]
      split
      · exact Or.inl rfl
      · rename_i h hcheck
        obtain ⟨-, -, hvalid⟩ := checkWaitArguments_ok.mp hcheck
        obtain ⟨hws, -⟩ := mapArrays_eq mw hvalid w.waitSet
        right
        rw [← hws]
        split <;> rename_i hm <;> rw [hm]
    have hready : (exec w (.waitEnter mw a waitTimeout)).waitSet.Ready ty name ↔
        w.waitSet.Ready ty name := by
      rcases hkeep with hkeep | hkeep <;> rw [hkeep]
      exact ready_mapAll
    rw [hready]
    simp [NotifiedOn, Op.notified, ReturnedOn]
  | waitLeave mw =>
    have hno : ¬ NotifiedOn ty name w (.waitLeave mw) := by simp [NotifiedOn, Op.notified]
    simp only [hno, false_or]
    cases hc : w.waiting with
    | none => simp [exec, leaveWait, hc, ReturnedOn]
    | some c =>
      obtain ⟨r, out, hr, hleave, -⟩ := leaveWait_spec hw hok hc
      obtain ⟨-, -, hdrain, -, hready⟩ := hok
      have hreturned : ReturnedOn ty name w (.waitLeave mw) ↔
          ∃ e ∈ c.arrays.entries, e.key = (ty, name) := by simp [ReturnedOn, hc]
      have hfds : ∀ fd, fd ∈ r.map Prod.snd ↔ ∃ e ∈ firsts Entry.key c.arrays.entries,
          descriptorOf mw w.waitSet e.waitableType e.serviceName = some fd ∧
            Consumed mw w.waitSet (timeoutOf c.waitTimeout) e := by
        intro fd
        rw [List.mem_map]
        constructor
        · intro h
          obtain ⟨⟨t, fd'⟩, htfd, rfl⟩ := h
          obtain ⟨e, he, -, hrest⟩ := (hr _ _).mp htfd
          exact ⟨e, he, hrest⟩
        · intro h
          obtain ⟨e, he, hrest⟩ := h
          exact ⟨(_, fd), (hr _ _).mpr ⟨e, he, rfl, hrest⟩, rfl⟩
      rw [hreturned, exec, hleave,
        ← (hw.staged c hc).ready_drainAll hw.distinct hdrain (hready c hc) hfds]
      rfl

/-- A wait reports the first entry of a service exactly when the service was notified while the wait
set had its listener and no wait listing the service has returned since. -/
theorem reported_iff_notified_since {ops : List (Op P)}
    (h : Admissible exec Ideal (.initial P) (ops ++ [.waitLeave mw])) {c : Waiting}
    (hc : (run exec (.initial P) ops).waiting = some c) {e : Entry}
    (he : e ∈ firsts Entry.key c.arrays.entries) :
    ∃ (triggers : List TriggeredWaitable) (out : WaitOutcome Subscription GuardCondition),
      (run exec (.initial P) (ops ++ [.waitLeave mw])).returned = some out ∧
      out.ret = (if triggers.isEmpty then .timeout else .ok) ∧
      out.arrays = resetArrays triggers c.arrays ∧
      (⟨e.waitableType, e.rmwIndex⟩ ∈ triggers ↔
        Since exec (NotifiedOn e.waitableType e.serviceName)
          (ReturnedOn e.waitableType e.serviceName) (.initial P) ops) := by
  obtain ⟨hops, hlast⟩ := (admissible_snoc _ _ _ _).mp h
  have hw : WellFormed (run exec (.initial P) ops) :=
    invariant exec_wellFormed wellFormed_initial hops
  have hsince : (run exec (.initial P) ops).waitSet.Ready e.waitableType e.serviceName ↔
      Since exec (NotifiedOn e.waitableType e.serviceName)
        (ReturnedOn e.waitableType e.serviceName) (.initial P) ops := by
    refine since_iff (P := fun w ↦ w.waitSet.Ready e.waitableType e.serviceName)
      exec_wellFormed exec_ready wellFormed_initial (fun hr ↦ ?_) hops
    obtain ⟨k, d, -, hd, -⟩ := hr
    cases hty : e.waitableType <;> rw [hty] at hd <;> cases hd
  have hmem := firsts_subset _ he
  obtain ⟨r, out, hr, hleave, hout⟩ := leaveWait_spec hw hlast hc
  obtain ⟨hret, harr⟩ := hout (List.ne_nil_of_mem hmem)
  obtain ⟨-, -, hdrain, -, hready⟩ := hlast
  refine ⟨r.map Prod.fst, out, by rw [run_snoc, exec, hleave], hret, harr, ?_⟩
  rw [← hsince, ← (hw.staged c hc).consumed_iff_ready hdrain (hready c hc) hmem, List.mem_map]
  constructor
  · intro hm
    obtain ⟨⟨t, fd⟩, htfd, rfl⟩ := hm
    obtain ⟨e', he', ht, -, hc'⟩ := (hr _ _).mp htfd
    cases entries_inj hmem (firsts_subset _ he') (congrArg (·.waitableType) ht)
      (congrArg (·.rmwIndex) ht)
    exact hc'
  · intro hc'
    obtain ⟨fd, hdesc, -⟩ := id hc'
    exact ⟨(_, fd), (hr _ _).mpr ⟨e, he, rfl, hdesc, hc'⟩, rfl⟩

theorem kept_iff_triggered {E : Type} {es : Option (List (Option E))} {ty : WaitableEntity}
    {triggers : List TriggeredWaitable} {i : RmwIndex} {x : E}
    (hi : (es.getD [])[i]? = some (some x)) :
    ((if triggers.isEmpty then RmwRet.timeout else .ok) = .ok ∧
      ((if triggers.isEmpty then es else
        es.map (resetUntriggered (triggeredIndices ty triggers))).getD [])[i]? = some (some x)) ↔
      ⟨ty, i⟩ ∈ triggers := by
  cases hne : triggers.isEmpty with
  | true => simp [List.isEmpty_iff.mp hne]
  | false =>
    simp only [Bool.false_eq_true, ↓reduceIte, getElem?_reset, mem_triggeredIndices, hi, true_and]

/-- A publish on the topic that completes when the wait set has the topic's listener. -/
def PublishedOn (topic : String) (w : World P) (op : Op P) : Prop :=
  ∃ payload, op = .publish topic payload ∧
    (w.waitSet.findListener .subscriber (Names.topic topic)).isSome

/-- A wait that lists a subscription on the topic returns. -/
def WaitReturnedOn (topic : String) (w : World P) (op : Op P) : Prop :=
  ∃ mw c, op = .waitLeave mw ∧ w.waiting = some c ∧
    ∃ s : Subscription, some s ∈ c.arrays.subscriptions.getD [] ∧ s.topic = topic

theorem publishedOn_eq (topic : String) :
    PublishedOn (P := P) topic = NotifiedOn .subscriber (Names.topic topic) := by
  funext w op
  cases op <;> simp [PublishedOn, NotifiedOn, Op.notified, Names.topic_injective.eq_iff]

theorem lists_topic_iff {a : Arrays} {topic : String} :
    (∃ e ∈ a.entries, e.key = (.subscriber, Names.topic topic)) ↔
      ∃ s : Subscription, some s ∈ a.subscriptions.getD [] ∧ s.topic = topic := by
  constructor
  · intro h
    obtain ⟨e, he, hkey⟩ := h
    rw [Entry.key, Prod.mk.injEq] at hkey
    rcases List.mem_append.mp he with hg | hs
    · rw [(mem_arrayEntries.mp hg).1] at hkey
      cases hkey.1
    · obtain ⟨-, i, s, hs, -, hname⟩ := mem_arrayEntries.mp hs
      exact ⟨s, List.mem_of_getElem? hs, Names.topic_injective (hname.symm.trans hkey.2)⟩
  · intro h
    obtain ⟨s, hs, rfl⟩ := h
    obtain ⟨i, hi⟩ := List.mem_iff_getElem?.mp hs
    exact ⟨⟨.subscriber, i, Names.topic s.topic⟩, List.mem_append_right _
      (mem_arrayEntries.mpr ⟨rfl, i, s, hi, (Nat.zero_add i).symm, rfl⟩), rfl⟩

theorem waitReturnedOn_eq (topic : String) :
    WaitReturnedOn (P := P) topic = ReturnedOn .subscriber (Names.topic topic) := by
  funext w op
  simp only [WaitReturnedOn, ReturnedOn, lists_topic_iff]

/-- A wait returns ok and leaves a subscription in its array, no earlier entry of which is on the
same topic, exactly when a publish on the topic completed while the wait set had the topic's
listener and no wait listing the topic has returned since. -/
theorem ready_iff_published_since {ops : List (Op P)}
    (h : Admissible exec Ideal (.initial P) (ops ++ [.waitLeave mw])) {c : Waiting}
    (hc : (run exec (.initial P) ops).waiting = some c) {i : RmwIndex} {s : Subscription}
    (hi : (c.arrays.subscriptions.getD [])[i]? = some (some s))
    (hfirst : ∀ j < i, ∀ s', (c.arrays.subscriptions.getD [])[j]? = some (some s') →
      s'.topic ≠ s.topic) :
    ∃ out, (run exec (.initial P) (ops ++ [.waitLeave mw])).returned = some out ∧
      ((out.ret = .ok ∧ (out.arrays.subscriptions.getD [])[i]? = some (some s)) ↔
        Since exec (PublishedOn s.topic) (WaitReturnedOn s.topic) (.initial P) ops) := by
  have hf : (⟨.subscriber, i, Names.topic s.topic⟩ : Entry) ∈ firsts Entry.key c.arrays.entries :=
    subscription_mem_firsts hi
      (fun j hj s' hs' hname ↦ hfirst j hj s' hs' (Names.topic_injective hname))
  obtain ⟨triggers, out, hout, hret, harr, hsince⟩ := reported_iff_notified_since h hc hf
  refine ⟨out, hout, ?_⟩
  rw [publishedOn_eq, waitReturnedOn_eq, ← hsince, hret, harr]
  exact kept_iff_triggered hi

section Chatter

def chatter : Subscription := ⟨0, "/chatter"⟩

def chatterArrays : Arrays := ⟨some [some chatter], none, none, none, none⟩

def firstWait : Middleware :=
  .offering [((.subscriber, Names.topic "/chatter"), 7)] [.interval]

def laterWait : Middleware := .offering [] [.notification 7]

def publishThenWait : List (Op String) :=
  [.createSubscription chatter, .publish "/chatter" "hello",
    .waitEnter firstWait chatterArrays (some ⟨1, 0⟩), .waitLeave firstWait]

def waitThenPublish : List (Op String) :=
  [.createSubscription chatter, .waitEnter firstWait chatterArrays (some ⟨1, 0⟩),
    .waitLeave firstWait, .publish "/chatter" "hello", .waitEnter laterWait chatterArrays none]

theorem handsOverReady_of_one {ws : WaitSet} {timeout : Option Duration} (m : RmwMapping)
    (d : ListenerDetails) (hm : ws.mapping = [m])
    (hd : ws.getStoredListener m.waitableType m.storageIndex = some d)
    (hiff : d.listener.pending = true ↔
      .notification d.listener.fileDescriptor ∈ handed mw timeout) :
    HandsOverReady mw ws timeout := by
  intro m' hm' d' hd'
  rw [hm, List.mem_singleton] at hm'
  rw [hm', hd, Option.some_inj] at hd'
  rw [← hd']
  exact hiff

theorem canListen_firstWait (ws : WaitSet) :
    ∀ e ∈ chatterArrays.entries, CanListen firstWait ws e.waitableType e.serviceName := by
  intro e he
  obtain rfl := List.mem_singleton.mp he
  exact Or.inr ⟨rfl, 7, by decide⟩

theorem message_before_first_wait_not_ready :
    Admissible exec Ideal (.initial String) publishThenWait ∧
    (chatter, ["hello"]) ∈ (run exec (.initial String) (publishThenWait.take 2)).queues ∧
    ∃ out, (run exec (.initial String) publishThenWait).returned = some out ∧
      out.ret = .timeout := by
  refine ⟨⟨trivial, trivial, ⟨rfl, fresh_offering_one _ _ _, canListen_firstWait _⟩,
    ⟨fun _ ↦ rfl, fun _ ↦ rfl, fun _ ↦ rfl, fun _ ↦ rfl, fun c hc ↦ ?_⟩, trivial⟩, by decide,
    _, rfl, by decide⟩
  cases hc
  exact handsOverReady_of_one ⟨.subscriber, 0, 0⟩ ⟨Names.topic "/chatter", ⟨7, false⟩⟩
    (by decide) (by decide) (by decide)

theorem ready_iff_published_since_chatter :
    ∃ out, (run exec (.initial String) (waitThenPublish ++ [.waitLeave laterWait])).returned =
        some out ∧
      ((out.ret = .ok ∧ (out.arrays.subscriptions.getD [])[0]? = some (some chatter)) ↔
        Since exec (PublishedOn "/chatter") (WaitReturnedOn "/chatter") (.initial String)
          waitThenPublish) := by
  have hrun : Admissible exec Ideal (.initial String)
      (waitThenPublish ++ [.waitLeave laterWait]) := by
    refine ⟨trivial, ⟨rfl, fresh_offering_one _ _ _, canListen_firstWait _⟩,
      ⟨fun _ ↦ rfl, fun _ ↦ rfl, fun _ ↦ rfl, fun _ ↦ rfl, fun c hc ↦ ?_⟩, trivial,
      ⟨rfl, fresh_offering_none _ _, fun e he ↦ ?_⟩,
      ⟨fun _ ↦ rfl, fun _ ↦ rfl, fun _ ↦ rfl, fun _ ↦ rfl, fun c hc ↦ ?_⟩, trivial⟩
    · cases hc
      exact handsOverReady_of_one ⟨.subscriber, 0, 0⟩ ⟨Names.topic "/chatter", ⟨7, false⟩⟩
        (by decide) (by decide) (by decide)
    · obtain rfl := List.mem_singleton.mp he
      exact Or.inl (by decide)
    · cases hc
      exact handsOverReady_of_one ⟨.subscriber, 0, 0⟩ ⟨Names.topic "/chatter", ⟨7, true⟩⟩
        (by decide) (by decide) (by decide)
  exact ready_iff_published_since hrun (c := ⟨chatterArrays, none⟩) (i := 0) (s := chatter) rfl rfl
    (fun j hj ↦ absurd hj (Nat.not_lt_zero j))

end Chatter

end RmwIceoryx2.System
