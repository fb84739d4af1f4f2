import RmwIceoryx2.Library.Progress
import RmwIceoryx2.Rmw.FalseReadiness
import RmwIceoryx2.System.DrainingClient
import Mathlib.Tactic.IntervalCases

namespace RmwIceoryx2.System.Channel

open RmwIceoryx2.Common RmwIceoryx2.Runtime RmwIceoryx2.Runtime.WaitSet RmwIceoryx2.Rmw
open RmwIceoryx2.Message RmwIceoryx2.Library RmwIceoryx2.Library.Execution Filter
open scoped List

variable {M ι : Type}

def payloadOf : PortRequest → Option Bytes
  | .loanSliceUninit _ | .notify => none
  | .send payload | .sendSliceCopy payload => some payload

def sent (c : Channel M ι) : ChannelOp M ι → Option Bytes
  | .proceed i => (c.remaining i).head?.bind payloadOf
  | _ => none

def obtained (c : Channel M ι) : ChannelOp M ι → Option Bytes
  | .take address rosMessage taken =>
    if c.phase = .taking ∧ (c.takeOutcome address rosMessage taken).taken = some true then
      c.queue.items.head?
    else none
  | _ => none

def queueStep (c : Channel M ι) : ChannelOp M ι → Option (Inbox.Step Bytes)
  | .proceed i => ((c.remaining i).head?.bind payloadOf).map .push
  | .take _ _ _ => if c.phase = .taking then some .pop else none
  | _ => none

/-- What leaves the queue: the client obtains it, or a send into a full queue displaces it. -/
def gone (c : Channel M ι) (op : ChannelOp M ι) : Option Bytes :=
  (queueStep c op).bind (Inbox.gone c.queue)

def HasRoom (c : Channel M ι) : ChannelOp M ι → Prop
  | .proceed i => ((c.remaining i).head?.bind payloadOf).isSome →
      c.queue.items.length < Subscriber.subscriberMaxBufferSize
  | _ => True

/-- The wait that the client leaves hands over every listener that holds events, before the timeout,
and the listeners can be drained. -/
def HandsOver (c : Channel M ι) (op : ChannelOp M ι) : Prop :=
  ∃ mw waitTimeout, op = .waitLeave mw ∧ c.phase = .waiting waitTimeout ∧
    HandsOverReady mw c.waitSet (timeoutOf waitTimeout) ∧ ∀ fd, mw.tryWaitAll fd = .ok ()

variable [DecidableEq ι] {c : Channel M ι} {name : String} {ops : ℕ → ChannelOp M ι}

/-- No publisher stops in the middle of a call, and the client goes on with its loop. Of its waits
not all have to hand over what is ready, but always some later one. -/
structure Fair (c : Channel M ι) (ops : ℕ → ChannelOp M ι) : Prop where
  proceeds : ∀ i, ∃ᶠ n in atTop, ops n = .proceed i
  waits : ∃ᶠ n in atTop, (stateAt exec c ops n).phase = .taking ∨
    HandsOver (stateAt exec c ops n) (ops n)
  takes : ∃ᶠ n in atTop, ∃ address rosMessage taken, ops n = .take address rosMessage taken

section Queue

omit [DecidableEq ι] in
theorem enterWait_queue (c : Channel M ι) (mw : Middleware) (waitTimeout : Option RmwTime) :
    (c.enterWait mw waitTimeout).queue = c.queue := by
  simp only [enterWait]
  repeat' split
  all_goals rfl

/-- Seen from the queue, a run is one of a bounded inbox. -/
theorem queue_refines : Refines (exec (M := M) (ι := ι)) Inbox.step Succeeds (fun _ ↦ True)
    Channel.queue queueStep := by
  refine ⟨fun _ _ _ _ ↦ trivial, fun c op _ _ ↦ ?_⟩
  cases op with
  | loan i port n => rfl
  | writeLoan i ptr payload => rfl
  | publish i port call =>
    simp only [exec]
    split <;> rfl
  | proceed i =>
    simp only [exec, queueStep]
    cases c.remaining i with
    | nil => rfl
    | cons request requests => cases request <;> rfl
  | waitEnter mw waitTimeout =>
    simp only [exec]
    split
    · exact enterWait_queue c mw waitTimeout
    · rfl
  | waitLeave mw =>
    simp only [exec]
    split <;> rfl
  | take address rosMessage taken =>
    simp only [exec, queueStep]
    cases c.phase <;> rfl

omit [DecidableEq ι] in
theorem sent_eq_pushed (c : Channel M ι) (op : ChannelOp M ι) :
    sent c op = (queueStep c op).bind Inbox.Step.pushed := by
  cases op with
  | proceed i =>
    simp only [sent, queueStep]
    cases (c.remaining i).head?.bind payloadOf <;> rfl
  | take address rosMessage taken =>
    simp only [sent, queueStep]
    split <;> rfl
  | _ => rfl

omit [DecidableEq ι] in
theorem obtained_eq_popped (op : ChannelOp M ι) (hok : Succeeds c op) :
    obtained c op = (queueStep c op).bind (Inbox.popped c.queue) := by
  cases op with
  | proceed i =>
    simp only [obtained, queueStep]
    cases (c.remaining i).head?.bind payloadOf <;> rfl
  | take address rosMessage taken =>
    have htaken : (c.takeOutcome address rosMessage taken).taken = _ := (rmwTake_taken hok).1
    simp only [obtained, queueStep, htaken]
    by_cases htaking : c.phase = .taking
    · rw [if_pos htaking, Option.bind_some, Inbox.popped]
      cases c.queue.items.head? <;> simp [htaking]
    · rw [if_neg htaking, if_neg fun h ↦ htaking h.1]
      rfl
  | _ => rfl

omit [DecidableEq ι] in
theorem gone_of_obtained {op : ChannelOp M ι} (hok : Succeeds c op) {payload : Bytes}
    (h : obtained c op = some payload) : gone c op = some payload := by
  rw [obtained_eq_popped op hok] at h
  obtain ⟨step, hstep, hpopped⟩ := Option.bind_eq_some_iff.mp h
  rw [gone, hstep, Option.bind_some]
  exact Inbox.gone_of_popped hpopped

omit [DecidableEq ι] in
theorem gone_eq_obtained {op : ChannelOp M ι} (hok : Succeeds c op) (hroom : HasRoom c op) :
    gone c op = obtained c op := by
  rw [obtained_eq_popped op hok, gone]
  cases hstep : queueStep c op with
  | none => rfl
  | some step =>
    apply Inbox.gone_eq_popped
    cases op with
    | proceed i =>
      obtain ⟨payload, hpayload, rfl⟩ := Option.map_eq_some_iff.mp hstep
      exact hroom (by rw [hpayload, Option.isSome_some])
    | take address rosMessage taken =>
      simp only [queueStep] at hstep
      split at hstep <;> cases hstep
      trivial
    | _ => cases hstep

theorem queue_exec (c : Channel M ι) (op : ChannelOp M ι) (hok : Succeeds c op) :
    (gone c op).toList ++ (c.exec op).queue.items = c.queue.items ++ (sent c op).toList := by
  rw [queue_refines.view_exec c op trivial hok, sent_eq_pushed, gone]
  cases queueStep c op with
  | none => simp
  | some step => exact Inbox.gone_step c.queue step

end Queue

section Descriptors

omit [DecidableEq ι] in
theorem listenerStorage_mapAll {mw : Middleware} {ws : WaitSet} {es : List Entry}
    (h : ∀ e ∈ es, (ws.findListener e.waitableType e.serviceName).isSome) (ty : WaitableEntity) :
    (mapAll mw ws es).1.listenerStorage ty = ws.listenerStorage ty := by
  induction es generalizing ws with
  | nil => rfl
  | cons e es ih =>
    obtain ⟨k, hk⟩ := Option.isSome_iff_exists.mp (h e List.mem_cons_self)
    have hmap : ws.map mw e.waitableType e.rmwIndex e.serviceName =
        .ok (ws.mapStoredListener e.waitableType k e.rmwIndex) := by
      simp only [WaitSet.map, getStorageIndex, hk]
    have hstored : ∀ ty, (ws.mapStoredListener e.waitableType k e.rmwIndex).listenerStorage ty =
        ws.listenerStorage ty := fun ty ↦ listenerStorage_mapStoredListener ws ty _ _ _
    have hrest : ∀ e' ∈ es, ((ws.mapStoredListener e.waitableType k e.rmwIndex).findListener
        e'.waitableType e'.serviceName).isSome := by
      intro e' he'
      rw [WaitSet.findListener, hstored]
      exact h e' (List.mem_cons_of_mem e he')
    rw [mapAll]
    simp only [hmap]
    rw [ih hrest, hstored]

omit [DecidableEq ι] in
theorem distinctDescriptors_congr {ws ws' : WaitSet}
    (h : ∀ ty, ws'.listenerStorage ty = ws.listenerStorage ty) (hd : DistinctDescriptors ws) :
    DistinctDescriptors ws' := by
  intro ty k ty' k' d d' hk hk'
  rw [getStoredListener, h] at hk hk'
  exact hd hk hk'

omit [DecidableEq ι] in
theorem enterWait_distinct (hc : WellFormed name c) (hd : DistinctDescriptors c.waitSet)
    (mw : Middleware) (waitTimeout : Option RmwTime) :
    DistinctDescriptors (c.enterWait mw waitTimeout).waitSet := by
  obtain ⟨hws, -⟩ := mapArrays_eq mw (a := c.arrays) ⟨rfl, rfl⟩ c.waitSet
  have hlistening : ∀ e ∈ c.arrays.entries,
      (c.waitSet.findListener e.waitableType e.serviceName).isSome := by
    intro e he
    obtain rfl := List.mem_singleton.mp he
    have hsubscribed := hc.listener
    rwa [← hc.subscribed] at hsubscribed
  have hmapped : DistinctDescriptors (mapArrays mw c.arrays c.waitSet).1 := by
    rw [hws]
    exact distinctDescriptors_congr (listenerStorage_mapAll hlistening) hd
  simp only [enterWait]
  split
  · exact hd
  · split
    · rename_i ws f hmap
      rwa [hmap] at hmapped
    · rename_i ws hmap
      rwa [hmap] at hmapped

omit [DecidableEq ι] in
theorem leaveWait_distinct (hc : WellFormed name c) (hd : DistinctDescriptors c.waitSet)
    (mw : Middleware) (waitTimeout : Option RmwTime) :
    DistinctDescriptors (c.leaveWait mw waitTimeout).waitSet := by
  obtain ⟨ws, hws, hkept⟩ := Kept.waitArrays hc.staged hd mw (handle c.waitSet) c.arrays
    (timeoutOf waitTimeout)
  have hleft : (c.leaveWait mw waitTimeout).waitSet = ws := by
    simp only [leaveWait, waitOutcome, hws, Option.bind_some, Option.getD_some]
  rw [hleft]
  exact hkept.distinct

theorem exec_distinct (hc : WellFormed name c) (hd : DistinctDescriptors c.waitSet)
    (op : ChannelOp M ι) : DistinctDescriptors (c.exec op).waitSet := by
  cases op with
  | loan i port n => exact hd
  | writeLoan i ptr payload => exact hd
  | publish i port call =>
    simp only [exec]
    split <;> exact hd
  | proceed i =>
    simp only [exec]
    split
    · exact hd
    · rename_i request requests _
      cases request with
      | notify => exact hd.mapListeners keepsIdentity_notifiedOn
      | _ => exact hd
  | waitEnter mw waitTimeout =>
    simp only [exec]
    split
    · exact enterWait_distinct hc hd mw waitTimeout
    · exact hd
  | waitLeave mw =>
    simp only [exec]
    split
    · exact leaveWait_distinct hc hd mw _
    · exact hd
  | take address rosMessage taken =>
    simp only [exec]
    split <;> exact hd

end Descriptors

section Progress

theorem proceed_raises (hc : WellFormed name c) {i : ι} (hi : c.remaining i = [.notify]) :
    (c.exec (.proceed i)).waitSet.Ready .subscriber name := by
  simp only [exec, hi, perform, hc.published i]
  exact ready_notify.mpr (Or.inl ⟨rfl, rfl, hc.listener⟩)

omit [DecidableEq ι] in
/-- A wait that hands over what is ready drains it, and so it must report it. -/
theorem leaveWait_takes (hc : WellFormed name c) (hd : DistinctDescriptors c.waitSet)
    {mw : Middleware} {waitTimeout : Option RmwTime} (hphase : c.phase = .waiting waitTimeout)
    (hok : (c.waitOutcome mw waitTimeout).ret ≠ .error)
    (hover : HandsOverReady mw c.waitSet (timeoutOf waitTimeout))
    (hdrain : ∀ fd, mw.tryWaitAll fd = .ok ()) (hready : c.waitSet.Ready .subscriber name) :
    (c.leaveWait mw waitTimeout).phase = .taking := by
  have hstaged : Staged c.waitSet c.arrays.entries := by
    have hs := hc.staged
    rwa [entries, hphase] at hs
  cases hres : (c.waitSet.wait mw (timeoutOf waitTimeout)).result with
  | error f => exact absurd (by simp only [waitOutcome, waitArrays, hres]) hok
  | ok triggers =>
    obtain ⟨r, hr, hout⟩ := waitArrays_spec (handle c.waitSet) c.arrays hstaged hd hres
    have hleft : (c.leaveWait mw waitTimeout).waitSet =
        (c.waitSet.drainAll (r.map Prod.snd)).unmapAll := by
      simp only [leaveWait, waitOutcome, hout, Option.bind_some, Option.getD_some]
    have hfds : ∀ fd, fd ∈ r.map Prod.snd ↔
        ∃ e ∈ FirstOccurrence.firsts Entry.key c.arrays.entries,
          descriptorOf mw c.waitSet e.waitableType e.serviceName = some fd ∧
            Consumed mw c.waitSet (timeoutOf waitTimeout) e := by
      intro fd
      simp only [List.mem_map, Prod.exists, hr, exists_eq_right]
      constructor
      · intro h
        obtain ⟨_, e, he, -, hdesc, hconsumed⟩ := h
        exact ⟨e, he, hdesc, hconsumed⟩
      · intro h
        obtain ⟨e, he, hdesc, hconsumed⟩ := h
        exact ⟨_, e, he, rfl, hdesc, hconsumed⟩
    have hdrained : ¬ (c.leaveWait mw waitTimeout).waitSet.Ready .subscriber name := by
      rw [hleft, ready_unmapAll, hstaged.ready_drainAll hd hdrain hover hfds]
      intro h
      exact h.2 ⟨_, List.mem_singleton_self _, congrArg (Prod.mk _) hc.subscribed⟩
    rcases (leaveWait_spec hc hphase hok).2.lowers hready with hraised | hcollecting
    · exact absurd hraised hdrained
    · exact hcollecting

/-- What holds in every state of a run without failures. -/
structure Sound (name : String) (c : Channel M ι) : Prop where
  wellFormed : WellFormed name c
  attended : (handshake M ι name).Attended c
  distinct : DistinctDescriptors c.waitSet

theorem Sound.exec (h : Sound name c) {op : ChannelOp M ι} (hok : Succeeds c op) :
    Sound name (c.exec op) := by
  obtain ⟨hwell, hordered⟩ := exec_spec c op h.wellFormed hok
  exact ⟨hwell, hordered.attended h.attended, exec_distinct h.wellFormed h.distinct op⟩

theorem Sound.stateAt (h : Sound name c)
    (hok : ∀ n, Succeeds (stateAt Channel.exec c ops n) (ops n)) (n : ℕ) :
    Sound name (Execution.stateAt Channel.exec c ops n) :=
  stateAt_invariant (fun _ _ hs hop ↦ hs.exec hop) h hok n

def count (c : Channel M ι) (ops : ℕ → ChannelOp M ι) (n : ℕ) : ℕ :=
  (trace exec gone c (upTo ops n)).length

theorem count_succ (n : ℕ) : count c ops (n + 1) =
    count c ops n + (gone (stateAt exec c ops n) (ops n)).toList.length := by
  rw [count, trace_upTo_succ, List.length_append, count]

/-- Publishers that proceed, waits that hand over what is ready and takes make the handshake go
on. -/
theorem Fair.handshake (hfair : Fair c ops) (hsound : Sound name c)
    (hok : ∀ n, Succeeds (stateAt exec c ops n) (ops n)) :
    (handshake M ι name).Fair (stateAt exec c ops) (count c ops) := by
  have hall := hsound.stateAt hok
  refine ⟨fun i ↦ (hfair.proceeds i).mono fun n hop hi ↦ ?_,
    hfair.waits.mono fun n hwait hready ↦ ?_, hfair.takes.mono fun n htake hcollecting hfilled ↦ ?_⟩
  · rw [stateAt_succ, hop]
    exact proceed_raises (hall n).wellFormed hi
  · rcases hwait with htaking | ⟨mw, waitTimeout, hop, hphase, hover, hdrain⟩
    · exact Or.inl htaking
    · right
      have hsucceeds := hok n
      rw [hop] at hsucceeds
      rw [stateAt_succ, hop]
      simp only [Channel.handshake, exec, hphase]
      exact leaveWait_takes (hall n).wellFormed (hall n).distinct hphase
        (hsucceeds waitTimeout hphase) hover hdrain hready
  · obtain ⟨address, rosMessage, taken, hop⟩ := htake
    obtain ⟨payload, rest, hqueue⟩ := List.exists_cons_of_ne_nil hfilled
    have htaking : (stateAt exec c ops n).phase = .taking := hcollecting
    have hgone : gone (stateAt exec c ops n) (ops n) = some payload := by
      rw [hop, gone, queueStep, if_pos htaking, Option.bind_some, Inbox.gone, hqueue,
        List.head?_cons]
    rw [count_succ, hgone, Option.toList_some, List.length_singleton]
    omega

theorem history (hstart : Starting c) (hok : ∀ n, Succeeds (stateAt exec c ops n) (ops n))
    (n : ℕ) : trace exec gone c (upTo ops n) ++ (stateAt exec c ops n).queue.items =
      trace exec sent c (upTo ops n) := by
  induction n with
  | zero => exact hstart.queue
  | succ n ih =>
    rw [trace_upTo_succ, trace_upTo_succ, stateAt_succ, List.append_assoc,
      queue_exec _ _ (hok n), ← List.append_assoc, ih]

theorem sent_mono (c : Channel M ι) (ops : ℕ → ChannelOp M ι) {n m : ℕ} (h : n ≤ m) :
    trace exec sent c (upTo ops n) <+: trace exec sent c (upTo ops m) := by
  induction m, h using Nat.le_induction with
  | base => exact List.prefix_refl _
  | succ m hm ih =>
    rw [trace_upTo_succ]
    exact ih.trans (List.prefix_append _ _)

theorem count_grows (hstart : Starting c) (hdistinct : DistinctDescriptors c.waitSet)
    (hok : ∀ n, Succeeds (stateAt exec c ops n) (ops n)) (hfair : Fair c ops) {n : ℕ}
    (hless : count c ops n < (trace exec sent c (upTo ops n)).length) :
    ∃ m, n ≤ m ∧ count c ops n < count c ops m := by
  have hsound : Sound c.subscriber.serviceName c :=
    ⟨hstart.wellFormed, fun hfilled ↦ absurd hstart.queue hfilled, hdistinct⟩
  have hordered : ∀ n, (handshake M ι c.subscriber.serviceName).Ordered (stateAt exec c ops n)
      (stateAt exec c ops (n + 1)) := by
    intro n
    rw [stateAt_succ]
    exact (exec_spec _ _ (hsound.stateAt hok n).wellFormed (hok n)).2
  refine Handshake.filled_leadsTo_collected hordered hsound.attended
    (hfair.handshake hsound hok) (fun n ↦ ?_) (fun n hfilled hsame ↦ ?_) ?_
  · rw [count_succ]
    omega
  · have hnone : (gone (stateAt exec c ops n) (ops n)).toList = [] := by
      rw [count_succ] at hsame
      exact List.eq_nil_of_length_eq_zero (by omega)
    have hqueue := queue_exec (stateAt exec c ops n) (ops n) (hok n)
    rw [hnone, List.nil_append] at hqueue
    intro hempty
    rw [stateAt_succ] at hempty
    rw [hempty] at hqueue
    exact hfilled (List.append_eq_nil_iff.mp hqueue.symm).1
  · intro hempty
    have hhistory := history hstart hok n
    rw [hempty, List.append_nil] at hhistory
    rw [← hhistory, count] at hless
    omega

/-- Nothing stays in the queue forever. -/
theorem everything_leaves (hstart : Starting c) (hdistinct : DistinctDescriptors c.waitSet)
    (hok : ∀ n, Succeeds (stateAt exec c ops n) (ops n)) (hfair : Fair c ops) (n : ℕ) :
    ∃ m, trace exec sent c (upTo ops n) <+: trace exec gone c (upTo ops m) := by
  have hreach : ∀ k, k ≤ (trace exec sent c (upTo ops n)).length →
      ∃ m, n ≤ m ∧ k ≤ count c ops m := by
    intro k hk
    induction k with
    | zero => exact ⟨n, Nat.le_refl n, Nat.zero_le _⟩
    | succ k ih =>
      obtain ⟨m, hm, hcount⟩ := ih (by omega)
      by_cases hmore : k + 1 ≤ count c ops m
      · exact ⟨m, hm, hmore⟩
      · have hlength := (sent_mono c ops hm).length_le
        obtain ⟨m', hm', hgrows⟩ := count_grows hstart hdistinct hok hfair (n := m) (by omega)
        exact ⟨m', by omega, by omega⟩
  obtain ⟨m, hm, hcount⟩ := hreach _ (Nat.le_refl _)
  have hgone : trace exec gone c (upTo ops m) <+: trace exec sent c (upTo ops m) :=
    ⟨_, history hstart hok m⟩
  exact ⟨m, List.prefix_of_prefix_length_le (sent_mono c ops hm) hgone hcount⟩

/-- In every fair run without failures, of any number of publishers and a client that waits and
takes, the client obtains what was sent in its order, each at most once, and everything that is sent
is obtained or displaced in the end. If no send finds the queue full, the client obtains all of
it. -/
theorem every_message_taken (hstart : Starting c) (hdistinct : DistinctDescriptors c.waitSet)
    (hok : ∀ n, Succeeds (stateAt exec c ops n) (ops n)) (hfair : Fair c ops) :
    (∀ n, trace exec obtained c (upTo ops n) <+ trace exec sent c (upTo ops n)) ∧
      (∀ n, ∃ m, trace exec sent c (upTo ops n) <+: trace exec gone c (upTo ops m)) ∧
      ((∀ n, HasRoom (stateAt exec c ops n) (ops n)) →
        (∀ n, trace exec obtained c (upTo ops n) <+: trace exec sent c (upTo ops n)) ∧
          ∀ n, ∃ m, trace exec sent c (upTo ops n) <+: trace exec obtained c (upTo ops m)) := by
  have hgone : ∀ n, trace exec gone c (upTo ops n) <+: trace exec sent c (upTo ops n) :=
    fun n ↦ ⟨_, history hstart hok n⟩
  have hleaves := everything_leaves hstart hdistinct hok hfair
  refine ⟨fun n ↦ ?_, hleaves, fun hroom ↦ ?_⟩
  · have hsome := trace_sublist queue_refines.inv_exec
      (fun c op payload _ hsucceeds hobtained ↦ gone_of_obtained hsucceeds hobtained) trivial
      (admissible_upTo hok n)
    exact hsome.trans (hgone n).sublist
  · have hsame : ∀ n, trace exec gone c (upTo ops n) = trace exec obtained c (upTo ops n) := by
      intro n
      have hboth := (admissible_upTo hok n).and (admissible_upTo hroom n)
      exact trace_congr (fun _ _ (_ : True) _ ↦ trivial)
        (fun c op _ h ↦ gone_eq_obtained (c := c) h.1 h.2) trivial hboth
    simp only [hsame] at hgone hleaves
    exact ⟨hgone, hleaves⟩

end Progress

theorem hey_fits : ([104, 101, 121] : Bytes).length + 1 < 2 ^ 32 := by decide

def heyMessage : RosMessage Text := ⟨List.replicate 32 0, ⟨[104, 101, 121], hey_fits⟩⟩

def heyPayload : Bytes := [4, 0, 0, 0, 104, 101, 121, 0, 0, 0, 0, 0]

/-- The client blocks, one of the publishers sends and notifies, and the client is woken and takes
until nothing is left. -/
def heyRound : List (ChannelOp Text Bool) :=
  [.publish true grantingPort (.publishCopy heyPayload 12), .proceed true, .proceed true,
    .proceed false, .waitLeave (.offering [] [.notification 7]), .take 9 heyMessage false,
    .take 9 heyMessage false]

def heyOps : ℕ → ChannelOp Text Bool := cyclic (.waitEnter (.offering [] []) none) heyRound

theorem heyRound_returns :
    run exec chatterChannel (.waitEnter (.offering [] []) none :: heyRound) = chatterChannel := by
  show Channel.mk _ _ _ _ _ _ = Channel.mk _ _ _ _ _ _
  rw [Channel.mk.injEq]
  refine ⟨funext fun i ↦ ?_, funext fun i ↦ ?_, rfl, rfl, rfl, rfl⟩
  · cases i <;> rfl
  · cases i <;> rfl

theorem heyOps_state (n : ℕ) : stateAt exec chatterChannel heyOps n =
    run exec chatterChannel
      ((.waitEnter (.offering [] []) none :: heyRound).take (n % 8)) :=
  stateAt_cyclic heyRound_returns n

theorem chatterChannel_starting : Starting chatterChannel :=
  ⟨fun _ ↦ rfl, by decide, rfl, fun _ ↦ Or.inl rfl, rfl, rfl⟩

theorem heyOps_succeeds (n : ℕ) :
    Succeeds (stateAt exec chatterChannel heyOps n) (heyOps n) := by
  have hop : heyOps n = (.waitEnter (.offering [] []) none :: heyRound).getD (n % 8)
    (.waitEnter (.offering [] []) none) := rfl
  rw [heyOps_state, hop]
  have hlt : n % 8 < 8 := Nat.mod_lt n (by omega)
  generalize n % 8 = k at hlt
  interval_cases k
  · trivial
  · rfl
  · trivial
  · trivial
  · trivial
  · intro waitTimeout hphase
    obtain rfl : none = waitTimeout := ClientPhase.waiting.inj hphase
    decide
  · rfl
  · rfl

theorem heyOps_frequently {p : ℕ → Prop} (k : ℕ) (hk : k < 8)
    (h : ∀ n, n % 8 = k → p n) : ∃ᶠ n in atTop, p n :=
  (Nat.frequently_mod_eq hk).mono h

theorem heyOps_fair : Fair chatterChannel heyOps := by
  have hop : ∀ n, heyOps n = (.waitEnter (.offering [] []) none :: heyRound).getD (n % 8)
    (.waitEnter (.offering [] []) none) := fun _ ↦ rfl
  refine ⟨fun i ↦ ?_, heyOps_frequently 5 (by omega) fun n hn ↦ Or.inr ?_,
    heyOps_frequently 6 (by omega) fun n hn ↦ ?_⟩
  · cases i
    · exact heyOps_frequently 4 (by omega) fun n hn ↦ by rw [hop, hn]; rfl
    · exact heyOps_frequently 2 (by omega) fun n hn ↦ by rw [hop, hn]; rfl
  · rw [heyOps_state, hop, hn]
    refine ⟨.offering [] [.notification 7], none, rfl, rfl, fun m hm d hd ↦ ?_, fun _ ↦ rfl⟩
    obtain rfl := List.mem_singleton.mp hm
    obtain rfl := Option.some_inj.mp hd
    exact iff_of_true rfl List.mem_cons_self
  · rw [hop, hn]
    exact ⟨9, heyMessage, false, rfl⟩

theorem chatterChannel_distinct : DistinctDescriptors chatterChannel.waitSet := by
  have hone : ∀ ty k d, chatterChannel.waitSet.getStoredListener ty k = some d →
      ty = .subscriber ∧ k = 0 := by
    intro ty k d hd
    cases ty with
    | guardCondition => cases hd
    | subscriber =>
      cases k with
      | zero => exact ⟨rfl, rfl⟩
      | succ k => cases hd
  intro ty k ty' k' d d' hd hd' _
  obtain ⟨rfl, rfl⟩ := hone ty k d hd
  obtain ⟨rfl, rfl⟩ := hone ty' k' d' hd'
  exact ⟨rfl, rfl⟩

theorem heyOps_hasRoom (n : ℕ) : HasRoom (stateAt exec chatterChannel heyOps n) (heyOps n) := by
  have hop : heyOps n = (.waitEnter (.offering [] []) none :: heyRound).getD (n % 8)
    (.waitEnter (.offering [] []) none) := rfl
  rw [heyOps_state, hop]
  have hlt : n % 8 < 8 := Nat.mod_lt n (by omega)
  generalize n % 8 = k at hlt
  interval_cases k
  · trivial
  · trivial
  · exact fun _ ↦ by decide
  · exact fun _ ↦ by decide
  · exact fun _ ↦ by decide
  · trivial
  · trivial
  · trivial

theorem every_message_taken_hey :
    (∀ n, trace exec obtained chatterChannel (upTo heyOps n) <+:
      trace exec sent chatterChannel (upTo heyOps n)) ∧
    ∀ n, ∃ m, trace exec sent chatterChannel (upTo heyOps n) <+:
      trace exec obtained chatterChannel (upTo heyOps m) :=
  (every_message_taken chatterChannel_starting chatterChannel_distinct heyOps_succeeds
    heyOps_fair).2.2 heyOps_hasRoom

example : trace exec obtained chatterChannel (upTo heyOps 16) = [heyPayload, heyPayload] := by
  decide

def say (n : ℕ) : List (ChannelOp Text Bool) :=
  [.publish true grantingPort (.publishCopy [2, 0, 0, 0, UInt8.ofNat n, 0] 6), .proceed true,
    .proceed true]

example : trace exec obtained chatterChannel ((List.range 11).flatMap say ++
    [.waitEnter (.offering [] []) none, .waitLeave (.offering [] [.notification 7]),
      .take 9 heyMessage false]) = [[2, 0, 0, 0, 1, 0]] := by
  decide

end RmwIceoryx2.System.Channel
