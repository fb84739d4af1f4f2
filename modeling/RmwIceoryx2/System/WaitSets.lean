import RmwIceoryx2.Library.SignalBoard
import RmwIceoryx2.System.Readiness

namespace RmwIceoryx2.Runtime.WaitSet

open Common Library.FirstOccurrence

variable {mw : Middleware} {ws ws' : WaitSet} {ty ty' : WaitableEntity} {name name' : String}

theorem findListener_map {i : RmwIndex} (h : ws.map mw ty i name = .ok ws') :
    (ws'.findListener ty' name').isSome ↔
      (ws.findListener ty' name').isSome ∨ (ty, name) = (ty', name') := by
  obtain ⟨hfound, hgrow, -⟩ := map_found h
  constructor
  · intro hsome
    obtain ⟨ws₁, k, hget, rfl⟩ := map_cases h
    rw [WaitSet.findListener, listenerStorage_mapStoredListener, ← WaitSet.findListener] at hsome
    rcases getStorageIndex_cases hget with ⟨-, rfl⟩ | ⟨-, -, fd, -, rfl, -⟩
    · exact Or.inl hsome
    · obtain ⟨k', hk'⟩ := Option.isSome_iff_exists.mp hsome
      obtain ⟨d, hd, hname⟩ := findListener_some hk'
      rcases getStoredListener_append hd with hold | ⟨rfl, -, rfl⟩
      · left
        rw [Option.isSome_iff_ne_none, ne_eq, findListener_none]
        exact fun hno ↦ hno d (mem_of_getStoredListener hold) hname
      · exact Or.inr (Prod.ext rfl hname)
  · intro hor
    rcases hor with hsome | heq
    · obtain ⟨k, hk⟩ := Option.isSome_iff_exists.mp hsome
      rw [hgrow.findListener hk]
      rfl
    · cases heq
      exact hfound

theorem findListener_mapAll {es : List Entry} (h : (mapAll mw ws es).2 = none) :
    ((mapAll mw ws es).1.findListener ty name).isSome ↔
      (ws.findListener ty name).isSome ∨ ∃ e ∈ es, e.key = (ty, name) := by
  induction es generalizing ws with
  | nil => simp [mapAll]
  | cons e es ih =>
    cases hmap : ws.map mw e.waitableType e.rmwIndex e.serviceName with
    | error f =>
      simp only [mapAll, hmap] at h
      cases h
    | ok ws₁ =>
      simp only [mapAll, hmap] at h ⊢
      rw [ih h, findListener_map hmap, or_assoc]
      simp only [List.mem_cons, exists_eq_or_imp, Entry.key]

end RmwIceoryx2.Runtime.WaitSet

namespace RmwIceoryx2.System

open RmwIceoryx2.Common RmwIceoryx2.Runtime RmwIceoryx2.Runtime.WaitSet RmwIceoryx2.Rmw
open RmwIceoryx2.Library RmwIceoryx2.Library.Execution RmwIceoryx2.Library.FirstOccurrence

abbrev Service := WaitableEntity × String

def listed (a : Arrays) : Set Service := {k | ∃ e ∈ a.entries, e.key = k}

variable {P : Type}

/-- A wait set as a board of signals, one for each service. -/
def World.board (w : World P) : SignalBoard Service where
  known := {k | (w.waitSet.findListener k.1 k.2).isSome}
  pending := {k | w.waitSet.Ready k.1 k.2}
  waiting := w.waiting.map fun c ↦ listed c.arrays
  reported := w.returned.map fun out ↦ {k | out.ret = .ok ∧ k ∈ listed out.arrays}
  pending_known := by
    intro k h
    obtain ⟨i, d, hi, -⟩ := h
    simp only [Set.mem_ofPred_eq, hi, Option.isSome_some]

def Op.signal : Op P → Option (SignalBoard.Step Service)
  | .createSubscription _ => none
  | .publish topic _ => some (.notified (.subscriber, Names.topic topic))
  | .trigger g => some (.notified (.guardCondition, serviceName g))
  | .take _ => none
  | .waitEnter _ a _ => some (if containsNull a.guardConditions || containsNull a.subscriptions
      then .refused else .entered (listed a))
  | .waitLeave _ => some .left

variable {w : World P} {mw : Middleware}

theorem board_notify (ty : WaitableEntity) (name : String)
    (queues : List (Subscription × List P)) :
    World.board { w with queues := queues, waitSet := w.waitSet.notify ty name } =
      w.board.step (.notified (ty, name)) := by
  refine SignalBoard.ext ?_ ?_ rfl rfl
  · ext k
    simp only [World.board, SignalBoard.step, Set.mem_ofPred_eq, WaitSet.notify,
      keepsIdentity_notifiedOn.findListener]
  · ext k
    simp only [World.board, SignalBoard.step, Set.mem_ofPred_eq, ready_notify, Set.mem_union,
      Set.mem_inter_iff, Set.mem_singleton_iff, Prod.ext_iff, and_assoc]
    exact or_comm

theorem board_enterWait {a : Arrays}
    (hlisten : ∀ e ∈ a.entries, CanListen mw w.waitSet e.waitableType e.serviceName)
    (waitTimeout : Option RmwTime) :
    (enterWait w mw a waitTimeout).board =
      w.board.step (if containsNull a.guardConditions || containsNull a.subscriptions
        then .refused else .entered (listed a)) := by
  cases hc : checkWaitArguments (some (handle w.waitSet)) a with
  | error f =>
    have hnull : (containsNull a.guardConditions || containsNull a.subscriptions) = true ∧
        f.error = .invalidArgument := by
      simp only [checkWaitArguments, ensureNotNull, ensureImplementation, handle] at hc
      cases hg : containsNull a.guardConditions <;> cases hs : containsNull a.subscriptions <;>
        simp_all <;> subst hc <;> rfl
    simp only [enterWait, hc, hnull.1, ↓reduceIte]
    refine SignalBoard.ext rfl rfl rfl ?_
    simp only [World.board, SignalBoard.step, Option.map_some, hnull.2, reduceCtorEq, false_and,
      Set.ofPred_false]
  | ok h =>
    obtain ⟨-, -, hvalid⟩ := checkWaitArguments_ok.mp hc
    obtain ⟨hws, hiff⟩ := mapArrays_eq mw hvalid w.waitSet
    have hnone : (mapAll mw w.waitSet a.entries).2 = none := mapAll_isOk.mpr hlisten
    have hmapped : mapArrays mw a w.waitSet =
        ((mapAll mw w.waitSet a.entries).1, .ok ()) := Prod.ext hws (hiff.mpr hnone)
    simp only [enterWait, hc, hmapped, hvalid.1, hvalid.2, Bool.or_self, Bool.false_eq_true,
      ↓reduceIte]
    refine SignalBoard.ext ?_ ?_ rfl rfl
    · ext k
      exact findListener_mapAll hnone
    · ext k
      exact ready_mapAll

theorem reported_leaveWait (hw : WellFormed w) (hok : Ideal w (.waitLeave mw)) {c : Waiting}
    (hc : w.waiting = some c) {out : WaitOutcome Subscription GuardCondition}
    (hout : (leaveWait w mw).returned = some out) :
    {k | out.ret = .ok ∧ k ∈ listed out.arrays} = listed c.arrays ∩ w.board.pending := by
  have hs := hw.staged c hc
  have hcall : out = waitArrays mw (handle w.waitSet) c.arrays w.waitSet
      (timeoutOf c.waitTimeout) := by
    simp only [leaveWait, hc, Option.some_inj] at hout
    exact hout.symm
  obtain ⟨r, out', hr, hleave, hspec⟩ := leaveWait_spec hw hok hc
  rw [hleave, Option.some_inj] at hout
  rw [hout] at hspec
  obtain ⟨-, -, hdrain, -, hready⟩ := hok
  have hready := hready c hc
  ext k
  simp only [Set.mem_ofPred_eq, Set.mem_inter_iff, World.board]
  constructor
  · intro h
    obtain ⟨hret, e, he, rfl⟩ := h
    rw [hcall] at hret he
    obtain ⟨hfirst, hconsumed⟩ := (mem_entries_waitArrays hs hw.distinct hret).mp he
    have hmem := firsts_subset _ hfirst
    exact ⟨⟨e, hmem, rfl⟩, (hs.consumed_iff_ready hdrain hready hmem).mp hconsumed⟩
  · intro h
    obtain ⟨⟨e, he, hkey⟩, hpending⟩ := h
    obtain ⟨e', he', hkey'⟩ := exists_firsts Entry.key he
    have hsame : e'.key = k := hkey'.trans hkey
    have hmem := firsts_subset _ he'
    rw [← hsame] at hpending
    have hconsumed : Consumed mw w.waitSet (timeoutOf c.waitTimeout) e' :=
      (hs.consumed_iff_ready hdrain hready hmem).mpr hpending
    obtain ⟨fd, hdesc, -⟩ := id hconsumed
    have htriggered : (⟨e'.waitableType, e'.rmwIndex⟩ : TriggeredWaitable) ∈ r.map Prod.fst :=
      List.mem_map.mpr ⟨(_, fd), (hr _ _).mpr ⟨e', he', rfl, hdesc, hconsumed⟩, rfl⟩
    obtain ⟨hret, -⟩ := hspec (List.ne_nil_of_mem he)
    have hok : out.ret = .ok := by
      rw [hret, if_neg]
      simpa only [List.isEmpty_iff] using List.ne_nil_of_mem htriggered
    refine ⟨hok, e', ?_, hsame⟩
    rw [hcall] at hok ⊢
    exact (mem_entries_waitArrays hs hw.distinct hok).mpr ⟨he', hconsumed⟩

theorem board_leaveWait (hw : WellFormed w) (hok : Ideal w (.waitLeave mw)) :
    (leaveWait w mw).board = w.board.step .left := by
  cases hc : w.waiting with
  | none => simp only [leaveWait, hc, SignalBoard.step, World.board, Option.map_none]
  | some c =>
    have hready : ∀ k : Service, (leaveWait w mw).waitSet.Ready k.1 k.2 ↔
        w.waitSet.Ready k.1 k.2 ∧ k ∉ listed c.arrays := by
      intro k
      have hstep : (exec w (.waitLeave mw)).waitSet.Ready k.1 k.2 ↔ _ :=
        exec_ready w (.waitLeave mw) hw hok
      simp only [exec, NotifiedOn, Op.notified, reduceCtorEq, false_and, false_or, ReturnedOn,
        Op.waitLeave.injEq, hc, Option.some_inj, exists_eq_left', exists_and_left] at hstep
      exact hstep
    obtain ⟨r, out, -, hleave, -⟩ := leaveWait_spec hw hok hc
    have hwaiting : w.board.waiting = some (listed c.arrays) := by
      simp only [World.board, hc, Option.map_some]
    simp only [SignalBoard.step, hwaiting]
    refine SignalBoard.ext ?_ ?_ ?_ ?_
    · ext k
      have hsame : (leaveWait w mw).waitSet.findListener k.1 k.2 =
          w.waitSet.findListener k.1 k.2 := by
        rw [hleave]
        exact (keepsIdentity_drainedBy _).findListener
      simp only [World.board, Set.mem_ofPred_eq, hsame]
    · ext k
      exact hready k
    · simp only [World.board, hleave, Option.map_none]
    · have hret : (leaveWait w mw).returned = some out := by rw [hleave]
      simp only [World.board, hret, Option.map_some, reported_leaveWait hw hok hc hret]

/-- Every run of a wait set is a run of the board. -/
theorem board_refines : Refines (exec (P := P)) SignalBoard.step Ideal WellFormed World.board
    fun _ ↦ Op.signal := by
  refine ⟨exec_wellFormed, fun w op hw hok ↦ ?_⟩
  cases op with
  | createSubscription s => rfl
  | take s => rfl
  | publish topic payload => exact board_notify _ _ _
  | trigger g => exact board_notify _ _ w.queues
  | waitEnter mw a waitTimeout => exact board_enterWait hok.2.2 waitTimeout
  | waitLeave mw => exact board_leaveWait hw hok

structure Member where
  waitSet : WaitSet
  waiting : Option Waiting
  returned : Option (WaitOutcome Subscription GuardCondition)

/-- Any number of wait sets beside each other. Each has listeners of its own, the queues belong to
the subscriptions. -/
structure WaitSets (P : Type) where
  queues : List (Subscription × List P)
  members : ℕ → Member

inductive WaitSetsOp (P : Type)
  | createSubscription (s : Subscription)
  | publish (topic : String) (payload : P)
  | trigger (g : GuardCondition)
  | take (s : Subscription)
  | waitEnter (i : ℕ) (mw : Middleware) (arrays : Arrays) (waitTimeout : Option RmwTime)
  | waitLeave (i : ℕ) (mw : Middleware)

namespace WaitSets

def initial (P : Type) : WaitSets P := ⟨[], fun _ ↦ ⟨.empty, none, none⟩⟩

def world (f : WaitSets P) (i : ℕ) : World P where
  waitSet := (f.members i).waitSet
  queues := f.queues
  waiting := (f.members i).waiting
  returned := (f.members i).returned

def notifyAll (f : WaitSets P) (ty : WaitableEntity) (name : String) : ℕ → Member :=
  fun i ↦ { f.members i with waitSet := (f.members i).waitSet.notify ty name }

def setMember (f : WaitSets P) (i : ℕ) (w : World P) : WaitSets P where
  queues := w.queues
  members := Function.update f.members i ⟨w.waitSet, w.waiting, w.returned⟩

def exec (f : WaitSets P) : WaitSetsOp P → WaitSets P
  | .createSubscription s => { f with queues := f.queues ++ [(s, [])] }
  | .publish topic payload =>
    { queues := deliver f.queues (Names.topic topic) payload
      members := f.notifyAll .subscriber (Names.topic topic) }
  | .trigger g => { f with members := f.notifyAll .guardCondition (serviceName g) }
  | .take s => { f with queues := takeOne f.queues s }
  | .waitEnter i mw a waitTimeout => f.setMember i (enterWait (f.world i) mw a waitTimeout)
  | .waitLeave i mw => f.setMember i (leaveWait (f.world i) mw)

end WaitSets

def WaitSetsOp.seenBy (i : ℕ) : WaitSetsOp P → Option (Op P)
  | .createSubscription s => some (.createSubscription s)
  | .publish topic payload => some (.publish topic payload)
  | .trigger g => some (.trigger g)
  | .take s => some (.take s)
  | .waitEnter j mw a waitTimeout => if j = i then some (.waitEnter mw a waitTimeout) else none
  | .waitLeave j mw => if j = i then some (.waitLeave mw) else none

namespace WaitSets

def Ideal (f : WaitSets P) (op : WaitSetsOp P) : Prop :=
  ∀ i op', op.seenBy i = some op' → System.Ideal (f.world i) op'

theorem queues_enterWait (w : World P) (mw : Middleware) (a : Arrays)
    (waitTimeout : Option RmwTime) : (enterWait w mw a waitTimeout).queues = w.queues := by
  unfold enterWait
  split
  · rfl
  · split <;> rfl

theorem queues_leaveWait (w : World P) (mw : Middleware) :
    (leaveWait w mw).queues = w.queues := by
  unfold leaveWait
  split <;> rfl

theorem world_setMember {f : WaitSets P} {i j : ℕ} {w : World P} (hw : w.queues = f.queues) :
    (f.setMember j w).world i = if j = i then w else f.world i := by
  by_cases h : j = i
  · subst h
    simp only [setMember, world, Function.update_self, ↓reduceIte]
  · simp only [setMember, world, Function.update_of_ne (Ne.symm h), h, ↓reduceIte, hw]

/-- Seen from one wait set, what the others do makes no difference. -/
theorem world_refines (i : ℕ) : Refines (exec (P := P)) System.exec Ideal (fun _ ↦ True)
    (world · i) fun _ ↦ WaitSetsOp.seenBy i := by
  refine ⟨fun _ _ _ _ ↦ trivial, fun f op _ _ ↦ ?_⟩
  cases op with
  | createSubscription s => rfl
  | publish topic payload => rfl
  | trigger g => rfl
  | take s => rfl
  | waitEnter j mw a waitTimeout =>
    simp only [exec, WaitSetsOp.seenBy]
    rw [world_setMember (queues_enterWait _ _ _ _)]
    split
    · rename_i h
      subst h
      rfl
    · rfl
  | waitLeave j mw =>
    simp only [exec, WaitSetsOp.seenBy]
    rw [world_setMember (queues_leaveWait _ _)]
    split
    · rename_i h
      subst h
      rfl
    · rfl

def signalAt (i : ℕ) (op : WaitSetsOp P) : Option (SignalBoard.Step Service) :=
  (op.seenBy i).bind Op.signal

theorem board_refines (i : ℕ) : Refines (exec (P := P)) SignalBoard.step Ideal
    (fun f ↦ True ∧ WellFormed (f.world i)) (World.board ∘ (world · i)) fun _ ↦ signalAt i :=
  (world_refines i).trans System.board_refines fun _ _ _ _ hok hseen ↦ hok i _ hseen

theorem board_initial (i : ℕ) : ((initial P).world i).board = .initial Service := by
  refine SignalBoard.ext ?_ ?_ rfl rfl
  · ext k
    obtain ⟨ty, name⟩ := k
    cases ty <;> simp [World.board, SignalBoard.initial, initial, world, WaitSet.findListener,
      WaitSet.listenerStorage, WaitSet.empty]
  · ext k
    obtain ⟨ty, name⟩ := k
    cases ty <;> simp [World.board, SignalBoard.initial, initial, world, WaitSet.Ready,
      WaitSet.getStoredListener, WaitSet.listenerStorage, WaitSet.empty]

theorem wellFormed_world_initial (i : ℕ) : WellFormed ((initial P).world i) :=
  (wellFormed_initial : WellFormed (World.initial P))

/-- In every run of any number of wait sets, each of them is the board of signals of the
notifications and of its own waits. -/
theorem board_of_run {ops : List (WaitSetsOp P)} (h : Admissible exec Ideal (initial P) ops)
    (i : ℕ) : ((run exec (initial P) ops).world i).board =
      run SignalBoard.step (.initial Service) (ops.filterMap (signalAt i)) := by
  have hrun := (board_refines i).view_run ⟨trivial, wellFormed_world_initial i⟩ h
  rw [trace_eq_filterMap, Function.comp_apply, Function.comp_apply, board_initial] at hrun
  exact hrun

/-- A wait of the wait set returns ok and leaves an entry of the service in its arrays. -/
def ReportsOn (i : ℕ) (k : Service) (f : WaitSets P) (op : WaitSetsOp P) : Prop :=
  ∃ mw out, op = .waitLeave i mw ∧ ((f.members i).waiting).isSome ∧
    ((exec f op).members i).returned = some out ∧ out.ret = .ok ∧ k ∈ listed out.arrays

def Notifies (k : Service) : WaitSetsOp P → Prop
  | .publish topic _ => (.subscriber, Names.topic topic) = k
  | .trigger g => (.guardCondition, serviceName g) = k
  | _ => False

theorem signalAt_cases {i : ℕ} {op : WaitSetsOp P} {s : SignalBoard.Step Service}
    (h : signalAt i op = some s) :
    (∃ k, s = .notified k ∧ Notifies k op) ∨
    (∃ mw a waitTimeout, op = .waitEnter i mw a waitTimeout ∧
      s = if containsNull a.guardConditions || containsNull a.subscriptions then .refused
        else .entered (listed a)) ∨
    ∃ mw, op = .waitLeave i mw ∧ s = .left := by
  cases op with
  | createSubscription s => cases h
  | publish topic payload =>
    cases h
    exact Or.inl ⟨_, rfl, rfl⟩
  | trigger g =>
    cases h
    exact Or.inl ⟨_, rfl, rfl⟩
  | take s => cases h
  | waitEnter j mw a waitTimeout =>
    simp only [signalAt, WaitSetsOp.seenBy] at h
    split at h
    · rename_i hj
      subst hj
      exact Or.inr (Or.inl ⟨mw, a, waitTimeout, rfl, (Option.some_inj.mp h).symm⟩)
    · cases h
  | waitLeave j mw =>
    simp only [signalAt, WaitSetsOp.seenBy] at h
    split at h
    · rename_i hj
      subst hj
      exact Or.inr (Or.inr ⟨mw, rfl, (Option.some_inj.mp h).symm⟩)
    · cases h

theorem signalAt_waitLeave (i : ℕ) (mw : Middleware) :
    signalAt i (.waitLeave i mw : WaitSetsOp P) = some .left := by
  rw [signalAt, WaitSetsOp.seenBy, if_pos rfl]
  rfl

theorem notifies_iff {k : Service} (i : ℕ) (op : WaitSetsOp P) :
    Notifies k op ↔ signalAt i op = some (.notified k) := by
  constructor
  · intro h
    cases op with
    | publish topic payload =>
      rw [← h]
      rfl
    | trigger g =>
      rw [← h]
      rfl
    | _ => exact h.elim
  · intro h
    obtain ⟨k', hk, hn⟩ | ⟨mw, a, waitTimeout, -, hs⟩ | ⟨mw, -, hs⟩ := signalAt_cases h
    · cases hk
      exact hn
    · split at hs <;> cases hs
    · cases hs

theorem reportsOn_iff {i : ℕ} {k : Service} (f : WaitSets P) (op : WaitSetsOp P)
    (hf : WellFormed (f.world i)) (hok : Ideal f op) :
    ReportsOn i k f op ↔ ∃ s, signalAt i op = some s ∧
      SignalBoard.Reports k (f.world i).board s := by
  constructor
  · intro h
    obtain ⟨mw, out, rfl, hsome, hout, hret, hk⟩ := h
    obtain ⟨c, hc⟩ := Option.isSome_iff_exists.mp hsome
    have hseen : (WaitSetsOp.waitLeave i mw).seenBy i = some (.waitLeave mw : Op P) := by
      simp [WaitSetsOp.seenBy]
    simp only [exec, setMember, Function.update_self] at hout
    have hreported := reported_leaveWait hf (hok i _ hseen) hc hout
    have hboth : k ∈ listed c.arrays ∩ (f.world i).board.pending := hreported ▸ ⟨hret, hk⟩
    refine ⟨.left, signalAt_waitLeave i mw, rfl, hboth.2, listed c.arrays, ?_, hboth.1⟩
    simp only [World.board, world, hc, Option.map_some]
  · intro h
    obtain ⟨s, hs, rfl, hpending, ks, hks, hk⟩ := h
    obtain ⟨k', hk', -⟩ | ⟨mw, a, waitTimeout, -, hs'⟩ | ⟨mw, rfl, -⟩ := signalAt_cases hs
    · cases hk'
    · split at hs' <;> cases hs'
    · have hseen : (WaitSetsOp.waitLeave i mw).seenBy i = some (.waitLeave mw : Op P) := by
        simp [WaitSetsOp.seenBy]
      obtain ⟨c, hc, rfl⟩ := Option.map_eq_some_iff.mp hks
      obtain ⟨r, out, -, hleave, -⟩ := leaveWait_spec hf (hok i _ hseen) hc
      have hout : (leaveWait (f.world i) mw).returned = some out := by rw [hleave]
      have hreported := reported_leaveWait hf (hok i _ hseen) hc hout
      have hboth : out.ret = .ok ∧ k ∈ listed out.arrays := by
        have hin : k ∈ listed c.arrays ∩ (f.world i).board.pending := ⟨hk, hpending⟩
        rw [← hreported] at hin
        exact hin
      refine ⟨mw, out, rfl, Option.isSome_iff_exists.mpr ⟨c, hc⟩, ?_, hboth⟩
      simp only [exec, setMember, Function.update_self, hout]

open scoped Classical in
/-- From any state that a run reaches, a wait set's waits do not report a service more often than it
is notified, what was there before counted once, whatever the other wait sets do. -/
theorem wakeups_le_notifications {before ops : List (WaitSetsOp P)}
    (h : Admissible exec Ideal (initial P) (before ++ ops)) (i : ℕ) (k : Service) :
    tally exec (ReportsOn i k) (run exec (initial P) before) ops +
      (if ((run exec (initial P) (before ++ ops)).members i).waitSet.Ready k.1 k.2 then 1 else 0) ≤
    ops.countP (fun op ↦ decide (Notifies k op)) +
      (if ((run exec (initial P) before).members i).waitSet.Ready k.1 k.2 then 1 else 0) := by
  obtain ⟨hbefore, hops⟩ := (admissible_append _ _ _ _).mp h
  have hrefines := board_refines (P := P) i
  have hwell := invariant hrefines.inv_exec ⟨trivial, wellFormed_world_initial i⟩ hbefore
  have hreports := hrefines.tally_eq (ReportsOn i k) (SignalBoard.Reports k)
    (fun f op hf hok ↦ reportsOn_iff f op hf.2 hok) hwell hops
  have hnotifies := hrefines.tally_eq (fun _ ↦ Notifies k) (SignalBoard.Notifies k)
    (fun f op _ _ ↦ by
      rw [notifies_iff i op]
      exact ⟨fun he ↦ ⟨_, he, rfl⟩, fun ⟨_, he, hn⟩ ↦ he.trans (congrArg some hn)⟩) hwell hops
  have hend := hrefines.view_run hwell hops
  have hbound := SignalBoard.reports_le_notifications k
    ((run exec (initial P) before).world i).board
    (trace exec (fun _ ↦ signalAt i) (run exec (initial P) before) ops)
  simp only [Function.comp_apply] at hreports hnotifies hend
  rw [← hreports, ← hnotifies, ← hend, tally_eq_countP, ← run_append] at hbound
  exact hbound

section TwoWaitSets

def bothTold : List (WaitSetsOp String) :=
  [.waitEnter 0 firstWait chatterArrays (some ⟨1, 0⟩),
    .waitEnter 1 firstWait chatterArrays (some ⟨1, 0⟩), .publish "/chatter" "hello",
    .waitLeave 0 laterWait, .waitLeave 1 laterWait]

theorem ideal_waitEnter {f : WaitSets P} {i : ℕ} {mw : Middleware} {a : Arrays}
    {waitTimeout : Option RmwTime}
    (h : System.Ideal (f.world i) (.waitEnter mw a waitTimeout)) :
    Ideal f (.waitEnter i mw a waitTimeout) := by
  intro j op' hseen
  simp only [WaitSetsOp.seenBy] at hseen
  split at hseen
  · rename_i hj
    cases hseen
    exact hj ▸ h
  · cases hseen

theorem ideal_waitLeave {f : WaitSets P} {i : ℕ} {mw : Middleware}
    (h : System.Ideal (f.world i) (.waitLeave mw)) : Ideal f (.waitLeave i mw) := by
  intro j op' hseen
  simp only [WaitSetsOp.seenBy] at hseen
  split at hseen
  · rename_i hj
    cases hseen
    exact hj ▸ h
  · cases hseen

theorem ideal_publish (f : WaitSets P) (topic : String) (payload : P) :
    Ideal f (.publish topic payload) := by
  intro i op' hseen
  cases hseen
  trivial

theorem bothTold_admissible : Admissible exec Ideal (initial String) bothTold := by
  refine ⟨ideal_waitEnter ⟨rfl, fresh_offering_one _ _ _, canListen_firstWait _⟩,
    ideal_waitEnter ⟨rfl, fresh_offering_one _ _ _, canListen_firstWait _⟩, ideal_publish _ _ _,
    ideal_waitLeave ⟨fun _ ↦ rfl, fun _ ↦ rfl, fun _ ↦ rfl, fun _ ↦ rfl, fun c hc ↦ ?_⟩,
    ideal_waitLeave ⟨fun _ ↦ rfl, fun _ ↦ rfl, fun _ ↦ rfl, fun _ ↦ rfl, fun c hc ↦ ?_⟩, trivial⟩
  · cases hc
    exact handsOverReady_of_one ⟨.subscriber, 0, 0⟩ ⟨Names.topic "/chatter", ⟨7, true⟩⟩
      (by decide) (by decide) (by decide)
  · cases hc
    exact handsOverReady_of_one ⟨.subscriber, 0, 0⟩ ⟨Names.topic "/chatter", ⟨7, true⟩⟩
      (by decide) (by decide) (by decide)

theorem board_of_run_bothTold :
    ((run exec (initial String) bothTold).world 0).board =
      run SignalBoard.step (.initial Service) (bothTold.filterMap (signalAt 0)) :=
  board_of_run bothTold_admissible 0

open scoped Classical in
theorem wakeups_le_notifications_bothTold :
    tally exec (ReportsOn 1 (.subscriber, Names.topic "/chatter"))
        (run exec (initial String) (bothTold.take 2)) (bothTold.drop 2) +
      (if ((run exec (initial String) (bothTold.take 2 ++ bothTold.drop 2)).members 1).waitSet.Ready
        .subscriber (Names.topic "/chatter") then 1 else 0) ≤
    (bothTold.drop 2).countP
        (fun op ↦ decide (Notifies (.subscriber, Names.topic "/chatter") op)) +
      (if ((run exec (initial String) (bothTold.take 2)).members 1).waitSet.Ready
        .subscriber (Names.topic "/chatter") then 1 else 0) :=
  wakeups_le_notifications (show Admissible exec Ideal (initial String)
    (bothTold.take 2 ++ bothTold.drop 2) from bothTold_admissible) 1 _

end TwoWaitSets

end WaitSets

end RmwIceoryx2.System
