import RmwIceoryx2.Rmw.Context
import RmwIceoryx2.Rmw.WaitSet

namespace RmwIceoryx2.Rmw

open RmwIceoryx2.Common RmwIceoryx2.Runtime RmwIceoryx2.Runtime.WaitSet

variable {S G : Type} {impls : Impls} {context : ImplPtr} {mw : Middleware}

/-- Mapping with a look at the reference to the context, which is used exactly where a listener has
to be created. -/
def mapThrough (impls : Impls) (context : ImplPtr) (mw : Middleware) (ws : WaitSet)
    (ty : WaitableEntity) (rmwIndex : RmwIndex) (serviceName : String) :
    Except Stale (Except (Failure WaitSetError) WaitSet) :=
  match ws.findListener ty serviceName with
  | some _ => .ok (ws.map mw ty rmwIndex serviceName)
  | none =>
    match deref impls context with
    | .error stale => .error stale
    | .ok _ => .ok (ws.map mw ty rmwIndex serviceName)

def mapEntriesThrough {E : Type} [HasServiceName E]
    (map : WaitSet → RmwIndex → String → Except Stale (Except (Failure WaitSetError) WaitSet))
    (castMsg mapMsg : String) : RmwIndex → List (Option E) → WaitSet →
      Except Stale (WaitSet × Except (Failure RmwRet) Unit)
  | _, [], ws => .ok (ws, .ok ())
  | index, e :: es, ws =>
    match uncheckedCast castMsg RmwRet.error e with
    | .error f => .ok (ws, .error f)
    | .ok e =>
      match map ws index (serviceName e) with
      | .error stale => .error stale
      | .ok (.error f) => .ok (ws, .error (f.wrap .error mapMsg))
      | .ok (.ok ws) => mapEntriesThrough map castMsg mapMsg (index + 1) es ws

variable [HasServiceName S] [HasServiceName G] {a : WaitArrays S G} {ws : WaitSet}

def mapArraysThrough (impls : Impls) (context : ImplPtr) (mw : Middleware) (a : WaitArrays S G)
    (ws : WaitSet) : Except Stale (WaitSet × Except (Failure RmwRet) Unit) :=
  match mapEntriesThrough (fun ws i n ↦ mapThrough impls context mw ws .guardCondition i n)
      "failed to retrieve GuardCondition" "failed to attach GuardCondition to WaitSet" 0
      (a.guardConditions.getD []) ws with
  | .error stale => .error stale
  | .ok (ws, .error f) => .ok (ws, .error f)
  | .ok (ws, .ok ()) =>
    mapEntriesThrough (fun ws i n ↦ mapThrough impls context mw ws .subscriber i n)
      "failed to retrieve Subscriber" "failed to attach Subscriber to WaitSet" 0
      (a.subscriptions.getD []) ws

/-- `rmw_wait` on a wait set that refers to the given implementation of a context. -/
def rmwWaitThrough (impls : Impls) (context : ImplPtr) (mw : Middleware)
    (rmwWaitSet : Option RmwWaitSet) (a : WaitArrays S G) (waitTimeout : Option RmwTime) :
    Except Stale (WaitOutcome S G) :=
  match checkWaitArguments rmwWaitSet a with
  | .error f => .ok ⟨f.error, f.chain, rmwWaitSet, a, []⟩
  | .ok h =>
    match uncheckedCast "failed to retrieve WaitSet" RmwRet.error h.data with
    | .error f => .ok ⟨f.error, f.chain, rmwWaitSet, a, []⟩
    | .ok ws =>
      match mapArraysThrough impls context mw a ws with
      | .error stale => .error stale
      | .ok (ws, .error f) => .ok ⟨f.error, f.chain, some { h with data := some ws }, a, []⟩
      | .ok (ws, .ok ()) => .ok (waitArrays mw h a ws (timeoutOf waitTimeout))

def rmwDestroyWaitSet (rmwWaitSet : Option RmwWaitSet) : Except (Failure RmwRet) Unit :=
  ensureHandle "rmw_wait_set" (rmwWaitSet.map (·.implementationIdentifier))

def Known (ws : WaitSet) (es : List Entry) : Prop :=
  ∀ e ∈ es, (ws.findListener e.waitableType e.serviceName).isSome

/-- The call ends with a check of its arguments, or creates no listener. -/
def NeedsNoContext (rmwWaitSet : RmwWaitSet) (a : WaitArrays S G) : Prop :=
  ∀ ws, checkWaitArguments (some rmwWaitSet) a = .ok rmwWaitSet → rmwWaitSet.data = some ws →
    Known ws a.entries

theorem mapThrough_live {c : Context} (hlive : deref impls context = .ok c) (ty : WaitableEntity)
    (rmwIndex : RmwIndex) (name : String) :
    mapThrough impls context mw ws ty rmwIndex name = .ok (ws.map mw ty rmwIndex name) := by
  simp only [mapThrough, hlive]
  split <;> rfl

theorem mapEntriesThrough_ok {E : Type} [HasServiceName E]
    (map : WaitSet → RmwIndex → String → Except (Failure WaitSetError) WaitSet)
    (castMsg mapMsg : String) (start : RmwIndex) (es : List (Option E)) (ws : WaitSet) :
    mapEntriesThrough (fun ws i n ↦ .ok (map ws i n)) castMsg mapMsg start es ws =
      .ok (mapEntries map castMsg mapMsg start es ws) := by
  induction es generalizing start ws with
  | nil => rfl
  | cons e es ih =>
    rw [mapEntriesThrough, mapEntries]
    cases uncheckedCast castMsg RmwRet.error e with
    | error f => rfl
    | ok e =>
      simp only
      cases map ws start (serviceName e) with
      | error f => rfl
      | ok ws' => exact ih (start + 1) ws'

theorem rmwWaitThrough_live {c : Context} (hlive : deref impls context = .ok c)
    (rmwWaitSet : Option RmwWaitSet) (waitTimeout : Option RmwTime) :
    rmwWaitThrough impls context mw rmwWaitSet a waitTimeout =
      .ok (rmwWait mw rmwWaitSet a waitTimeout) := by
  rw [rmwWaitThrough, rmwWait]
  cases checkWaitArguments rmwWaitSet a with
  | error f => rfl
  | ok h =>
    simp only
    cases uncheckedCast "failed to retrieve WaitSet" RmwRet.error h.data with
    | error f => rfl
    | ok ws =>
      have harrays : mapArraysThrough impls context mw a ws = .ok (mapArrays mw a ws) := by
        simp only [mapArraysThrough, mapArrays, mapGuardCondition, mapSubscriber,
          mapThrough_live hlive, mapEntriesThrough_ok]
        split <;> simp_all
      simp only [harrays]
      cases mapArrays mw a ws with
      | mk ws' r => cases r <;> rfl

section Stale

variable {stale : Stale} (hstale : deref impls context = .error stale)

theorem known_congr {ws' : WaitSet} (h : ∀ ty, ws'.listenerStorage ty = ws.listenerStorage ty)
    (es : List Entry) : Known ws' es ↔ Known ws es := by
  simp only [Known, WaitSet.findListener, h]

include hstale

variable (mw : Middleware)

/-- A reference to a destroyed context does no harm exactly if all services are known. -/
theorem mapEntriesThrough_stale {E : Type} [HasServiceName E] (ty : WaitableEntity)
    (castMsg mapMsg : String) (start : RmwIndex) {es : List (Option E)} (hes : ∀ e ∈ es, e.isSome)
    (ws : WaitSet) :
    (Known ws (arrayEntries ty start es) ∧ ∃ ws',
      mapEntriesThrough (fun ws i n ↦ mapThrough impls context mw ws ty i n) castMsg mapMsg start es
          ws = .ok (ws', .ok ()) ∧ ∀ ty', ws'.listenerStorage ty' = ws.listenerStorage ty') ∨
    (¬ Known ws (arrayEntries ty start es) ∧
      mapEntriesThrough (fun ws i n ↦ mapThrough impls context mw ws ty i n) castMsg mapMsg start es
          ws = .error stale) := by
  induction es generalizing start ws with
  | nil => exact Or.inl ⟨by simp [Known, arrayEntries], ws, rfl, fun _ ↦ rfl⟩
  | cons o es ih =>
    obtain ⟨e, rfl⟩ := Option.isSome_iff_exists.mp (hes o List.mem_cons_self)
    have hrest : ∀ e ∈ es, e.isSome := fun e' he' ↦ hes e' (List.mem_cons_of_mem _ he')
    simp only [mapEntriesThrough, uncheckedCast, arrayEntries, mapThrough]
    cases hfind : ws.findListener ty (serviceName e) with
    | none =>
      refine Or.inr ⟨fun hknown ↦ ?_, by simp only [hstale]⟩
      have hfirst := hknown _ List.mem_cons_self
      rw [hfind] at hfirst
      cases hfirst
    | some k =>
      have hmap : ws.map mw ty start (serviceName e) = .ok (ws.mapStoredListener ty k start) := by
        simp only [WaitSet.map, getStorageIndex, hfind]
      have hsame : ∀ ty', (ws.mapStoredListener ty k start).listenerStorage ty' =
          ws.listenerStorage ty' := fun ty' ↦ listenerStorage_mapStoredListener ws ty' ty k start
      have hsplit : Known ws (⟨ty, start, serviceName e⟩ :: arrayEntries ty (start + 1) es) ↔
          Known (ws.mapStoredListener ty k start) (arrayEntries ty (start + 1) es) := by
        rw [known_congr hsame, Known, List.forall_mem_cons, hfind]
        exact and_iff_right rfl
      simp only [hmap, hsplit]
      obtain ⟨hknown, ws', hrun, hkeep⟩ | hunknown :=
        ih (start + 1) hrest (ws.mapStoredListener ty k start)
      · exact Or.inl ⟨hknown, ws', hrun, fun ty' ↦ (hkeep ty').trans (hsame ty')⟩
      · exact Or.inr hunknown

theorem mapArraysThrough_stale (ha : a.Valid) (ws : WaitSet) :
    (Known ws a.entries ∧ ∃ ws', mapArraysThrough impls context mw a ws = .ok (ws', .ok ())) ∨
      (¬ Known ws a.entries ∧ mapArraysThrough impls context mw a ws = .error stale) := by
  have hentries : Known ws a.entries ↔
      Known ws (arrayEntries .guardCondition 0 (a.guardConditions.getD [])) ∧
        Known ws (arrayEntries .subscriber 0 (a.subscriptions.getD [])) := List.forall_mem_append
  rw [hentries, mapArraysThrough]
  obtain ⟨hguards, ws₁, hrun, hsame⟩ | ⟨hguards, hrun⟩ :=
    mapEntriesThrough_stale hstale mw .guardCondition "failed to retrieve GuardCondition"
      "failed to attach GuardCondition to WaitSet" 0 (all_isSome ha.1) ws
  · simp only [hrun]
    obtain ⟨hsubs, ws₂, hrun', -⟩ | ⟨hsubs, hrun'⟩ :=
      mapEntriesThrough_stale hstale mw .subscriber "failed to retrieve Subscriber"
        "failed to attach Subscriber to WaitSet" 0 (all_isSome ha.2) ws₁
    · exact Or.inl ⟨⟨hguards, (known_congr hsame _).mp hsubs⟩, ws₂, hrun'⟩
    · exact Or.inr ⟨fun h ↦ hsubs ((known_congr hsame _).mpr h.2), hrun'⟩
  · simp only [hrun]
    exact Or.inr ⟨fun h ↦ hguards h.1, trivial⟩

theorem rmwWaitThrough_stale_iff (rmwWaitSet : RmwWaitSet) (waitTimeout : Option RmwTime) :
    (∃ out, rmwWaitThrough impls context mw (some rmwWaitSet) a waitTimeout = .ok out) ↔
      NeedsNoContext rmwWaitSet a := by
  rw [rmwWaitThrough, NeedsNoContext]
  cases hcheck : checkWaitArguments (some rmwWaitSet) a with
  | error f => simp
  | ok h =>
    obtain ⟨hh, -, ha⟩ := checkWaitArguments_ok.mp hcheck
    obtain rfl := Option.some_inj.mp hh
    cases hdata : rmwWaitSet.data with
    | none => simp [uncheckedCast, hdata]
    | some ws =>
      simp only [uncheckedCast, hdata, forall_true_left, Option.some_inj, forall_eq']
      obtain ⟨hknown, ws', hrun⟩ | ⟨hknown, hrun⟩ := mapArraysThrough_stale hstale mw ha ws
      · simp [hrun, hknown]
      · simp [hrun, hknown]

end Stale

end RmwIceoryx2.Rmw
