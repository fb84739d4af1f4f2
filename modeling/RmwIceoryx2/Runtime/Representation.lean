import RmwIceoryx2.Library.Execution
import RmwIceoryx2.Runtime.Waiting

namespace RmwIceoryx2.Runtime.WaitSet

open Common Library.FirstOccurrence Library.Execution

/-- `get_storage_index` on a wait set that is changed in place, so that what a failure leaves
behind can be read off. -/
def getStorageIndexInPlace (mw : Middleware) (ty : WaitableEntity) (serviceName : String) :
    ExceptT (Failure WaitSetError) (StateM WaitSet) StorageIndex := do
  match (← get).findListener ty serviceName with
  | none =>
    match mw.openOrCreate ty serviceName with
    | .error e => throw ⟨.serviceCreationFailure, [e]⟩
    | .ok () =>
      match mw.createListener ty serviceName with
      | .error e => throw ⟨.listenerCreationFailure, [e]⟩
      | .ok fd =>
        modify fun ws ↦ ws.setStorage ty (ws.listenerStorage ty ++ [⟨serviceName, ⟨fd, false⟩⟩])
        return ((← get).listenerStorage ty).length - 1
  | some storageIndex => return storageIndex

def mapInPlace (mw : Middleware) (ty : WaitableEntity) (rmwIndex : RmwIndex)
    (serviceName : String) : ExceptT (Failure WaitSetError) (StateM WaitSet) Unit := do
  let storageIndex ← getStorageIndexInPlace mw ty serviceName
  modify fun ws ↦ ws.mapStoredListener ty storageIndex rmwIndex

inductive Operation
  | map (mw : Middleware) (ty : WaitableEntity) (rmwIndex : RmwIndex) (serviceName : String)
  | unmapAll
  | wait (mw : Middleware) (timeout : Option Duration)

def execute (ws : WaitSet) : Operation → WaitSet
  | .map mw ty rmwIndex serviceName => ((mapInPlace mw ty rmwIndex serviceName).run.run ws).2
  | .unmapAll => ws.unmapAll
  | .wait mw timeout => (ws.wait mw timeout).waitSet

/-- The services of the stored listeners, by storage index. -/
def serviceNames (ws : WaitSet) (ty : WaitableEntity) : List String :=
  (ws.listenerStorage ty).map (·.serviceName)

structure Represented (ws : WaitSet) : Prop where
  serviceNames_nodup : ∀ ty, (ws.serviceNames ty).Nodup
  inRange : ∀ m ∈ ws.mapping, m.storageIndex < (ws.listenerStorage m.waitableType).length
  keys_nodup : (ws.mapping.map mappingKey).Nodup

variable {mw : Middleware} {ws ws' : WaitSet} {ty : WaitableEntity} {name : String}
  {k : StorageIndex} {i : RmwIndex} {timeout : Option Duration}

variable (mw) in
theorem getStorageIndexInPlace_run (ws : WaitSet) (ty : WaitableEntity) (name : String) :
    (getStorageIndexInPlace mw ty name).run.run ws = match ws.getStorageIndex mw ty name with
      | .error f => (.error f, ws)
      | .ok (ws', k) => (.ok k, ws') := by
  have hget : (get : ExceptT (Failure WaitSetError) (StateM WaitSet) WaitSet).run.run ws =
      pure (.ok ws, ws) := rfl
  simp only [getStorageIndexInPlace, ExceptT.run_bind, StateT.run_bind, hget, pure_bind,
    getStorageIndex]
  cases hfind : ws.findListener ty name with
  | some k => rfl
  | none =>
    cases hopen : mw.openOrCreate ty name with
    | error e => rfl
    | ok u =>
      cases hlisten : mw.createListener ty name with
      | error e => rfl
      | ok fd => cases ty <;> rfl

variable (mw) in
theorem mapInPlace_run (ws : WaitSet) (ty : WaitableEntity) (i : RmwIndex) (name : String) :
    (mapInPlace mw ty i name).run.run ws = match ws.map mw ty i name with
      | .error f => (.error f, ws)
      | .ok ws' => (.ok (), ws') := by
  rw [mapInPlace, ExceptT.run_bind, StateT.run_bind, getStorageIndexInPlace_run, map]
  cases hget : ws.getStorageIndex mw ty name <;> rfl

theorem execute_map : ws.execute (.map mw ty i name) = match ws.map mw ty i name with
    | .error _ => ws
    | .ok ws' => ws' := by
  rw [execute, mapInPlace_run]
  cases hmap : ws.map mw ty i name <;> rfl

theorem serviceNames_getElem? :
    (ws.serviceNames ty)[k]? = (ws.getStoredListener ty k).map (·.serviceName) :=
  List.getElem?_map

theorem findListener_congr (h : ws'.serviceNames ty = ws.serviceNames ty) :
    ws'.findListener ty name = ws.findListener ty name := by
  have hlookup : ∀ ws : WaitSet, ws.findListener ty name =
      (ws.serviceNames ty).findIdx? (· = name) := by
    intro ws
    rw [serviceNames, List.findIdx?_map]
    rfl
  rw [hlookup, hlookup, h]

theorem Grows.serviceNames (h : Grows ws ws') (ty : WaitableEntity) :
    ws.serviceNames ty <+: ws'.serviceNames ty := (h ty).map _

theorem serviceNames_drainListener (ws : WaitSet) (ty ty' : WaitableEntity) (k : StorageIndex) :
    (ws.drainListener ty k).serviceNames ty' = ws.serviceNames ty' := by
  refine List.ext_getElem? fun k' ↦ ?_
  rw [serviceNames_getElem?, serviceNames_getElem?, getStoredListener_drainListener]
  split
  · rw [Option.map_map]
    rfl
  · rfl

theorem processTrigger_serviceNames {fd : FileDescriptor}
    (h : ws.processTrigger mw ty k = .ok (ws', fd)) (ty' : WaitableEntity) :
    ws'.serviceNames ty' = ws.serviceNames ty' := by
  unfold processTrigger at h
  split at h
  · split at h
    · cases h
    · cases h
      exact serviceNames_drainListener ws ty ty' k
  · cases h

variable (mw) in
theorem processEvents_serviceNames (attachedTimeout : Option AttachmentId)
    (attached : List AttachmentDetails) (events : List AttachmentId) (p : Progress)
    (ty : WaitableEntity) :
    (processEvents mw attachedTimeout attached events p).waitSet.serviceNames ty =
      p.waitSet.serviceNames ty := by
  apply processEvents_invariant
    (I := fun q ↦ q.waitSet.serviceNames ty = p.waitSet.serviceNames ty) _ events rfl
  intro q id hq
  rcases onEvent_step mw attachedTimeout attached q id with ⟨chain, hstep⟩ |
    ⟨a, -, ws', fd, hproc, hstep⟩
  · rw [hstep]
    exact hq
  · rw [hstep]
    exact (processTrigger_serviceNames hproc ty).trans hq

theorem wait_serviceNames : (ws.wait mw timeout).waitSet.serviceNames ty = ws.serviceNames ty := by
  unfold WaitSet.wait
  repeat' split
  all_goals first | rfl | exact processEvents_serviceNames _ _ _ _ _ _

theorem execute_serviceNames (ws : WaitSet) (a : Operation) (ty : WaitableEntity) :
    ws.serviceNames ty <+: (ws.execute a).serviceNames ty := by
  cases a with
  | map mw ty' i name =>
    rw [execute_map]
    cases hmap : ws.map mw ty' i name with
    | error f => exact List.prefix_rfl
    | ok ws' => exact (map_found hmap).2.1.serviceNames ty
  | unmapAll => cases ty <;> exact List.prefix_rfl
  | wait mw timeout =>
    rw [execute, wait_serviceNames]

/-- A listener once stored keeps its index and its service. -/
theorem run_serviceNames (ws : WaitSet) (ops : List Operation) (ty : WaitableEntity) :
    ws.serviceNames ty <+: (run execute ws ops).serviceNames ty := by
  induction ops generalizing ws with
  | nil => exact List.prefix_rfl
  | cons a ops ih => exact (execute_serviceNames ws a ty).trans (ih _)

theorem represented_empty : Represented .empty where
  serviceNames_nodup ty := by cases ty <;> exact List.nodup_nil
  inRange m hm := by cases hm
  keys_nodup := List.nodup_nil

theorem length_serviceNames (ws : WaitSet) (ty : WaitableEntity) :
    (ws.serviceNames ty).length = (ws.listenerStorage ty).length := List.length_map _

theorem getStorageIndex_serviceNames (hr : Represented ws)
    (h : ws.getStorageIndex mw ty name = .ok (ws', k)) (ty' : WaitableEntity) :
    (ws'.serviceNames ty').Nodup := by
  rcases getStorageIndex_cases h with ⟨-, rfl⟩ | ⟨hnone, -, fd, -, rfl, -⟩
  · exact hr.serviceNames_nodup ty'
  · by_cases hty : ty' = ty
    · subst hty
      have hnew : name ∉ ws.serviceNames ty' := by
        intro hmem
        obtain ⟨d, hd, hname⟩ := List.mem_map.mp hmem
        exact findListener_none.mp hnone d hd hname
      rw [serviceNames, listenerStorage_setStorage, List.map_append, List.map_singleton]
      rw [← List.concat_eq_append]
      exact (hr.serviceNames_nodup ty').concat hnew
    · rw [serviceNames, listenerStorage_setStorage_of_ne _ hty]
      exact hr.serviceNames_nodup ty'

theorem represented_map (hr : Represented ws) (h : ws.map mw ty i name = .ok ws') :
    Represented ws' := by
  obtain ⟨ws₁, k, hget, rfl⟩ := map_cases h
  have hgrow := getStorageIndex_grows hget
  obtain ⟨d, hd, -⟩ := findListener_some (getStorageIndex_found hget)
  have hk : k < (ws₁.listenerStorage ty).length := (List.getElem?_eq_some_iff.mp hd).1
  refine ⟨fun ty' ↦ ?_, fun m hm ↦ ?_, ?_⟩
  · rw [serviceNames, listenerStorage_mapStoredListener]
    exact getStorageIndex_serviceNames hr hget ty'
  · rw [listenerStorage_mapStoredListener]
    rw [mapStoredListener, mem_pushNew, getStorageIndex_mapping hget] at hm
    rcases hm with hm | ⟨rfl, -⟩
    · exact (hr.inRange m hm).trans_le (hgrow _).length_le
    · exact hk
  · rw [mapStoredListener, getStorageIndex_mapping hget]
    exact pushNew_keys_nodup hr.keys_nodup _

theorem represented_wait (hr : Represented ws) : Represented (ws.wait mw timeout).waitSet where
  serviceNames_nodup ty := by
    rw [wait_serviceNames]
    exact hr.serviceNames_nodup ty
  inRange m hm := by
    rw [wait_mapping] at hm
    rw [← length_serviceNames, wait_serviceNames, length_serviceNames]
    exact hr.inRange m hm
  keys_nodup := by
    rw [wait_mapping]
    exact hr.keys_nodup

theorem represented_execute (hr : Represented ws) (a : Operation) :
    Represented (ws.execute a) := by
  cases a with
  | map mw ty i name =>
    rw [execute_map]
    cases hmap : ws.map mw ty i name with
    | error f => exact hr
    | ok ws' => exact represented_map hr hmap
  | unmapAll => exact ⟨hr.serviceNames_nodup, fun m hm ↦ (List.not_mem_nil hm).elim, List.nodup_nil⟩
  | wait mw timeout => exact represented_wait hr

theorem represented_run (ops : List Operation) : Represented (run execute empty ops) :=
  have hall : Admissible execute (fun _ _ ↦ True) empty ops :=
    admissible_of_forall _ fun _ _ _ ↦ trivial
  invariant (I := Represented) (fun _ a hr _ ↦ represented_execute hr a) represented_empty hall

/-- A mapping that fails changes nothing, one that succeeds has a listener of the service staged. -/
def MapsSoundly (mw : Middleware) (ws : WaitSet) (ty : WaitableEntity) (i : RmwIndex)
    (name : String) : Prop :=
  match (mapInPlace mw ty i name).run.run ws with
  | (.error _, ws') => ws' = ws
  | (.ok (), ws') => ∃ m ∈ ws'.mapping, m.waitableType = ty ∧
      (∃ d, ws'.getStoredListener ty m.storageIndex = some d ∧ d.serviceName = name) ∧
      (ws'.mapping = ws.mapping ∨ ws'.mapping = ws.mapping ++ [m] ∧ m.rmwIndex = i)

def Unreachable (f : Failure WaitSetError) : Prop :=
  f.error = .invalidStorageIndex ∨ f.error = .invalidWaitableType

/-- What `wait` attaches is stored and attached once, whenever the callback looks at it. -/
structure WaitsSoundly (mw : Middleware) (ws : WaitSet) (timeout : Option Duration) : Prop where
  result : ∀ f, (ws.wait mw timeout).result = .error f → ¬ Unreachable f
  attachedOnce : ∀ attached, ws.attachMappedListeners mw ws.mapping = .ok attached →
    (attached.map fun a ↦ mappingKey a.mapping).Nodup
  processed : ∀ attached, ws.attachMappedListeners mw ws.mapping = .ok attached →
    ∀ attachedTimeout ids, ∀ a ∈ attached, ∀ f,
      (processEvents mw attachedTimeout attached ids ⟨ws, [], [], []⟩).waitSet.processTrigger mw
        a.mapping.waitableType a.mapping.storageIndex = .error f → ¬ Unreachable f

theorem maps_soundly (mw : Middleware) (ws : WaitSet) (ty : WaitableEntity) (i : RmwIndex)
    (name : String) : MapsSoundly mw ws ty i name := by
  rw [MapsSoundly, mapInPlace_run]
  cases hmap : ws.map mw ty i name with
  | error f => rfl
  | ok ws' =>
    obtain ⟨hsome, -, hstaged⟩ := map_found hmap
    obtain ⟨k, hk⟩ := Option.isSome_iff_exists.mp hsome
    obtain ⟨d, hd, hname⟩ := findListener_some hk
    have hresolve : resolve ws' ⟨ty, i, name⟩ = ⟨ty, k, i⟩ := by
      simp only [resolve, hk, Option.getD_some]
    rw [hresolve] at hstaged
    by_cases hkey : ∃ m ∈ ws.mapping, mappingKey m = (ty, k)
    · obtain ⟨m, hm, hmk⟩ := hkey
      rw [pushNew_of_exists hm hmk] at hstaged
      obtain ⟨rfl, rfl⟩ := Prod.mk.injEq .. ▸ hmk
      exact ⟨m, hstaged ▸ hm, rfl, ⟨d, hd, hname⟩, Or.inl hstaged⟩
    · rw [pushNew_of_new fun m hm he ↦ hkey ⟨m, hm, he⟩] at hstaged
      refine ⟨⟨ty, k, i⟩, ?_, rfl, ⟨d, hd, hname⟩, Or.inr ⟨hstaged, rfl⟩⟩
      rw [hstaged]
      exact List.mem_append_right _ (List.mem_singleton_self _)

theorem Represented.stored (hr : Represented ws) {m : RmwMapping} (hm : m ∈ ws.mapping)
    (hnames : ∀ ty, ws'.serviceNames ty = ws.serviceNames ty) :
    ∃ d, ws'.getStoredListener m.waitableType m.storageIndex = some d := by
  have hk := hr.inRange m hm
  rw [← length_serviceNames, ← hnames, length_serviceNames] at hk
  exact ⟨_, List.getElem?_eq_getElem hk⟩

theorem attachMappedListener_error {m : RmwMapping} {d : ListenerDetails}
    (hd : ws.getStoredListener m.waitableType m.storageIndex = some d) {f : Failure WaitSetError}
    (h : ws.attachMappedListener mw m = .error f) : f.error = .attachmentFailure := by
  simp only [attachMappedListener, hd] at h
  split at h
  · cases h
    rfl
  · cases h

theorem attachMappedListeners_error {ms : List RmwMapping}
    (hms : ∀ m ∈ ms, ∃ d, ws.getStoredListener m.waitableType m.storageIndex = some d)
    {f : Failure WaitSetError} (h : ws.attachMappedListeners mw ms = .error f) :
    f.error = .attachmentFailure := by
  induction ms with
  | nil => cases h
  | cons m ms ih =>
    obtain ⟨⟨d, hd⟩, hrest⟩ := List.forall_mem_cons.mp hms
    unfold attachMappedListeners at h
    split at h
    · rename_i g hg
      cases h
      exact (attachMappedListener_error hd hg : g.error = .attachmentFailure)
    · split at h
      · rename_i g hg
        cases h
        exact ih hrest hg
      · cases h

theorem processTrigger_error {d : ListenerDetails} (hd : ws.getStoredListener ty k = some d)
    {f : Failure WaitSetError} (h : ws.processTrigger mw ty k = .error f) :
    f.error = .listenerFailure := by
  simp only [processTrigger, hd] at h
  split at h
  · cases h
    rfl
  · cases h

theorem attachSuppliedTimeout_error {f : Failure WaitSetError}
    (h : attachSuppliedTimeout mw timeout = .error f) : f.error = .attachmentFailure := by
  cases timeout with
  | none => cases h
  | some timeout =>
    simp only [attachSuppliedTimeout, attachTimeout] at h
    split at h
    · cases h
      rfl
    · cases h

theorem Represented.wait_error (hr : Represented ws) {f : Failure WaitSetError}
    (h : (ws.wait mw timeout).result = .error f) :
    f.error = .waitFailure ∨ f.error = .attachmentFailure := by
  unfold WaitSet.wait at h
  split at h
  · cases h
  · split at h
    · cases h
      exact Or.inl rfl
    · split at h
      · rename_i g hg
        cases h
        exact Or.inr (attachSuppliedTimeout_error hg)
      · split at h
        · rename_i g hg
          cases h
          exact Or.inr (attachMappedListeners_error (fun m hm ↦ hr.stored hm fun _ ↦ rfl) hg)
        · dsimp only at h
          split at h
          · cases h
            exact Or.inl rfl
          · cases h

theorem Represented.waits_soundly (hr : Represented ws) (mw : Middleware)
    (timeout : Option Duration) : WaitsSoundly mw ws timeout where
  result f h := by
    rcases hr.wait_error h with he | he <;> simp [Unreachable, he]
  attachedOnce attached h := by
    have hkeys := hr.keys_nodup
    rwa [← (attachMappedListeners_ok h).1, List.map_map] at hkeys
  processed attached h attachedTimeout ids a ha f hf := by
    have hm : a.mapping ∈ ws.mapping :=
      (attachMappedListeners_ok h).1 ▸ List.mem_map_of_mem ha
    obtain ⟨d, hd⟩ := hr.stored hm
      (processEvents_serviceNames mw attachedTimeout attached ids ⟨ws, [], [], []⟩)
    simp [Unreachable, processTrigger_error hd hf]

/-- After any calls the storages and the staged mapping fit together, and the next call finds
them so. -/
theorem wait_set_represented (ops : List Operation) :
    Represented (run execute empty ops) ∧
    (∀ ops' ty k d, (run execute empty ops).getStoredListener ty k = some d →
      ∃ d', (run execute empty (ops ++ ops')).getStoredListener ty k = some d' ∧
        d'.serviceName = d.serviceName) ∧
    (∀ mw ty i name, MapsSoundly mw (run execute empty ops) ty i name) ∧
    ∀ mw timeout, WaitsSoundly mw (run execute empty ops) timeout := by
  have hr := represented_run ops
  refine ⟨hr, fun ops' ty k d hd ↦ ?_, fun mw ↦ maps_soundly mw _, hr.waits_soundly⟩
  have hname : ((run execute empty ops).serviceNames ty)[k]? = some d.serviceName := by
    rw [serviceNames_getElem?, hd]
    rfl
  have hk : k < ((run execute empty ops).serviceNames ty).length :=
    (List.getElem?_eq_some_iff.mp hname).1
  obtain ⟨rest, hrest⟩ := run_serviceNames (run execute empty ops) ops' ty
  rw [← List.getElem?_append_left hk, hrest, ← run_append, serviceNames_getElem?,
    Option.map_eq_some_iff] at hname
  exact hname

end RmwIceoryx2.Runtime.WaitSet
