import RmwIceoryx2.Runtime.WaitSet

namespace RmwIceoryx2.Runtime.WaitSet

open Common Library.FirstOccurrence

structure Entry where
  waitableType : WaitableEntity
  rmwIndex : RmwIndex
  serviceName : String
  deriving DecidableEq, Repr

/-- Entries with one key wait on one listener. -/
def Entry.key (e : Entry) : WaitableEntity × String := (e.waitableType, e.serviceName)

variable {mw : Middleware} {ws ws' ws'' : WaitSet} {ty ty' : WaitableEntity} {name : String}
  {k : StorageIndex}

def Grows (ws ws' : WaitSet) : Prop := ∀ ty, ws.listenerStorage ty <+: ws'.listenerStorage ty

theorem Grows.refl (ws : WaitSet) : Grows ws ws := fun _ ↦ List.prefix_refl _

theorem Grows.trans (h : Grows ws ws') (h' : Grows ws' ws'') : Grows ws ws'' :=
  fun ty ↦ (h ty).trans (h' ty)

theorem Grows.getStoredListener (h : Grows ws ws') {d : ListenerDetails}
    (hd : ws.getStoredListener ty k = some d) : ws'.getStoredListener ty k = some d := by
  obtain ⟨rest, hrest⟩ := h ty
  have hk : k < (ws.listenerStorage ty).length := (List.getElem?_eq_some_iff.mp hd).1
  rw [WaitSet.getStoredListener, ← hrest, List.getElem?_append_left hk]
  exact hd

theorem Grows.findListener (h : Grows ws ws') (hk : ws.findListener ty name = some k) :
    ws'.findListener ty name = some k := (h ty).findIdx?_eq_some hk

theorem grows_append (ws : WaitSet) (ty : WaitableEntity) (d : ListenerDetails) :
    Grows ws (ws.setStorage ty (ws.listenerStorage ty ++ [d])) := by
  intro ty'
  by_cases h : ty' = ty
  · subst h
    rw [listenerStorage_setStorage]
    exact List.prefix_append _ _
  · simp only [listenerStorage_setStorage_of_ne ws h, List.prefix_rfl]

theorem findListener_some :
    ws.findListener ty name = some k → ∃ d, ws.getStoredListener ty k = some d ∧
      d.serviceName = name := by
  intro h
  obtain ⟨hk, hp, -⟩ := List.findIdx?_eq_some_iff_getElem.mp h
  exact ⟨_, List.getElem?_eq_getElem hk, by simpa using hp⟩

theorem findListener_none :
    ws.findListener ty name = none ↔ ∀ d ∈ ws.listenerStorage ty, d.serviceName ≠ name := by
  simp [WaitSet.findListener, List.findIdx?_eq_none_iff]

theorem getStorageIndex_cases (h : ws.getStorageIndex mw ty name = .ok (ws', k)) :
    (ws.findListener ty name = some k ∧ ws' = ws) ∨
    (ws.findListener ty name = none ∧ mw.openOrCreate ty name = .ok () ∧
      ∃ fd, mw.createListener ty name = .ok fd ∧
        ws' = ws.setStorage ty (ws.listenerStorage ty ++ [⟨name, ⟨fd, false⟩⟩]) ∧
        k = (ws.listenerStorage ty).length) := by
  unfold getStorageIndex at h
  split at h
  · rename_i hnone
    split at h
    · cases h
    · rename_i hopen
      split at h
      · cases h
      · rename_i fd hfd
        cases h
        exact Or.inr ⟨hnone, hopen, fd, hfd, rfl, by simp⟩
  · rename_i hsome
    cases h
    exact Or.inl ⟨hsome, rfl⟩

theorem getStorageIndex_found (h : ws.getStorageIndex mw ty name = .ok (ws', k)) :
    ws'.findListener ty name = some k := by
  rcases getStorageIndex_cases h with ⟨hk, rfl⟩ | ⟨hnone, -, fd, -, rfl, rfl⟩
  · exact hk
  · have hall := findListener_none.mp hnone
    rw [WaitSet.findListener, listenerStorage_setStorage, List.findIdx?_append,
      List.findIdx?_eq_none_iff.mpr (by simpa using hall)]
    simp

theorem getStorageIndex_grows (h : ws.getStorageIndex mw ty name = .ok (ws', k)) :
    Grows ws ws' := by
  rcases getStorageIndex_cases h with ⟨-, rfl⟩ | ⟨-, -, fd, -, rfl, -⟩
  · exact Grows.refl _
  · exact grows_append ws ty _

theorem getStorageIndex_mapping (h : ws.getStorageIndex mw ty name = .ok (ws', k)) :
    ws'.mapping = ws.mapping := by
  rcases getStorageIndex_cases h with ⟨-, rfl⟩ | ⟨-, -, fd, -, rfl, -⟩
  · rfl
  · exact mapping_setStorage _ _ _

def CanListen (mw : Middleware) (ws : WaitSet) (ty : WaitableEntity) (name : String) : Prop :=
  ws.findListener ty name ≠ none ∨
    (mw.openOrCreate ty name = .ok () ∧ ∃ fd, mw.createListener ty name = .ok fd)

theorem getStorageIndex_isOk :
    (∃ r, ws.getStorageIndex mw ty name = .ok r) ↔ CanListen mw ws ty name := by
  unfold getStorageIndex CanListen
  split
  · rename_i hnone
    split
    · rename_i e he
      simp [hnone, he]
    · rename_i he
      split <;> rename_i hc <;> simp [hnone, he, hc]
  · rename_i hsome
    simp [hsome]

theorem map_cases {i : RmwIndex} (h : ws.map mw ty i name = .ok ws') :
    ∃ ws₁ k, ws.getStorageIndex mw ty name = .ok (ws₁, k) ∧
      ws' = ws₁.mapStoredListener ty k i := by
  unfold WaitSet.map at h
  split at h
  · cases h
  · rename_i ws₁ k hget
    cases h
    exact ⟨ws₁, k, hget, rfl⟩

theorem map_isOk {i : RmwIndex} :
    (∃ ws', ws.map mw ty i name = .ok ws') ↔ CanListen mw ws ty name := by
  rw [← getStorageIndex_isOk]
  unfold WaitSet.map
  split <;> rename_i hget <;> simp [hget]

@[simp] theorem listenerStorage_mapStoredListener (ws : WaitSet) (ty' ty : WaitableEntity)
    (k : StorageIndex) (i : RmwIndex) :
    (ws.mapStoredListener ty k i).listenerStorage ty' = ws.listenerStorage ty' := by
  cases ty' <;> rfl

/-- The staged mapping an entry amounts to once its listener is stored. -/
def resolve (ws : WaitSet) (e : Entry) : RmwMapping :=
  ⟨e.waitableType, (ws.findListener e.waitableType e.serviceName).getD 0, e.rmwIndex⟩

def mapAll (mw : Middleware) (ws : WaitSet) : List Entry → WaitSet × Option (Failure WaitSetError)
  | [] => (ws, none)
  | e :: es =>
    match ws.map mw e.waitableType e.rmwIndex e.serviceName with
    | .error f => (ws, some f)
    | .ok ws => mapAll mw ws es

theorem mapAll_append (es es' : List Entry) :
    mapAll mw ws (es ++ es') = match mapAll mw ws es with
      | (ws', none) => mapAll mw ws' es'
      | (ws', some f) => (ws', some f) := by
  induction es generalizing ws with
  | nil => rfl
  | cons e es ih =>
    simp only [List.cons_append, mapAll]
    split
    · rfl
    · exact ih

theorem map_found {i : RmwIndex} (h : ws.map mw ty i name = .ok ws') :
    (ws'.findListener ty name).isSome ∧ Grows ws ws' ∧
      ws'.mapping = pushNew mappingKey ws.mapping (resolve ws' ⟨ty, i, name⟩) := by
  obtain ⟨ws₁, k, hget, rfl⟩ := map_cases h
  have hfound := getStorageIndex_found hget
  have hsame : (ws₁.mapStoredListener ty k i).findListener ty name = some k := by
    simpa only [WaitSet.findListener, listenerStorage_mapStoredListener] using hfound
  refine ⟨by simp [hsame], fun ty' ↦ ?_, ?_⟩
  · simpa using getStorageIndex_grows hget ty'
  · have hre : resolve (ws₁.mapStoredListener ty k i) ⟨ty, i, name⟩ = ⟨ty, k, i⟩ := by
      simp only [resolve, hsame, Option.getD_some]
    rw [hre, ← getStorageIndex_mapping hget]
    rfl

theorem Grows.resolve_eq (h : Grows ws ws') {e : Entry}
    (he : (ws.findListener e.waitableType e.serviceName).isSome) :
    resolve ws' e = resolve ws e := by
  obtain ⟨k, hk⟩ := Option.isSome_iff_exists.mp he
  simp only [resolve, hk, h.findListener hk]

/-- Mapping all entries stages the resolved entries in order, each unless its listener is
staged already. -/
theorem mapAll_staged {es : List Entry} (h : mapAll mw ws es = (ws', none)) :
    Grows ws ws' ∧ (∀ e ∈ es, (ws'.findListener e.waitableType e.serviceName).isSome) ∧
      ws'.mapping = (es.map (resolve ws')).foldl (pushNew mappingKey) ws.mapping := by
  induction es generalizing ws with
  | nil =>
    cases h
    exact ⟨Grows.refl _, by simp, rfl⟩
  | cons e es ih =>
    unfold mapAll at h
    split at h
    · cases h
    · rename_i ws₁ hmap
      obtain ⟨hsome, hgrow, hstaged⟩ := map_found hmap
      obtain ⟨hgrow', hall, hrest⟩ := ih h
      obtain ⟨k, hk⟩ := Option.isSome_iff_exists.mp hsome
      refine ⟨hgrow.trans hgrow', ?_, ?_⟩
      · intro e' he'
        rcases List.mem_cons.mp he' with rfl | he'
        · simp [hgrow'.findListener hk]
        · exact hall e' he'
      · rw [hrest, hstaged, List.map_cons, List.foldl_cons, hgrow'.resolve_eq hsome]

theorem resolve_key_iff {e e' : Entry}
    (he : (ws.findListener e.waitableType e.serviceName).isSome)
    (he' : (ws.findListener e'.waitableType e'.serviceName).isSome) :
    mappingKey (resolve ws e) = mappingKey (resolve ws e') ↔ e.key = e'.key := by
  obtain ⟨k, hk⟩ := Option.isSome_iff_exists.mp he
  obtain ⟨k', hk'⟩ := Option.isSome_iff_exists.mp he'
  simp only [mappingKey, resolve, hk, hk', Option.getD_some, Entry.key, Prod.mk.injEq]
  constructor
  · intro heq
    obtain ⟨hty, rfl⟩ := heq
    obtain ⟨d, hd, hname⟩ := findListener_some hk
    obtain ⟨d', hd', hname'⟩ := findListener_some hk'
    rw [hty, hd', Option.some_inj] at hd
    exact ⟨hty, by rw [← hname, ← hname', hd]⟩
  · intro heq
    rw [heq.1, heq.2, hk', Option.some_inj] at hk
    exact ⟨heq.1, hk.symm⟩

theorem mapAll_mapping {es : List Entry} (hws : ws.mapping = [])
    (h : mapAll mw ws es = (ws', none)) :
    ws'.mapping = (firsts Entry.key es).map (resolve ws') := by
  obtain ⟨-, hall, hstaged⟩ := mapAll_staged h
  rw [hstaged, hws]
  exact (firsts_map (resolve ws') es
    (fun e he e' he' ↦ resolve_key_iff (hall e he) (hall e' he'))).symm

theorem CanListen.of_map {i : RmwIndex} {name' : String} (h : ws.map mw ty i name = .ok ws') :
    CanListen mw ws' ty' name' ↔ CanListen mw ws ty' name' := by
  obtain ⟨ws₁, k, hget, rfl⟩ := map_cases h
  have hstore : CanListen mw (ws₁.mapStoredListener ty k i) ty' name' ↔
      CanListen mw ws₁ ty' name' := by
    simp only [CanListen, WaitSet.findListener, listenerStorage_mapStoredListener]
  rw [hstore]
  rcases getStorageIndex_cases hget with ⟨-, rfl⟩ | ⟨-, hopen, fd, hfd, rfl, -⟩
  · rfl
  · by_cases hty : ty' = ty
    · subst hty
      by_cases hname : name' = name
      · subst hname
        exact ⟨fun _ ↦ Or.inr ⟨hopen, fd, hfd⟩, fun _ ↦ Or.inr ⟨hopen, fd, hfd⟩⟩
      · have hkeep : (ws.setStorage ty' (ws.listenerStorage ty' ++
            [⟨name, ⟨fd, false⟩⟩])).findListener ty' name' = none ↔
            ws.findListener ty' name' = none := by
          simp [findListener_none, or_imp, forall_and, Ne.symm hname]
        simp only [CanListen, ne_eq, hkeep]
    · simp only [CanListen, WaitSet.findListener, listenerStorage_setStorage_of_ne _ hty]

theorem mapAll_isOk {es : List Entry} :
    (mapAll mw ws es).2 = none ↔
      ∀ e ∈ es, CanListen mw ws e.waitableType e.serviceName := by
  induction es generalizing ws with
  | nil => simp [mapAll]
  | cons e es ih =>
    unfold mapAll
    split
    · rename_i f hmap
      have hno : ¬ CanListen mw ws e.waitableType e.serviceName := by
        rw [← map_isOk (i := e.rmwIndex), hmap]
        simp
      simp [hno]
    · rename_i ws₁ hmap
      have hyes : CanListen mw ws e.waitableType e.serviceName := map_isOk.mp ⟨ws₁, hmap⟩
      rw [ih]
      simp [hyes, CanListen.of_map hmap]

theorem mapAll_mapping_subset (es : List Entry) :
    ws.mapping ⊆ (mapAll mw ws es).1.mapping := by
  induction es generalizing ws with
  | nil => exact List.Subset.refl _
  | cons e es ih =>
    unfold mapAll
    split
    · exact List.Subset.refl _
    · rename_i ws₁ hmap
      obtain ⟨-, -, hstaged⟩ := map_found hmap
      have hone : ws.mapping ⊆ ws₁.mapping := hstaged ▸ subset_pushNew _ _
      exact List.Subset.trans hone ih

/-- A mapping that fails leaves nothing staged only if its first entry is the one to fail. -/
theorem mapAll_failed_mapping {es : List Entry} (hws : ws.mapping = [])
    (hfail : (mapAll mw ws es).2 ≠ none) : (mapAll mw ws es).1.mapping = [] ↔
      ∃ e, es.head? = some e ∧ ¬ CanListen mw ws e.waitableType e.serviceName := by
  cases es with
  | nil => exact absurd rfl hfail
  | cons e es =>
    simp only [List.head?_cons, Option.some.injEq, exists_eq_left', mapAll]
    rw [← map_isOk (i := e.rmwIndex)]
    cases hmap : ws.map mw e.waitableType e.rmwIndex e.serviceName with
    | error f => simp [hws]
    | ok ws₁ =>
      obtain ⟨-, -, hstaged⟩ := map_found hmap
      have hin : resolve ws₁ e ∈ (mapAll mw ws₁ es).1.mapping := by
        refine mapAll_mapping_subset es ?_
        rw [hstaged, hws, mem_pushNew]
        exact Or.inr ⟨rfl, by simp⟩
      simp only [Except.ok.injEq, exists_eq', not_true_eq_false, iff_false]
      exact List.ne_nil_of_mem hin

end RmwIceoryx2.Runtime.WaitSet
