import Mathlib.Data.List.Basic
import RmwIceoryx2.Common.Error
import RmwIceoryx2.Library.Execution

namespace RmwIceoryx2.Common.ErrorText

open RmwIceoryx2.Library.Execution

abbrev Text := List Char

def maxErrorMsgLength : ℕ := 4096

/-- What rcutils does to the messages it is given: to how many characters it cuts one that it
formats and one that it stores, how it tells the place, and what it says if there is no error. -/
structure Rcutils (Site : Type) where
  formatted : ℕ
  stored : ℕ
  location : Site → Text
  notSet : Text

structure ErrorState (Site : Type) where
  message : Text
  site : Site

structure Report (Site : Type) where
  msg : Text
  site : Site

variable {Site : Type}

namespace Rcutils

/-- `RCUTILS_SET_ERROR_MSG`, which overwrites. -/
def setErrorMsg (rc : Rcutils Site) (msg : Text) (site : Site) : Option (ErrorState Site) :=
  some ⟨msg.take rc.stored, site⟩

def setErrorMsgWithFormatString (rc : Rcutils Site) (msg : Text) (site : Site) :
    Option (ErrorState Site) := rc.setErrorMsg (msg.take rc.formatted) site

def getErrorString (rc : Rcutils Site) : Option (ErrorState Site) → Text
  | none => rc.notSet
  | some state => state.message ++ rc.location state.site

end Rcutils

def separator : Text := [':', ' ']

/-- `RMW_IOX2_CHAIN_ERROR_MSG`. The macro evaluates its argument when the error is reset. -/
def rmwIox2ChainErrorMsg (rc : Rcutils Site) (msg : Option (ErrorState Site) → Text) (site : Site)
    (state : Option (ErrorState Site)) : Option (ErrorState Site) :=
  if state.isSome then
    let errorString := rc.getErrorString state
    let state := none
    rc.setErrorMsgWithFormatString (msg state ++ separator ++ errorString) site
  else rc.setErrorMsg (msg state) site

def rmwIox2ChainErrorMsgWithFormatString (rc : Rcutils Site) (msg : Text) (site : Site)
    (state : Option (ErrorState Site)) : Option (ErrorState Site) :=
  if state.isSome then
    let errorString := rc.getErrorString state
    let formattedMsg := msg.take (maxErrorMsgLength - 1)
    rc.setErrorMsgWithFormatString (formattedMsg ++ separator ++ errorString) site
  else rc.setErrorMsgWithFormatString msg site

def invalidTypesupport (rc : Rcutils Site) (c cpp : Report Site) : Text :=
  "Invalid typesupport: ".toList ++ rc.getErrorString (rc.setErrorMsg c.msg c.site) ++ ['\n'] ++
    rc.getErrorString (rc.setErrorMsg cpp.msg cpp.site)

/-- What `RMW_IOX2_ENSURE_VALID_TYPESUPPORT` and its sibling for services do with the error state;
`c` and `cpp` are the errors that the two lookups set if they find nothing. -/
def typesupportErrors (rc : Rcutils Site) (c cpp : Option (Report Site)) (site : Site)
    (state : Option (ErrorState Site)) : Option (ErrorState Site) :=
  match c with
  | none => state
  | some c =>
    match cpp with
    | none => none
    | some cpp =>
      rmwIox2ChainErrorMsgWithFormatString rc (invalidTypesupport rc c cpp) site none

/-- What the code does with the error state; `chainErrorString` is the use in
`init_string_array`. -/
inductive ErrorOp (Site : Type)
  | chain (msg : Text) (site : Site)
  | chainFormat (msg : Text) (site : Site)
  | chainErrorString (site : Site)
  | setFormat (msg : Text) (site : Site)
  | ensureTypesupport (c cpp : Option (Report Site)) (site : Site)
  | reset

def ErrorOp.exec (rc : Rcutils Site) (state : Option (ErrorState Site)) :
    ErrorOp Site → Option (ErrorState Site)
  | .chain msg site => rmwIox2ChainErrorMsg rc (fun _ ↦ msg) site state
  | .chainFormat msg site => rmwIox2ChainErrorMsgWithFormatString rc msg site state
  | .chainErrorString site => rmwIox2ChainErrorMsg rc rc.getErrorString site state
  | .setFormat msg site => rc.setErrorMsgWithFormatString msg site
  | .ensureTypesupport c cpp site => typesupportErrors rc c cpp site state
  | .reset => none

def ErrorOp.record (rc : Rcutils Site) (reports : List (Report Site)) :
    ErrorOp Site → List (Report Site)
  | .chain msg site | .chainFormat msg site => ⟨msg, site⟩ :: reports
  | .chainErrorString site => ⟨rc.notSet, site⟩ :: reports
  | .setFormat msg site => [⟨msg, site⟩]
  | .ensureTypesupport none _ _ => reports
  | .ensureTypesupport (some _) none _ => []
  | .ensureTypesupport (some c) (some cpp) site => [⟨invalidTypesupport rc c cpp, site⟩]
  | .reset => []

def messages (reports : List (Report Site)) : Text :=
  (reports.map (·.msg)).intersperse separator |>.flatten

def places (rc : Rcutils Site) (reports : List (Report Site)) : Text :=
  reports.reverse.flatMap fun r ↦ rc.location r.site

/-- The error state that the reports amount to: the messages, then the places of all but the
newest, cut once. -/
def errorState (rc : Rcutils Site) : List (Report Site) → Option (ErrorState Site)
  | [] => none
  | r :: older => some ⟨(messages (r :: older) ++ places rc older).take rc.stored, r.site⟩

def chainText {ε : Type} (f : Failure ε) : Text :=
  (f.chain.map String.toList).intersperse separator |>.flatten

section Cutting

variable {α : Type}

theorem take_take_append {k n : ℕ} (h : k ≤ n) (xs ys : List α) :
    (xs.take n ++ ys).take k = (xs ++ ys).take k := by
  rw [List.take_append, List.take_append, List.take_take, List.length_take, min_eq_left h]
  rcases Nat.le_total xs.length n with hall | hsome
  · rw [min_eq_right hall]
  · have hnone : k - min n xs.length = k - xs.length := by omega
    rw [hnone]

theorem take_append_take_append (n : ℕ) (front xs ys : List α) :
    (front ++ (xs.take n ++ ys)).take n = (front ++ (xs ++ ys)).take n := by
  have hfront : ∀ zs : List α, (front ++ zs).take n = front.take n ++ zs.take (n - front.length) :=
    fun zs ↦ List.take_append
  rw [hfront, hfront, take_take_append (Nat.sub_le n front.length)]

end Cutting

variable {rc : Rcutils Site} {reports : List (Report Site)}

theorem messages_cons (r : Report Site) {older : List (Report Site)} (h : older ≠ []) :
    messages (r :: older) = r.msg ++ separator ++ messages older := by
  obtain ⟨r', older, rfl⟩ := List.exists_cons_of_ne_nil h
  simp only [messages, List.map_cons, List.intersperse_cons_cons, List.flatten_cons,
    List.append_assoc]

theorem messages_append {newer older : List (Report Site)} (hnewer : newer ≠ [])
    (holder : older ≠ []) :
    messages (newer ++ older) = messages newer ++ separator ++ messages older := by
  induction newer with
  | nil => exact absurd rfl hnewer
  | cons r newer ih =>
    by_cases hlast : newer = []
    · rw [hlast, List.singleton_append, messages_cons r holder]
      simp only [messages, List.map_cons, List.map_nil, List.intersperse_singleton,
        List.flatten_singleton]
    · rw [List.cons_append, messages_cons r (List.append_ne_nil_of_left_ne_nil hlast older),
        messages_cons r hlast, ih hlast]
      simp only [List.append_assoc]

theorem places_cons (r : Report Site) (older : List (Report Site)) :
    places rc (r :: older) = places rc older ++ rc.location r.site := by
  simp only [places, List.reverse_cons, List.flatMap_append, List.flatMap_singleton]

/-- With a new message in front, what was stored and is read again is cut as if it had been there
in full. -/
theorem chained_take (front : Text) (h : reports ≠ []) :
    (front ++ rc.getErrorString (errorState rc reports)).take rc.stored =
      (front ++ (messages reports ++ places rc reports)).take rc.stored := by
  obtain ⟨r, older, rfl⟩ := List.exists_cons_of_ne_nil h
  rw [errorState, Rcutils.getErrorString, take_append_take_append, places_cons, List.append_assoc]

theorem errorState_single (msg : Text) (site : Site) :
    errorState rc [⟨msg, site⟩] = rc.setErrorMsg msg site := by
  simp only [errorState, messages, places, List.map_cons, List.map_nil, List.intersperse_singleton,
    List.flatten_cons, List.flatten_nil, List.reverse_nil, List.flatMap_nil, List.append_nil,
    Rcutils.setErrorMsg]

theorem errorState_cons (r : Report Site) (h : reports ≠ []) :
    errorState rc (r :: reports) =
      some ⟨(r.msg ++ separator ++ (messages reports ++ places rc reports)).take rc.stored,
        r.site⟩ := by
  rw [errorState, messages_cons r h, List.append_assoc]

theorem setErrorMsgWithFormatString_eq (hformatted : rc.stored ≤ rc.formatted) (msg : Text)
    (site : Site) : rc.setErrorMsgWithFormatString msg site = rc.setErrorMsg msg site := by
  rw [Rcutils.setErrorMsgWithFormatString, Rcutils.setErrorMsg, List.take_take,
    min_eq_left hformatted]
  rfl

theorem chain_errorState (hformatted : rc.stored ≤ rc.formatted)
    (msg : Option (ErrorState Site) → Text) (site : Site) :
    rmwIox2ChainErrorMsg rc msg site (errorState rc reports) =
      errorState rc (⟨msg none, site⟩ :: reports) := by
  cases reports with
  | nil => exact (errorState_single (msg none) site).symm
  | cons r older =>
    have hne : r :: older ≠ [] := List.cons_ne_nil r older
    have hset : (errorState rc (r :: older)).isSome := rfl
    rw [rmwIox2ChainErrorMsg, if_pos hset, setErrorMsgWithFormatString_eq hformatted,
      Rcutils.setErrorMsg, chained_take _ hne]
    rw [errorState_cons _ hne]

theorem chainFormat_errorState (hformatted : rc.stored ≤ rc.formatted)
    (hmax : rc.stored < maxErrorMsgLength) (reports : List (Report Site)) (msg : Text)
    (site : Site) :
    rmwIox2ChainErrorMsgWithFormatString rc msg site (errorState rc reports) =
      errorState rc (⟨msg, site⟩ :: reports) := by
  have hshort : rc.stored ≤ maxErrorMsgLength - 1 := by omega
  cases reports with
  | nil =>
    rw [errorState_single]
    exact setErrorMsgWithFormatString_eq hformatted msg site
  | cons r older =>
    have hne : r :: older ≠ [] := List.cons_ne_nil r older
    have hset : (errorState rc (r :: older)).isSome := rfl
    rw [rmwIox2ChainErrorMsgWithFormatString, if_pos hset,
      setErrorMsgWithFormatString_eq hformatted, Rcutils.setErrorMsg, List.append_assoc,
      take_take_append hshort, ← List.append_assoc, chained_take _ hne]
    rw [errorState_cons _ hne]

theorem exec_errorState (hformatted : rc.stored ≤ rc.formatted)
    (hmax : rc.stored < maxErrorMsgLength) (op : ErrorOp Site) :
    op.exec rc (errorState rc reports) = errorState rc (op.record rc reports) := by
  cases op with
  | chain msg site => exact chain_errorState hformatted (fun _ ↦ msg) site
  | chainFormat msg site => exact chainFormat_errorState hformatted hmax reports msg site
  | chainErrorString site => exact chain_errorState hformatted rc.getErrorString site
  | setFormat msg site =>
    rw [ErrorOp.record, errorState_single]
    exact setErrorMsgWithFormatString_eq hformatted msg site
  | ensureTypesupport c cpp site =>
    cases c with
    | none => rfl
    | some c =>
      cases cpp with
      | none => rfl
      | some cpp => exact chainFormat_errorState hformatted hmax [] _ site
  | reset => rfl

theorem messages_shown {newer : List (Report Site)} (older : List (Report Site))
    (hnewer : newer ≠ []) (hfits : (messages newer).length ≤ rc.stored) :
    messages newer <+: rc.getErrorString (errorState rc (newer ++ older)) := by
  have hfront : messages newer <+: messages (newer ++ older) := by
    by_cases holder : older = []
    · rw [holder, List.append_nil]
    · rw [messages_append hnewer holder, List.append_assoc]
      exact List.prefix_append _ _
  obtain ⟨r, rest, hrest⟩ :=
    List.exists_cons_of_ne_nil (List.append_ne_nil_of_left_ne_nil hnewer older)
  rw [hrest] at hfront ⊢
  have hcut : messages newer <+: (messages (r :: rest) ++ places rc rest).take rc.stored :=
    List.prefix_take_iff.mpr ⟨hfront.trans (List.prefix_append _ _), hfits⟩
  exact hcut.trans (List.prefix_append _ _)

theorem record_calls (calls : List (String × Site)) (reports : List (Report Site)) :
    run (ErrorOp.record rc) reports (calls.reverse.map fun c ↦ .chain c.1.toList c.2) =
      (calls.map fun c ↦ ⟨c.1.toList, c.2⟩) ++ reports := by
  induction calls with
  | nil => rfl
  | cons c calls ih =>
    rw [List.reverse_cons, List.map_append, run_append, ih]
    rfl

theorem messages_calls {ε : Type} {f : Failure ε} {calls : List (String × Site)}
    (h : calls.map Prod.fst = f.chain) :
    messages (calls.map fun c ↦ ⟨c.1.toList, c.2⟩) = chainText f := by
  rw [messages, List.map_map, chainText, ← h, List.map_map]
  rfl

theorem run_errorState (hformatted : rc.stored ≤ rc.formatted)
    (hmax : rc.stored < maxErrorMsgLength) (reports : List (Report Site))
    (ops : List (ErrorOp Site)) : run (ErrorOp.exec rc) (errorState rc reports) ops =
      errorState rc (run (ErrorOp.record rc) reports ops) := by
  induction ops generalizing reports with
  | nil => rfl
  | cons op ops ih => rw [run_cons, run_cons, exec_errorState hformatted hmax, ih]

/-- Whatever is chained, set, looked up and reset, in whichever order: the error state is that of
the list of reports, its text cut as if only once, and the newest messages are read in full as long
as they fit. What a failing call chains is read in the order of its chain, in front of what was
there before. -/
theorem errors_read_newest_first {ε : Type} (rc : Rcutils Site)
    (hformatted : rc.stored ≤ rc.formatted) (hmax : rc.stored < maxErrorMsgLength)
    (reports : List (Report Site)) (ops : List (ErrorOp Site)) :
    let reports' := run (ErrorOp.record rc) reports ops
    run (ErrorOp.exec rc) (errorState rc reports) ops = errorState rc reports' ∧
      (∀ newer older, reports' = newer ++ older → newer ≠ [] →
        (messages newer).length ≤ rc.stored →
        messages newer <+: rc.getErrorString (errorState rc reports')) ∧
      ∀ (f : Failure ε) (calls : List (String × Site)), calls.map Prod.fst = f.chain →
        f.chain ≠ [] → (chainText f).length ≤ rc.stored →
        chainText f <+: rc.getErrorString (run (ErrorOp.exec rc) (errorState rc reports')
          (calls.reverse.map fun c ↦ .chain c.1.toList c.2)) := by
  intro reports'
  refine ⟨run_errorState hformatted hmax reports ops, ?_, ?_⟩
  · intro newer older hsplit hnewer hfits
    rw [hsplit]
    exact messages_shown older hnewer hfits
  · intro f calls hcalls hchain hfits
    have hnewer : calls.map (fun c ↦ (⟨c.1.toList, c.2⟩ : Report Site)) ≠ [] := by
      intro hnil
      rw [List.map_eq_nil_iff.mp hnil] at hcalls
      exact hchain hcalls.symm
    rw [run_errorState hformatted hmax, record_calls]
    rw [← messages_calls hcalls] at hfits ⊢
    exact messages_shown reports' hnewer hfits

def rcutils : Rcutils (String × ℕ) where
  formatted := 1023
  stored := 767
  location := fun site ↦ (", at " ++ site.1 ++ ":" ++ toString site.2).toList
  notSet := "error not set".toList

def nodeErrors : List (ErrorOp (String × ℕ)) :=
  [.chain "InternalError".toList ("impl/middleware/iceoryx2.cpp", 26),
    .chain "failed to create Handle".toList ("impl/runtime/node.cpp", 25),
    .chain "failed to construct Node".toList ("rmw/node.cpp", 104)]

theorem errors_read_newest_first_node :
    let reports' := run (ErrorOp.record rcutils) [] nodeErrors
    run (ErrorOp.exec rcutils) (errorState rcutils []) nodeErrors = errorState rcutils reports' ∧
      (∀ newer older, reports' = newer ++ older → newer ≠ [] →
        (messages newer).length ≤ rcutils.stored →
        messages newer <+: rcutils.getErrorString (errorState rcutils reports')) ∧
      ∀ (f : Failure RmwRet) (calls : List (String × (String × ℕ))),
        calls.map Prod.fst = f.chain → f.chain ≠ [] → (chainText f).length ≤ rcutils.stored →
        chainText f <+: rcutils.getErrorString (run (ErrorOp.exec rcutils)
          (errorState rcutils reports') (calls.reverse.map fun c ↦ .chain c.1.toList c.2)) :=
  errors_read_newest_first rcutils (by decide) (by decide) [] nodeErrors

end RmwIceoryx2.Common.ErrorText
