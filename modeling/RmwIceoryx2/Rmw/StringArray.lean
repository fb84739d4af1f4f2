import RmwIceoryx2.Common.Error
import Mathlib.Data.Int.Notation
import Mathlib.Data.List.Basic

namespace RmwIceoryx2.Rmw

open RmwIceoryx2.Common

/-- `rcutils_allocator_t`, by which of its pointers are set. -/
structure Allocator where
  allocate : Bool
  deallocate : Bool
  reallocate : Bool
  zeroAllocate : Bool
  state : Bool
  deriving DecidableEq, Repr

/-- `rcutils_string_array_t`; `none` stands for a null pointer, also as an entry of `data`. -/
structure StringArray where
  size : ℕ
  data : Option (List (Option String))
  allocator : Allocator
  deriving DecidableEq, Repr

/-- `rmw_names_and_types_t`: `types` points to the first of some string arrays, if it is set. -/
structure NamesAndTypes where
  names : StringArray
  types : Option (List StringArray)
  deriving DecidableEq, Repr

inductive RcutilsRet
  | ok | error | badAlloc | invalidArgument
  deriving DecidableEq, Repr

/-- What the functions of rcutils and rmw answer; those that allocate are told which of the calls
it is. -/
structure Rcutils where
  allocatorIsValid : Allocator → Bool
  getDefaultAllocator : Allocator
  stringArrayInit : ℕ → StringArray → ℕ → Allocator → RcutilsRet × StringArray
  stringArrayCmp : Option StringArray → Option StringArray → RcutilsRet × ℤ
  namesAndTypesInit : NamesAndTypes → ℕ → Allocator → RmwRet × NamesAndTypes
  strdup : ℕ → String → Option String
  convertRet : RcutilsRet → RmwRet
  errorString : String

inductive MemoryFault
  | outOfBounds | indexOverflow
  deriving DecidableEq, Repr

def zeroAllocator : Allocator := ⟨false, false, false, false, false⟩

def zeroStringArray : StringArray := ⟨0, none, zeroAllocator⟩

def zeroNamesAndTypes : NamesAndTypes := ⟨zeroStringArray, none⟩

/-- `RMW_IOX2_ENSURE_ZERO_STRING_ARRAY` fails without a message. -/
def ensureZeroStringArray {ε : Type} (returnValue : ε) (arr : StringArray) :
    Except (Failure ε) Unit :=
  if arr.size ≠ 0 || arr.data.isSome || arr.allocator.allocate || arr.allocator.deallocate ||
      arr.allocator.reallocate || arr.allocator.zeroAllocate || arr.allocator.state then
    .error ⟨returnValue, []⟩
  else .ok ()

namespace StringArray

def entries (arr : StringArray) : List (Option String) := arr.data.getD []

def write (arr : StringArray) (index : ℕ) (s : Option String) : Except MemoryFault StringArray :=
  match arr.data with
  | none => .error .outOfBounds
  | some data =>
    if index < data.length then .ok { arr with data := some (data.set index s) }
    else .error .outOfBounds

theorem write_eq_ok {arr arr' : StringArray} {index : ℕ} {s : Option String} :
    arr.write index s = .ok arr' ↔ index < arr.entries.length ∧
      arr' = { arr with data := some (arr.entries.set index s) } := by
  obtain ⟨size, data, allocator⟩ := arr
  cases data with
  | none => simp [write, entries]
  | some data => by_cases h : index < data.length <;> simp [write, entries, h, eq_comm]

end StringArray

/-- What is left of two arrays that are filled side by side. -/
structure Filled where
  ret : RmwRet
  chain : List String
  first : StringArray
  second : StringArray
  deriving DecidableEq, Repr

variable {α : Type} {rc : Rcutils} {first second : α → String} {firstMsg secondMsg : String}
  {indexMax : ℕ}

/-- The loop that copies two texts for each entry into two arrays, with an index of a type whose
largest value is `indexMax`. -/
def fillPair (rc : Rcutils) (first second : α → String) (firstMsg secondMsg : String)
    (indexMax : ℕ) : ℕ → List α → StringArray → StringArray → Except MemoryFault Filled
  | _, [], a, b => .ok ⟨.ok, [], a, b⟩
  | index, e :: es, a, b => do
    let copy := rc.strdup (2 * index) (first e)
    let a ← a.write index copy
    if copy.isNone then .ok ⟨.badAlloc, [firstMsg], a, b⟩
    else do
      let copy := rc.strdup (2 * index + 1) (second e)
      let b ← b.write index copy
      if copy.isNone then .ok ⟨.badAlloc, [secondMsg], a, b⟩
      else if index = indexMax then .error .indexOverflow
      else fillPair rc first second firstMsg secondMsg indexMax (index + 1) es a b

/-- The documented behaviour of these functions, where they succeed: arrays are as long as requested
with no entry set, and a null pointer is not compared. -/
structure Rcutils.Documented (rc : Rcutils) : Prop where
  copies : ∀ call s t, rc.strdup call s = some t → t = s
  stringArrayInit : ∀ call arr n allocator, (rc.stringArrayInit call arr n allocator).1 = .ok →
    (rc.stringArrayInit call arr n allocator).2.size = n ∧
      (rc.stringArrayInit call arr n allocator).2.entries = List.replicate n none
  stringArrayCmp : ∀ rhs, (rc.stringArrayCmp none rhs).1 ≠ .ok
  namesAndTypesInit : ∀ out n allocator, (rc.namesAndTypesInit out n allocator).1 = .ok →
    (rc.namesAndTypesInit out n allocator).2.names.size = n ∧
      (rc.namesAndTypesInit out n allocator).2.names.entries = List.replicate n none ∧
        (rc.namesAndTypesInit out n allocator).2.types = some (List.replicate n zeroStringArray)
  convertRet : ∀ ret, rc.convertRet ret = .ok → ret = .ok

theorem fillPair_cons {index : ℕ} {e : α} {es : List α} {a b : StringArray} {r : Filled}
    (hrc : rc.Documented) (hret : r.ret = .ok)
    (h : fillPair rc first second firstMsg secondMsg indexMax index (e :: es) a b = .ok r) :
    index < a.entries.length ∧ index < b.entries.length ∧
      fillPair rc first second firstMsg secondMsg indexMax (index + 1) es
        { a with data := some (a.entries.set index (some (first e))) }
        { b with data := some (b.entries.set index (some (second e))) } = .ok r := by
  simp only [fillPair, bind_eq_ok, StringArray.write_eq_ok] at h
  obtain ⟨a', ⟨hindex, rfl⟩, h⟩ := h
  cases hcopy : rc.strdup (2 * index) (first e) with
  | none =>
    simp only [hcopy, Option.isNone_none, if_true, Except.ok.injEq] at h
    rw [← h] at hret
    cases hret
  | some t =>
    obtain rfl := hrc.copies _ _ _ hcopy
    simp only [hcopy, Option.isNone_some, Bool.false_eq_true, if_false, bind_eq_ok,
      StringArray.write_eq_ok] at h
    obtain ⟨b', ⟨hindex', rfl⟩, h⟩ := h
    cases hcopy' : rc.strdup (2 * index + 1) (second e) with
    | none =>
      simp only [hcopy', Option.isNone_none, if_true, Except.ok.injEq] at h
      rw [← h] at hret
      cases hret
    | some t =>
      obtain rfl := hrc.copies _ _ _ hcopy'
      simp only [hcopy', Option.isNone_some, Bool.false_eq_true, if_false] at h
      split at h
      · cases h
      · exact ⟨hindex, hindex', h⟩

theorem write_then_fill {l : List (Option String)} {index : ℕ} (s : Option String)
    (texts : List (Option String)) (h : index < l.length) :
    (l.set index s).take (index + 1) ++ texts ++ (l.set index s).drop (index + 1 + texts.length) =
      l.take index ++ s :: texts ++ l.drop (index + (s :: texts).length) := by
  have htake : (l.set index s).take (index + 1) = l.take index ++ [s] := by
    rw [List.set_eq_take_append_cons_drop, if_pos h, List.take_append, List.length_take]
    rw [List.take_of_length_le (by rw [List.length_take]; omega)]
    have hone : index + 1 - min index l.length = 1 := by omega
    rw [hone, List.take_succ_cons, List.take_zero]
  have hdrop : (l.set index s).drop (index + 1 + texts.length) =
      l.drop (index + (s :: texts).length) := by
    rw [List.drop_set_of_lt (by omega), List.length_cons]
    congr 1
    omega
  rw [htake, hdrop, List.append_assoc (l.take index), List.singleton_append]

/-- A loop that ends well leaves the copies at the places it went through. -/
theorem fillPair_filled {es : List α} {index : ℕ} {a b : StringArray} {r : Filled}
    (hrc : rc.Documented) (hret : r.ret = .ok)
    (h : fillPair rc first second firstMsg secondMsg indexMax index es a b = .ok r) :
    (r.first.size = a.size ∧ r.first.entries = a.entries.take index ++
        es.map (fun e ↦ some (first e)) ++ a.entries.drop (index + es.length)) ∧
      r.second.size = b.size ∧ r.second.entries = b.entries.take index ++
        es.map (fun e ↦ some (second e)) ++ b.entries.drop (index + es.length) := by
  induction es generalizing index a b with
  | nil =>
    rw [fillPair, Except.ok.injEq] at h
    subst h
    simp
  | cons e es ih =>
    obtain ⟨hindex, hindex', h⟩ := fillPair_cons hrc hret h
    obtain ⟨⟨hsize, hentries⟩, hsize', hentries'⟩ := ih h
    refine ⟨⟨hsize, ?_⟩, hsize', ?_⟩
    · rw [hentries, List.map_cons]
      have hfilled := write_then_fill (some (first e)) (es.map fun e ↦ some (first e))
        hindex
      simpa only [StringArray.entries, Option.getD_some, List.length_map, List.length_cons] using
        hfilled
    · rw [hentries', List.map_cons]
      have hfilled := write_then_fill (some (second e)) (es.map fun e ↦ some (second e))
        hindex'
      simpa only [StringArray.entries, Option.getD_some, List.length_map, List.length_cons] using
        hfilled

theorem fillPair_all {es : List α} {a b : StringArray} {r : Filled} (hrc : rc.Documented)
    (hret : r.ret = .ok) (ha : a.entries.length = es.length) (hb : b.entries.length = es.length)
    (h : fillPair rc first second firstMsg secondMsg indexMax 0 es a b = .ok r) :
    (r.first.size = a.size ∧ r.first.entries = es.map fun e ↦ some (first e)) ∧
      r.second.size = b.size ∧ r.second.entries = es.map fun e ↦ some (second e) := by
  obtain ⟨⟨hsize, hentries⟩, hsize', hentries'⟩ := fillPair_filled hrc hret h
  rw [List.drop_of_length_le (by omega), List.append_nil, List.take_zero, List.nil_append]
    at hentries hentries'
  exact ⟨⟨hsize, hentries⟩, hsize', hentries'⟩

def hostAllocator : Allocator := ⟨true, true, true, true, false⟩

def hostRcutils : Rcutils where
  allocatorIsValid allocator := allocator = hostAllocator
  getDefaultAllocator := hostAllocator
  stringArrayInit _ _ n allocator := (.ok, ⟨n, some (List.replicate n none), allocator⟩)
  stringArrayCmp lhs rhs :=
    match lhs, rhs with
    | some lhs, some rhs => (.ok, (lhs.entries.length : ℤ) - rhs.entries.length)
    | _, _ => (.invalidArgument, 0)
  namesAndTypesInit _ n allocator :=
    (.ok, ⟨⟨n, some (List.replicate n none), allocator⟩, some (List.replicate n zeroStringArray)⟩)
  strdup _ s := some s
  convertRet ret :=
    match ret with
    | .ok => .ok
    | .error => .error
    | .badAlloc => .badAlloc
    | .invalidArgument => .invalidArgument
  errorString := ""

theorem hostRcutils_documented : hostRcutils.Documented where
  copies _ _ _ h := (Option.some_inj.mp h).symm
  stringArrayInit _ _ _ _ _ := ⟨rfl, rfl⟩
  stringArrayCmp _ := by simp [hostRcutils]
  namesAndTypesInit _ _ _ _ := ⟨rfl, rfl, rfl⟩
  convertRet ret h := by cases ret <;> simp_all [hostRcutils]

end RmwIceoryx2.Rmw
