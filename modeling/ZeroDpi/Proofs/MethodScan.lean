/-
What a method scan says of its progress.

The scan returns one entry for each method, in ranked order
(`runMethodTests_entries`). A method whose engine could not start leaves
`run_one_method` before it sends that it is done, so the events tell of all
methods exactly when every engine could be started (`progress_complete_iff`).
-/
import ZeroDpi.MethodScanner

namespace ZeroDpi.MethodScanner

open Lib

variable {F : Type} {A : Rates F} {s : Setup} {env : Nat → Attempt F}

-- ============================================================== the property

/-- The events of the samples of a method. -/
def sampleEvents (env : Attempt F) (method : String) (n : Nat) :
    List (MethodScanEvent F) :=
  (List.range' 0 n).map fun k => .sampleDone method (k + 1) (env.probe k).ok

/-- What is sent of a method: its samples where its engine could be started,
and that it is done. -/
def methodEvents (s : Setup) (env : Nat → Attempt F)
    (entry : MethodScanEntry F) (index : Nat) : List (MethodScanEvent F) :=
  (if engineError s (env index) entry.method = none then
    sampleEvents (env index) entry.method s.methodScanSamples else [])
  ++ [.methodDone entry.method (index + 1) entry]

/-- One entry for each method is returned, and for each method it is sent
that it is done, with its entry and their number so far. -/
def Complete (s : Setup) (env : Nat → Attempt F) (methods : List String)
    (result : List (MethodScanEvent F)
      × Except String (List (MethodScanEntry F))) : Prop :=
  ∃ entries : List (MethodScanEntry F), entries.map (·.method) = methods
    ∧ (∃ ranked, result.2 = .ok ranked ∧ ranked.Perm entries)
    ∧ result.1 = entries.zipIdx.flatMap fun (entry, i) => methodEvents s env entry i

/-- The engine of a method can be started. -/
def Starts (s : Setup) (env : Attempt F) (method : String) : Prop :=
  (fromDelimited method).isSocketOnly = true
    ∨ ((buildMethod (cfgWithMethod s.config method) env.freshSeed).isSome = true
      ∧ env.interceptor = .ok ())

theorem engineError_eq_none_iff (s : Setup) (env : Attempt F) (method : String) :
    engineError s env method = none ↔ Starts s env method := by
  unfold engineError Starts
  have hlist : (cfgWithMethod s.config method).bypassMethod
      = fromDelimited method := rfl
  simp only [hlist]
  cases hsocket : (fromDelimited method).isSocketOnly with
  | true => simp
  | false =>
      cases hbuilt : buildMethod (cfgWithMethod s.config method) env.freshSeed with
      | none => simp
      | some m =>
          cases hopened : env.interceptor with
          | ok u => simp
          | error e => simp

-- ================================================================ one method

theorem runSamples_sent (env : Attempt F) (method : String) (i n : Nat) :
    (runSamples env method i n).1
      = (List.range' i n).map fun k => .sampleDone method (k + 1)
          (env.probe k).ok := by
  induction n generalizing i with
  | zero => rfl
  | succ n ih =>
      rw [runSamples, List.range'_succ, List.map_cons, ← ih]

/-- A method has an entry of its name, whether its engine starts or not. -/
theorem runOneMethod_method (env : Attempt F) (method : String) (index : Nat) :
    (runOneMethod A s env method index).2.method = method := by
  unfold runOneMethod
  cases engineError s env method with
  | some error => rfl
  | none => rfl

theorem runOneMethod_started {env : Attempt F} {method : String} {index : Nat}
    (h : engineError s env method = none) :
    (runOneMethod A s env method index).1
      = sampleEvents env method s.methodScanSamples
        ++ [.methodDone method (index + 1) (runOneMethod A s env method index).2] := by
  unfold runOneMethod
  rw [h]
  show (runSamples env method 0 s.methodScanSamples).1 ++ _ = _
  rw [runSamples_sent]
  rfl

theorem runOneMethod_failed {env : Attempt F} {method error : String}
    {index : Nat} (h : engineError s env method = some error) :
    (runOneMethod A s env method index).1 = [] := by
  unfold runOneMethod
  rw [h]

-- ================================================================ the methods

theorem runMethods_methods (index : Nat) (methods : List String) :
    (runMethods A s env index methods).2.map (·.method) = methods := by
  induction methods generalizing index with
  | nil => rfl
  | cons method rest ih =>
      show (runOneMethod A s (env index) method index).2.method
        :: (runMethods A s env (index + 1) rest).2.map (·.method) = _
      rw [runOneMethod_method, ih]

/-- Where every engine starts, what is sent is what the entries say. -/
theorem runMethods_sent {index : Nat} {methods : List String}
    (h : ∀ p ∈ methods.zipIdx index, engineError s (env p.2) p.1 = none) :
    (runMethods A s env index methods).1
      = ((runMethods A s env index methods).2.zipIdx index).flatMap
          fun (entry, i) => methodEvents s env entry i := by
  induction methods generalizing index with
  | nil => rfl
  | cons method rest ih =>
      rw [List.zipIdx_cons] at h
      have hone := h (method, index) List.mem_cons_self
      have hrest := ih fun p hp => h p (List.mem_cons_of_mem _ hp)
      have hname : (runOneMethod A s (env index) method index).2.method = method :=
        runOneMethod_method (env index) method index
      show (runOneMethod A s (env index) method index).1
          ++ (runMethods A s env (index + 1) rest).1
        = (((runOneMethod A s (env index) method index).2
            :: (runMethods A s env (index + 1) rest).2).zipIdx index).flatMap _
      rw [List.zipIdx_cons, List.flatMap_cons, ← hrest, runOneMethod_started hone]
      simp only [methodEvents, hname, hone, if_true]

/-- An event that says that a method is done. -/
def isDone : MethodScanEvent F → Bool
  | .methodDone .. => true
  | .sampleDone .. => false

theorem countP_sampleEvents (env : Attempt F) (method : String) (n : Nat) :
    (sampleEvents env method n).countP isDone = 0 := by
  simp [sampleEvents, List.countP_eq_zero, isDone]

/-- As many methods are said to be done as engines could be started. -/
theorem runMethods_done (index : Nat) (methods : List String) :
    (runMethods A s env index methods).1.countP isDone
      = (methods.zipIdx index).countP
          fun p => (engineError s (env p.2) p.1).isNone := by
  induction methods generalizing index with
  | nil => rfl
  | cons method rest ih =>
      show ((runOneMethod A s (env index) method index).1
        ++ (runMethods A s env (index + 1) rest).1).countP isDone = _
      rw [List.countP_append, ih, List.zipIdx_cons, List.countP_cons,
        Nat.add_comm]
      congr 1
      cases herror : engineError s (env index) method with
      | none =>
          rw [runOneMethod_started herror, List.countP_append,
            countP_sampleEvents]
          rfl
      | some error =>
          rw [runOneMethod_failed herror]
          rfl

theorem countP_methodEvents (entries : List (MethodScanEntry F)) (index : Nat) :
    ((entries.zipIdx index).flatMap
        fun (entry, i) => methodEvents s env entry i).countP isDone
      = entries.length := by
  induction entries generalizing index with
  | nil => rfl
  | cons entry rest ih =>
      have hone : (methodEvents s env entry index).countP isDone = 1 := by
        unfold methodEvents
        rw [List.countP_append]
        split
        · rw [countP_sampleEvents]
          rfl
        · rfl
      rw [List.zipIdx_cons, List.flatMap_cons, List.countP_append, hone, ih,
        List.length_cons, Nat.add_comm]

-- ================================================================== the scan

/-- Whatever the engines do, one entry for each method is returned. -/
theorem runMethodTests_entries (methods : List String) (h : s.listens = true) :
    ∃ entries, (runMethodTests A s env methods).2 = .ok entries
      ∧ (entries.map (·.method)).Perm methods := by
  unfold runMethodTests
  rw [if_pos h]
  refine ⟨_, rfl, ?_⟩
  have hranked : (rankEntries A (runMethods A s env 0 methods).2).Perm _ :=
    List.mergeSort_perm _ _
  have hnames := hranked.map (·.method)
  rwa [runMethods_methods] at hnames

/-- The progress of a scan is complete if and only if the listen address is
one and the engine of every method can be started. -/
theorem progress_complete_iff (A : Rates F) (s : Setup) (env : Nat → Attempt F)
    (methods : List String) :
    Complete s env methods (runMethodTests A s env methods)
      ↔ s.listens = true
        ∧ ∀ p ∈ methods.zipIdx, Starts s (env p.2) p.1 := by
  unfold runMethodTests
  constructor
  · rintro ⟨entries, hnames, ⟨ranked, hok, -⟩, hsent⟩
    by_cases hlistens : s.listens = true
    · refine ⟨hlistens, ?_⟩
      rw [if_pos hlistens] at hsent
      have hcount := congrArg (List.countP isDone) hsent
      rw [countP_methodEvents, runMethods_done] at hcount
      have hlength : entries.length = methods.zipIdx.length := by
        rw [List.length_zipIdx, ← hnames, List.length_map]
      rw [hlength, List.countP_eq_length] at hcount
      intro p hp
      refine (engineError_eq_none_iff s (env p.2) p.1).mp ?_
      simpa using hcount p hp
    · rw [if_neg hlistens] at hok
      cases hok
  · rintro ⟨hlistens, hstarts⟩
    rw [if_pos hlistens]
    have hstarted : ∀ p ∈ methods.zipIdx 0, engineError s (env p.2) p.1 = none :=
      fun p hp => (engineError_eq_none_iff s (env p.2) p.1).mpr (hstarts p hp)
    exact ⟨(runMethods A s env 0 methods).2, runMethods_methods 0 methods,
      ⟨_, rfl, List.mergeSort_perm _ _⟩, runMethods_sent hstarted⟩

/-- A probe that answered. -/
def sample : MethodSampleResult Unit := ⟨true, some 1, some 1, none, some 200, none⟩

/-- Rates that do not matter. -/
def unitRates : Rates Unit := ⟨(), fun _ _ => (), fun _ => (), fun _ _ => .eq⟩

/-- An interceptor that is refused. -/
def refused : Attempt Unit :=
  ⟨fun _ => 0, .error "Operation not permitted", fun _ => sample⟩

/-- One sample of each method. -/
def oneSample : Setup := ⟨{}, 1, true⟩

/-- No interceptor opens: an entry is returned, and nothing is sent. -/
theorem refused_interceptor_is_not_done :
    (runMethodTests unitRates oneSample (fun _ => refused) ["wrong_seq"]).1 = []
      ∧ (∃ entries, (runMethodTests unitRates oneSample (fun _ => refused)
          ["wrong_seq"]).2 = .ok entries
        ∧ (entries.map (·.method)).Perm ["wrong_seq"])
      ∧ ¬ Complete oneSample (fun _ => refused) ["wrong_seq"]
        (runMethodTests unitRates oneSample (fun _ => refused) ["wrong_seq"]) := by
  have hsent : (runMethodTests unitRates oneSample (fun _ => refused)
      ["wrong_seq"]).1 = [] := by decide
  refine ⟨hsent, runMethodTests_entries ["wrong_seq"] rfl, ?_⟩
  rintro ⟨entries, hnames, -, hevents⟩
  have hcount := congrArg (List.countP isDone) hevents
  rw [countP_methodEvents, hsent] at hcount
  have hlength := congrArg List.length hnames
  rw [List.length_map, ← hcount] at hlength
  cases hlength

end ZeroDpi.MethodScanner
