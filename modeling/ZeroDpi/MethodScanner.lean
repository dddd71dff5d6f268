/-
The engine loop of the method scan (zerodpi-core/src/method_scanner.rs).

# What is outside

What a method meets is given (`Attempt`): the seeds it is built with,
whether its interceptor opens, and what each probe answers. Whether the
listen address can be read is given too. Rates and averages are
floating-point arithmetic and a parameter.

A send to the progress channel cannot fail while its receiver lives, and the
loop does not look at whether it did. The pauses between probes and methods
are left out.
-/
import ZeroDpi.Lib.Text
import ZeroDpi.Methods.Composite

namespace ZeroDpi.MethodScanner

open Lib

/-- The `f64` operations of the scan. -/
structure Rates (F : Type) where
  zero : F
  /-- `ok as f64 * 100.0 / total as f64`. -/
  percent : Nat → Nat → F
  /-- The sum as `f64`s over the number of them. -/
  average : List Nat → F
  /-- `f64::total_cmp`. -/
  totalCmp : F → F → Ordering

variable {F : Type}

-- ================================================================= the data

/-- One sample of a method. -/
structure MethodSampleResult (F : Type) where
  ok : Bool
  tlsMs : Option Nat
  ttfbMs : Option Nat
  speedBps : Option F
  httpStatus : Option Nat
  error : Option String
  deriving DecidableEq

/-- The row of a method, over all of its samples. -/
structure MethodScanEntry (F : Type) where
  method : String
  samplesTotal : Nat
  samplesOk : Nat
  successRate : F
  avgTtfbMs : Option F
  minTtfbMs : Option Nat
  maxTtfbMs : Option Nat
  avgTlsMs : Option F
  httpStatus : Option Nat
  lastError : Option String
  deriving DecidableEq

/-- What the scan reports while it runs. -/
inductive MethodScanEvent (F : Type) where
  | methodDone (method : String) (completed : Nat) (entry : MethodScanEntry F)
  | sampleDone (method : String) (sample : Nat) (ok : Bool)
  deriving DecidableEq

-- ============================================================== aggregation

/-- `entry_from_samples`. -/
def entryFromSamples (A : Rates F) (method : String)
    (samples : List (MethodSampleResult F)) : MethodScanEntry F :=
  let total := samples.length
  let okCount := (samples.filter (·.ok)).length
  let ttfbMs := samples.filterMap (·.ttfbMs)
  let tlsMs := samples.filterMap (·.tlsMs)
  { method := method
    samplesTotal := total
    samplesOk := okCount
    successRate := if total = 0 then A.zero else A.percent okCount total
    avgTtfbMs := if ttfbMs.isEmpty then none else some (A.average ttfbMs)
    minTtfbMs := ttfbMs.min?
    maxTtfbMs := ttfbMs.max?
    avgTlsMs := if tlsMs.isEmpty then none else some (A.average tlsMs)
    httpStatus := samples.findSome? (·.httpStatus)
    lastError := samples.reverse.findSome? (·.error) }

/-- `failed_entry`. -/
def failedEntry (A : Rates F) (method : String) (samplesTotal : Nat)
    (error : String) : MethodScanEntry F where
  method := method
  samplesTotal := samplesTotal
  samplesOk := 0
  successRate := A.zero
  avgTtfbMs := none
  minTtfbMs := none
  maxTtfbMs := none
  avgTlsMs := none
  httpStatus := none
  lastError := some error

/-- The order of `rank_entries`: success rate down, average time up, the
name. -/
def rankCmp (A : Rates F) (a b : MethodScanEntry F) : Ordering :=
  let ttfb :=
    match a.avgTtfbMs, b.avgTtfbMs with
    | some x, some y => A.totalCmp x y
    | some _, none => .lt
    | none, some _ => .gt
    | none, none => .eq
  (A.totalCmp b.successRate a.successRate).then
    (ttfb.then (compare a.method b.method))

/-- `rank_entries`, a stable sort. -/
def rankEntries (A : Rates F) (entries : List (MethodScanEntry F)) :
    List (MethodScanEntry F) :=
  entries.mergeSort fun a b => (rankCmp A a b).isLE

-- ================================================================ the engine

/-- `BypassMethodList::from_delimited`. -/
def fromDelimited (input : String) : BypassMethodList :=
  ((Text.split ',' input.toList).map Text.trim).filter (!·.isEmpty)
    |>.flatMap fun name => expandMethodAlias (String.ofList name)

/-- What the scan reads of the configuration. -/
structure Setup where
  config : Config
  methodScanSamples : Nat
  /-- Whether `LISTEN_HOST:LISTEN_PORT` is a socket address. -/
  listens : Bool

/-- What a method meets. -/
structure Attempt (F : Type) where
  freshSeed : MethodName → UInt64
  /-- `interceptor_factory`. -/
  interceptor : Except String Unit
  /-- `direct_probe`, for each sample. -/
  probe : Nat → MethodSampleResult F

/-- `cfg_with_method`. -/
def cfgWithMethod (base : Config) (method : String) : Config :=
  { base with bypassMethod := fromDelimited method }

/-- The start of `run_one_method`: what it fails with, if it does. -/
def engineError (s : Setup) (env : Attempt F) (method : String) :
    Option String :=
  let cfg := cfgWithMethod s.config method
  if cfg.bypassMethod.isSocketOnly then none
  else match buildMethod cfg env.freshSeed with
    | none => some "build_method returned None"
    | some _ =>
        match env.interceptor with
        | .ok () => none
        | .error e => some ("interceptor open failed: " ++ e)

/-- The loop over the samples: what is sent, and the results. -/
def runSamples (env : Attempt F) (method : String) :
    Nat → Nat → List (MethodScanEvent F) × List (MethodSampleResult F)
  | _, 0 => ([], [])
  | i, n + 1 =>
      let result := env.probe i
      let (sent, samples) := runSamples env method (i + 1) n
      (.sampleDone method (i + 1) result.ok :: sent, result :: samples)

/-- `run_one_method`, with a progress channel: what is sent, and the entry. -/
def runOneMethod (A : Rates F) (s : Setup) (env : Attempt F) (method : String)
    (methodIndex : Nat) : List (MethodScanEvent F) × MethodScanEntry F :=
  match engineError s env method with
  | some error => ([], failedEntry A method s.methodScanSamples error)
  | none =>
      let (sent, samples) := runSamples env method 0 s.methodScanSamples
      let entry := entryFromSamples A method samples
      (sent ++ [.methodDone method (methodIndex + 1) entry], entry)

/-- The loop of `run_method_tests`, from a method on. -/
def runMethods (A : Rates F) (s : Setup) (env : Nat → Attempt F) :
    Nat → List String → List (MethodScanEvent F) × List (MethodScanEntry F)
  | _, [] => ([], [])
  | index, method :: rest =>
      let (sent, entry) := runOneMethod A s (env index) method index
      let (later, entries) := runMethods A s env (index + 1) rest
      (sent ++ later, entry :: entries)

/-- `run_method_tests`, with a progress channel: what is sent, and what is
returned. -/
def runMethodTests (A : Rates F) (s : Setup) (env : Nat → Attempt F)
    (methods : List String) :
    List (MethodScanEvent F) × Except String (List (MethodScanEntry F)) :=
  if s.listens then
    let (sent, entries) := runMethods A s env 0 methods
    (sent, .ok (rankEntries A entries))
  else ([], .error "invalid LISTEN_HOST/LISTEN_PORT")

end ZeroDpi.MethodScanner
