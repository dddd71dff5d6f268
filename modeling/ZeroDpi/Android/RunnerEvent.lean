/-
The events of a runner (runtime/ZeroDpiRunner.kt) and the parser of the
lines that the program prints (runtime/RuntimeEventLineParser.kt).

The parser looks for the text of a key. Where the source has an index into
the line, there is the text from that index on. An escape of half a
surrogate pair is read as U+FFFD.
-/
import ZeroDpi.Lib.Kotlin

namespace ZeroDpi.Android

open Lib

/-- `ZeroDpiRunnerEvent`: what the runner tells the service. -/
inductive ZeroDpiRunnerEvent where
  | starting
  | rootHelperStarting
  | rootHelperAuthenticated (pid uid : Int)
  | dataPlaneStarted (pid uid : Int)
  | firewallCleanup (completed : Bool)
  | configLoaded (mode bypassMethod listenHost : String) (listenPort : Int)
      (rootRequired : Bool)
  | scanStarted (scan : String) (total : Option Int)
  | scanProgress (scan : String) (phase : Option String) (completed : Int)
      (total : Option Int) (sni ip : Option String) (score : Option Int)
  | scanCompleted (scan : String) (results : Int)
  | nextScanScheduled (scan : String) (intervalSeconds : Int)
  | rescanStarted (scan : String)
  | rescanFinished (scan : String) (found : Int) (bestScore : Option Int)
      (durationMs : Int) (switched : Bool)
  | selectedTarget (target : String) (sni : Option String) (ip : String)
      (score : Option Int)
  | listenerStarted (mode listenAddress : String)
  | connectionAccepted (peer : String) (sourcePort : Int)
  | bypassFinished (sourcePort : Int) (status : String)
  | relayBytes (sourcePort clientToServerBytes serverToClientBytes : Int)
      (isFinal : Bool)
  | activeTargetChanged (target : String) (sni : Option String) (ip : String)
      (score : Option Int)
  | networkUnavailable (message : String)
  | networkChanged (source interfaceIp : String)
  | networkRecoveryFailed (attempt nextRetryMs : Int) (message : String)
  | networkRecovered (interfaceIp : String)
      (targetVerified targetSwitched : Bool)
  | rootRequired (message : String) (alternatives : List String)
  | fatalError (message : String)
  | gracefulShutdown (reason : String)
  | log (message : String)
  | failed (message : String)
  | exited (exitCode : Int)
  | stopTimedOut
  deriving DecidableEq

namespace RuntimeEventLineParser

-- =========================================================== the key search

/-- `\s` of a regular expression. -/
def isSpace (c : Char) : Bool :=
  let n := c.toNat
  n = 0x09 || n = 0x0A || n = 0x0C || n = 0x0D || n = 0x20 || n = 0xA0
    || n = 0x1680 || (0x2000 ≤ n && n ≤ 0x200A) || n = 0x2028 || n = 0x2029
    || n = 0x202F || n = 0x205F || n = 0x3000

/-- The quoted key, blanks and a colon at the front of a text. -/
def matchKey (key : List Char) (s : List Char) : Option (List Char) :=
  (Text.stripPrefix ('"' :: (key ++ ['"'])) s).bind fun rest =>
    match rest.dropWhile isSpace with
    | ':' :: rest => some rest
    | _ => none

/-- `keyPattern.find`: the text behind the first match. -/
def findKey (key : List Char) : List Char → Option (List Char)
  | [] => none
  | c :: rest =>
      match matchKey key (c :: rest) with
      | some found => some found
      | none => findKey key rest

/-- Behind a colon. -/
def skipWhitespace (s : List Char) : List Char :=
  s.dropWhile Kotlin.isWhitespace

/-- Where the value of a key starts; the line is searched as text. -/
def valueStart (json : List Char) (key : String) : Option (List Char) :=
  (findKey key.toList json).map skipWhitespace

-- ================================================================ the values

/-- `startsWith`. -/
def startsWith (pre s : List Char) : Bool := pre.isPrefixOf s

/-- `Character.digit(c, 16)`. -/
def hexDigit? (c : Char) : Option Nat :=
  let n := c.toNat
  if 0x61 ≤ n && n ≤ 0x66 then some (n - 0x57)
  else if 0x41 ≤ n && n ≤ 0x46 then some (n - 0x37)
  else if 0xFF41 ≤ n && n ≤ 0xFF46 then some (n - 0xFF37)
  else if 0xFF21 ≤ n && n ≤ 0xFF26 then some (n - 0xFF17)
  else Kotlin.digit? c

/-- `toIntOrNull(16)`, of four characters. -/
def hexValue? (s : List Char) : Option Int :=
  let digits (s : List Char) : Option Nat :=
    s.foldlM (fun n c => (hexDigit? c).map fun d => n * 16 + d) 0
  match s with
  | '-' :: rest => (digits rest).map fun n => -(n : Int)
  | '+' :: rest => (digits rest).map fun n => (n : Int)
  | s => (digits s).map fun n => (n : Int)

/-- `Int.toChar`. -/
def toChar (code : Int) : Char :=
  let n := (code % 2 ^ 16).toNat
  if n.isValidChar then Char.ofNat n else Char.ofNat 0xFFFD

/-- The characters that stand behind a backslash. -/
def unescape? : Char → Option Char
  | '"' => some '"'
  | '\\' => some '\\'
  | '/' => some '/'
  | 'b' => some (Char.ofNat 0x08)
  | 'f' => some (Char.ofNat 0x0C)
  | 'n' => some '\n'
  | 'r' => some '\r'
  | 't' => some '\t'
  | _ => none

/-- A string from behind its quote on, and what is behind it. -/
def parseString : List Char → Option (List Char × List Char)
  | [] => none
  | '"' :: rest => some ([], rest)
  | '\\' :: 'u' :: a :: b :: c :: d :: rest =>
      (hexValue? [a, b, c, d]).bind fun code =>
        (parseString rest).map fun (value, next) => (toChar code :: value, next)
  | '\\' :: e :: rest =>
      (unescape? e).bind fun char =>
        (parseString rest).map fun (value, next) => (char :: value, next)
  | ['\\'] => none
  | c :: rest => (parseString rest).map fun (value, next) => (c :: value, next)

/-- The word. -/
def null : List Char := ['n', 'u', 'l', 'l']

/-- The string that starts here. -/
def stringAt (start : List Char) : Option String :=
  if startsWith null start then none
  else match start with
    | '"' :: rest => (parseString rest).map fun (value, _) => String.ofList value
    | _ => none

/-- The string of a key. -/
def stringValue (json : List Char) (key : String) : Option String :=
  (valueStart json key).bind stringAt

/-- The loop of `stringArrayValue`; `fuel` is the rest of the line. -/
def stringsFrom : Nat → List Char → List String
  | 0, _ => []
  | fuel + 1, s =>
      match skipWhitespace s with
      | ',' :: rest => stringsFrom fuel rest
      | '"' :: rest =>
          match parseString rest with
          | none => []
          | some (value, next) => String.ofList value :: stringsFrom fuel next
      | _ => []

/-- The list of strings that starts here. -/
def stringsAt : List Char → List String
  | '[' :: rest => stringsFrom rest.length rest
  | _ => []

/-- The list of a key, empty if there is none. -/
def stringArrayValue (json : List Char) (key : String) : List String :=
  ((valueStart json key).map stringsAt).getD []

/-- The sign and the digits at the front of a text. -/
def numeral : List Char → List Char
  | '-' :: rest => '-' :: rest.takeWhile Kotlin.isDigit
  | s => s.takeWhile Kotlin.isDigit

/-- The number that starts here. -/
def longAt (start : List Char) : Option Int :=
  if startsWith null start then none
  else
    let digits := numeral start
    if digits.isEmpty || digits = ['-'] then none
    else Kotlin.toLongOrNull digits

/-- The number of a key. -/
def longValue (json : List Char) (key : String) : Option Int :=
  (valueStart json key).bind longAt

/-- The boolean that starts here. -/
def boolAt (start : List Char) : Option Bool :=
  if startsWith ['t', 'r', 'u', 'e'] start then some true
  else if startsWith ['f', 'a', 'l', 's', 'e'] start then some false
  else none

/-- The boolean of a key. -/
def boolValue (json : List Char) (key : String) : Option Bool :=
  (valueStart json key).bind boolAt

-- ================================================================= the parser

/-- `Long.toInt`. -/
def toInt (n : Int) : Int := n.bmod (2 ^ 32)

/-- The values of a line by their keys. -/
structure Reader where
  string : String → Option String
  long : String → Option Int
  bool : String → Option Bool
  strings : String → List String

/-- The readers, on a line. -/
def reader (json : List Char) : Reader where
  string := stringValue json
  long := longValue json
  bool := boolValue json
  strings := stringArrayValue json

/-- `orEmpty`. -/
def orEmpty (s : Option String) : String := s.getD ""

/-- `?.toInt() ?: 0`. -/
def intOr0 (n : Option Int) : Int := (n.map toInt).getD 0

/-- What an event's name makes of the values. -/
def event (json : List Char) (r : Reader) : Option ZeroDpiRunnerEvent :=
  match r.string "event" with
  | some "startup" => some (.log ("ZeroDPI " ++ orEmpty (r.string "version")
      ++ " started with pid " ++ ((r.long "pid").map toString).getD "unknown"
      ++ " and uid " ++ ((r.long "uid").map toString).getD "unknown" ++ "."))
  | some "helper_authenticated" => some (.rootHelperAuthenticated
      ((r.long "pid").getD 0) ((r.long "uid").getD 0))
  | some "config_loaded" => some (.configLoaded (orEmpty (r.string "mode"))
      (orEmpty (r.string "bypass_method")) (orEmpty (r.string "listen_host"))
      (intOr0 (r.long "listen_port")) ((r.bool "root_required").getD false))
  | some "scan_started" => some (.scanStarted (orEmpty (r.string "scan"))
      ((r.long "total").map toInt))
  | some "scan_progress" => some (.scanProgress (orEmpty (r.string "scan"))
      (r.string "phase") (intOr0 (r.long "completed"))
      ((r.long "total").map toInt) (r.string "sni") (r.string "ip")
      ((r.long "score").map toInt))
  | some "scan_completed" => some (.scanCompleted (orEmpty (r.string "scan"))
      (intOr0 (r.long "results")))
  | some "next_scan_scheduled" => some (.nextScanScheduled
      (orEmpty (r.string "scan")) ((r.long "interval_secs").getD 0))
  | some "rescan_started" => some (.rescanStarted (orEmpty (r.string "scan")))
  | some "rescan_finished" => some (.rescanFinished (orEmpty (r.string "scan"))
      (intOr0 (r.long "found")) ((r.long "best_score").map toInt)
      ((r.long "duration_ms").getD 0) ((r.bool "switched").getD false))
  | some "selected_target" => some (.selectedTarget
      (orEmpty (r.string "target")) (r.string "sni") (orEmpty (r.string "ip"))
      ((r.long "score").map toInt))
  | some "listener_started" => some (.listenerStarted
      (orEmpty (r.string "mode")) (orEmpty (r.string "listen_addr")))
  | some "connection_accepted" => some (.connectionAccepted
      (orEmpty (r.string "peer")) (intOr0 (r.long "src_port")))
  | some "bypass_finished" => some (.bypassFinished
      (intOr0 (r.long "src_port")) (orEmpty (r.string "status")))
  | some "relay_bytes" => some (.relayBytes (intOr0 (r.long "src_port"))
      ((r.long "c2s_bytes").getD 0) ((r.long "s2c_bytes").getD 0)
      ((r.bool "final").getD false))
  | some "active_target_changed" => some (.activeTargetChanged
      (orEmpty (r.string "target")) (r.string "sni") (orEmpty (r.string "ip"))
      ((r.long "score").map toInt))
  | some "network_unavailable" => some (.networkUnavailable
      (orEmpty (r.string "message")))
  | some "network_changed" => some (.networkChanged
      (orEmpty (r.string "source")) (orEmpty (r.string "interface_ip")))
  | some "network_recovery_failed" => some (.networkRecoveryFailed
      (intOr0 (r.long "attempt")) ((r.long "next_retry_ms").getD 0)
      (orEmpty (r.string "message")))
  | some "network_recovered" => some (.networkRecovered
      (orEmpty (r.string "interface_ip"))
      ((r.bool "target_verified").getD false)
      ((r.bool "target_switched").getD false))
  | some "root_required" => some (.rootRequired (orEmpty (r.string "message"))
      (r.strings "rootless_alternatives"))
  | some "fatal_error" => some (.fatalError (orEmpty (r.string "message")))
  | some "graceful_shutdown" => some (.gracefulShutdown
      (orEmpty (r.string "reason")))
  | none => none
  | some _ => some (.log (String.ofList json))

/-- A line in braces. -/
def isObject (json : List Char) : Bool :=
  json.head? = some '{' && json.getLast? = some '}'

/-- `parse`: a line in braces is an event, if its type is known. -/
def parse (line : List Char) : Option ZeroDpiRunnerEvent :=
  let json := Kotlin.trim line
  if isObject json then event json (reader json) else none

/-- `startupIdentity`: the process and its user. -/
def startupIdentity (line : List Char) : Option (Int × Int) :=
  let json := Kotlin.trim line
  if !isObject json || stringValue json "event" ≠ some "startup" then none
  else do
    let pid ← longValue json "pid"
    let uid ← longValue json "uid"
    return (pid, uid)

end RuntimeEventLineParser

end ZeroDpi.Android
