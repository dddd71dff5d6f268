/-
What the SNI scanner can find: entries of hosts its list names, and, if
the network wants it so, of any one of them.

A list without repeated entries is put together from lines of the original
and split again. The lines come out as they were (`Pieces.split_flatten`),
so its hosts are among the original ones, and for every host there is one
that differs in case at most.
-/
import ZeroDpi.Lib.Run
import ZeroDpi.SniScanner

namespace ZeroDpi.SniScanner

open Lib

variable {Bps : Type}

-- ================================================================ the list

theorem keepFirst_sublist (entryKey : List Char → Option (List Char))
    (seen pieces : List (List Char)) :
    (keepFirst entryKey seen pieces).Sublist pieces := by
  induction pieces generalizing seen with
  | nil => exact List.Sublist.refl _
  | cons piece rest ih =>
      unfold keepFirst
      split
      case isTrue =>
        split
        case h_1 => exact (ih seen).cons_cons piece
        case h_2 =>
          split
          case isTrue => exact (ih seen).cons piece
          case isFalse => exact (ih _).cons_cons piece
      case isFalse => exact (ih seen).cons_cons piece

theorem splitInclusive_cleaned (entryKey : List Char → Option (List Char))
    (content : List Char) :
    Text.splitInclusive '\n' (cleaned entryKey content)
      = keepFirst entryKey [] (Text.splitInclusive '\n' content) := by
  have hpieces := Text.pieces_splitInclusive '\n' content
  exact (hpieces.sublist (keepFirst_sublist entryKey [] _)).split_flatten

theorem mem_hostnames {content host : List Char} :
    host ∈ hostnames content ↔ isEntry host = true
      ∧ ∃ piece ∈ Text.splitInclusive '\n' content,
        Text.trim piece = host := by
  unfold hostnames Text.lines
  rw [List.mem_filter, List.map_map, List.mem_map, and_comm]
  simp only [Function.comp_apply, Text.trim_lineText]

/-- No host is added. -/
theorem hostnames_cleaned {entryKey : List Char → Option (List Char)}
    {content host : List Char}
    (h : host ∈ hostnames (cleaned entryKey content)) :
    host ∈ hostnames content := by
  obtain ⟨hentry, piece, hpiece, htrim⟩ := mem_hostnames.mp h
  rw [splitInclusive_cleaned] at hpiece
  exact mem_hostnames.mpr ⟨hentry, piece,
    (keepFirst_sublist entryKey [] _).subset hpiece, htrim⟩

/-- The first line of a key is kept. -/
theorem keepFirst_key {entryKey : List Char → Option (List Char)}
    {seen pieces : List (List Char)} {piece key : List Char}
    (hpiece : piece ∈ pieces) (hentry : isEntry (Text.trim piece) = true)
    (hkey : entryKey (Text.trim piece) = some key) :
    key ∈ seen ∨ ∃ kept ∈ keepFirst entryKey seen pieces,
      isEntry (Text.trim kept) = true
        ∧ entryKey (Text.trim kept) = some key := by
  induction pieces generalizing seen with
  | nil => cases hpiece
  | cons first rest ih =>
      -- what is kept of the rest is kept of the whole
      have hrest : ∀ {seen' tail}, tail = keepFirst entryKey seen' rest →
          (∃ kept ∈ tail, isEntry (Text.trim kept) = true
            ∧ entryKey (Text.trim kept) = some key) →
          ∃ kept ∈ first :: tail, isEntry (Text.trim kept) = true
            ∧ entryKey (Text.trim kept) = some key := by
        rintro seen' tail - ⟨kept, hmem, hkept⟩
        exact ⟨kept, List.mem_cons_of_mem first hmem, hkept⟩
      unfold keepFirst
      by_cases hfirst : isEntry (Text.trim first) = true
      · rw [if_pos hfirst]
        cases hfirstKey : entryKey (Text.trim first) with
        | none =>
            rcases List.mem_cons.mp hpiece with rfl | hpiece
            · rw [hkey] at hfirstKey
              cases hfirstKey
            · exact (ih hpiece).imp_right (hrest rfl)
        | some firstKey =>
            by_cases hseen : firstKey ∈ seen
            · simp only [if_pos hseen]
              rcases List.mem_cons.mp hpiece with rfl | hpiece
              · rw [hkey] at hfirstKey
                cases hfirstKey
                exact .inl hseen
              · exact ih hpiece
            · simp only [if_neg hseen]
              have hhere : firstKey = key →
                  ∃ kept ∈ first :: keepFirst entryKey (firstKey :: seen) rest,
                    isEntry (Text.trim kept) = true
                      ∧ entryKey (Text.trim kept) = some key := by
                rintro rfl
                exact ⟨first, List.mem_cons_self, hfirst, hfirstKey⟩
              rcases List.mem_cons.mp hpiece with rfl | hpiece
              · rw [hkey] at hfirstKey
                exact .inr (hhere (Option.some.inj hfirstKey).symm)
              · rcases @ih (firstKey :: seen) hpiece with hkeys | hkept
                · rcases List.mem_cons.mp hkeys with heq | hseen'
                  · exact .inr (hhere heq.symm)
                  · exact .inl hseen'
                · exact .inr (hrest rfl hkept)
      · rw [if_neg hfirst]
        rcases List.mem_cons.mp hpiece with rfl | hpiece
        · exact absurd hentry hfirst
        · exact (ih hpiece).imp_right (hrest rfl)

/-- For every entry there is one of the same key. -/
theorem entries_kept {entryKey : List Char → Option (List Char)}
    {content entry key : List Char} (h : entry ∈ hostnames content)
    (hkey : entryKey entry = some key) :
    ∃ kept ∈ hostnames (cleaned entryKey content),
      entryKey kept = some key := by
  obtain ⟨hentry, piece, hpiece, rfl⟩ := mem_hostnames.mp h
  rcases @keepFirst_key entryKey [] _ _ _ hpiece hentry hkey with
    hnone | hkept
  · cases hnone
  · obtain ⟨line, hline, hlineEntry, hlineKey⟩ := hkept
    refine ⟨Text.trim line, mem_hostnames.mpr ⟨hlineEntry, line, ?_, rfl⟩,
      hlineKey⟩
    rw [splitInclusive_cleaned]
    exact hline

/-- For every host there is one that differs in case at most. -/
theorem hostnames_kept {content host : List Char}
    (h : host ∈ hostnames content) :
    ∃ kept ∈ hostnames (cleaned hostKey content),
      (String.ofList kept).utf8ByteSize
        = (String.ofList host).utf8ByteSize := by
  obtain ⟨kept, hkept, hkey⟩ := entries_kept h (show hostKey host = _ from rfl)
  refine ⟨kept, hkept, ?_⟩
  rw [← Text.utf8ByteSize_toAsciiLowercase, Option.some.inj hkey,
    Text.utf8ByteSize_toAsciiLowercase]

-- =============================================================== the tasks

section Tasks

variable {α ρ γ : Type} {limit : Nat} {result : α → ρ → Option (List γ)}

theorem started_append_waiting (limit : Nat) (items running : List α) :
    started limit items running ++ waiting limit items running
      = running ++ items := by
  unfold started waiting
  rw [List.append_assoc, List.take_append_drop]

/-- Whatever comes out of a set of tasks came out of one of its items. -/
theorem drive_all {P : γ → Prop} {joins : List (Nat × ρ)}
    {items running : List α} {out final : List γ}
    (h : drive limit result joins items running out = some final)
    (hout : ∀ e ∈ out, P e)
    (hresult : ∀ a ∈ running ++ items, ∀ r entries,
      result a r = some entries → ∀ e ∈ entries, P e) :
    ∀ e ∈ final, P e := by
  induction joins generalizing items running out with
  | nil =>
      unfold drive at h
      split at h
      case isTrue =>
        cases h
        exact hout
      case isFalse => cases h
  | cons join rest ih =>
      obtain ⟨i, r⟩ := join
      rw [← started_append_waiting limit] at hresult
      simp only [drive] at h
      split at h
      case isTrue =>
        cases h
        exact hout
      case isFalse =>
        obtain ⟨item, hitem, h⟩ := Option.bind_eq_some_iff.mp h
        obtain ⟨entries, hentries, h⟩ := Option.bind_eq_some_iff.mp h
        apply ih h
        · intro e he
          rcases List.mem_append.mp he with he | he
          · exact hout e he
          · exact hresult item
              (List.mem_append_left _ (List.mem_of_getElem? hitem)) r entries
              hentries e he
        · intro a ha
          apply hresult a
          rcases List.mem_append.mp ha with ha | ha
          · exact List.mem_append_left _ (List.mem_of_mem_eraseIdx ha)
          · exact List.mem_append_right _ ha

/-- Tasks that end in the order they were started. -/
theorem drive_in_order (hlimit : 0 < limit) (answer : α → ρ)
    (entries : α → List γ) {l items running : List α} {out : List γ}
    (hl : running ++ items = l)
    (hresult : ∀ a ∈ l, result a (answer a) = some (entries a)) :
    drive limit result (l.map fun a => (0, answer a)) items running out
      = some (out ++ l.flatMap entries) := by
  induction l generalizing items running out with
  | nil =>
      obtain ⟨rfl, rfl⟩ := List.append_eq_nil_iff.mp hl
      simp [drive, started]
  | cons a l ih =>
      have hsplit := (started_append_waiting limit items running).trans hl
      have hstarted : started limit items running ≠ [] := by
        unfold started
        intro hnil
        obtain ⟨hrunning, htake⟩ := List.append_eq_nil_iff.mp hnil
        subst hrunning
        have hitems : items = a :: l := hl
        simp [hitems] at htake
        omega
      obtain ⟨task, tasks, htasks⟩ := List.exists_cons_of_ne_nil hstarted
      rw [htasks, List.cons_append] at hsplit
      injection hsplit with htask hrest
      subst htask
      have hhead := hresult task List.mem_cons_self
      have htail := @ih _ _ (out ++ entries task) hrest
        fun a ha => hresult a (List.mem_cons_of_mem task ha)
      simp only [List.map_cons, drive, htasks, List.isEmpty_cons,
        Bool.false_eq_true, if_false, List.getElem?_cons_zero,
        List.eraseIdx_cons_zero, Option.bind_eq_bind, Option.bind_some,
        hhead, htail, List.flatMap_cons, List.append_assoc]

end Tasks

-- ================================================================ the scan

theorem probeSniIp_sni (c : Setup Bps) (sni : String) (ip : Ipv4Addr)
    (probe : Probe Bps) : (probeSniIp c sni ip probe).sni = sni := by
  unfold probeSniIp
  split
  · rfl
  · split
    · rfl
    · split
      · rfl
      · rfl

theorem probeSni_sni {c : Setup Bps} {allows : Ipv4Addr → Bool}
    {sni : String} {result : HostResult Bps}
    {entries : List (SniProbeEntry Bps)}
    (h : probeSni c allows sni result = some entries) :
    ∀ e ∈ entries, e.sni = sni := by
  unfold probeSni at h
  split at h
  case h_1 =>
    cases h
    simp
  case h_2 =>
    cases h
    simp
  case h_3 =>
    refine drive_all (P := fun e => e.sni = sni) h (by simp) ?_
    · intro ip _ probe found hfound e he
      cases hfound
      obtain ⟨p, -, rfl⟩ := Option.map_eq_some_iff.mp (by simpa using he)
      exact probeSniIp_sni c sni ip p

theorem mem_ranked {entries : List (SniProbeEntry Bps)}
    {e : SniProbeEntry Bps} : e ∈ ranked entries ↔ e ∈ entries :=
  List.mem_mergeSort

theorem readScanList_hostnames {content : Option (List Char)}
    {replaced deduplicate : Bool} {text host : List Char}
    (h : readScanList content replaced deduplicate hostKey = some text)
    (hhost : host ∈ hostnames text) :
    ∃ original, content = some original ∧ host ∈ hostnames original := by
  obtain ⟨original, hcontent, h⟩ := Option.bind_eq_some_iff.mp h
  refine ⟨original, hcontent, ?_⟩
  split at h
  case isTrue =>
    cases h
    exact hhost
  case isFalse =>
    split at h
    case isTrue => cases h
    case isFalse =>
      cases h
      exact hostnames_cleaned hhost

theorem mem_hosts {c : Setup Bps} {scan : Scan Bps} {hosts : List String}
    (h : scan.hosts c = some hosts) {sni : String} (hsni : sni ∈ hosts) :
    ∃ content host, scan.content = some content ∧ host ∈ hostnames content
      ∧ sni = String.ofList host := by
  obtain ⟨text, htext, h⟩ := Option.bind_eq_some_iff.mp h
  split at h
  case isTrue => cases h
  case isFalse =>
    cases h
    obtain ⟨host, hhost, rfl⟩ := List.mem_map.mp hsni
    obtain ⟨content, hcontent, hmem⟩ := readScanList_hostnames htext hhost
    exact ⟨content, host, hcontent, hmem, rfl⟩

/-- A scan finds hosts of its list. -/
theorem scanSniList_sni {c : Setup Bps} {scan : Scan Bps}
    {entries : List (SniProbeEntry Bps)}
    (h : scanSniList c scan = some entries) {e : SniProbeEntry Bps}
    (he : e ∈ entries) :
    ∃ content host, scan.content = some content ∧ host ∈ hostnames content
      ∧ e.sni = String.ofList host := by
  obtain ⟨hosts, hhosts, h⟩ := Option.bind_eq_some_iff.mp h
  obtain ⟨results, hresults, h⟩ := Option.bind_eq_some_iff.mp h
  cases h
  have hmem : e.sni ∈ hosts := by
    refine drive_all (P := fun e => e.sni ∈ hosts) hresults (by simp) ?_ e
      (mem_ranked.mp he)
    intro sni hsni result found hfound e he
    rw [probeSni_sni hfound e he]
    simpa using hsni
  exact mem_hosts hhosts hmem

-- ========================================================== the candidates

theorem mem_of_mem_firstOfKeys {seen : List TargetKey}
    {targets : List Target} {t : Target}
    (h : t ∈ firstOfKeys seen targets) : t ∈ targets := by
  induction targets generalizing seen with
  | nil => exact h
  | cons first rest ih =>
      unfold firstOfKeys at h
      split at h
      case isTrue => exact List.mem_cons_of_mem first (ih h)
      case isFalse =>
        rcases List.mem_cons.mp h with rfl | h
        · exact List.mem_cons_self
        · exact List.mem_cons_of_mem first (ih h)

theorem mem_of_mem_uniqueTargets {targets : List Target} {limit : Nat}
    {t : Target} (h : t ∈ uniqueTargets targets limit) : t ∈ targets :=
  mem_of_mem_firstOfKeys (List.mem_of_mem_take h)

theorem mem_sniCandidates {entries : List (SniProbeEntry Bps)} {limit : Nat}
    {minScore : UInt8} {t : Target}
    (h : t ∈ sniCandidates entries limit minScore) :
    ∃ e ∈ entries, Target.fromSni e = t := by
  obtain ⟨e, he, ht⟩ := List.mem_map.mp (mem_of_mem_uniqueTargets h)
  exact ⟨e, (List.mem_filter.mp he).1, ht⟩

-- ============================================= a host the network prefers

/-- The network answers for one host only. -/
def onlyHost (sni : String) (ip : Ipv4Addr) (probe : Probe Bps)
    (host : String) : HostResult Bps :=
  if host = sni then .probed (some [ip]) [(0, some probe)]
  else .probed none []

theorem limit_pos (c : Setup Bps) : 0 < c.limit := by
  unfold Setup.limit
  omega

theorem probeSni_onlyHost (c : Setup Bps) {allows : Ipv4Addr → Bool}
    {ip : Ipv4Addr} (hip : allows ip = true) (sni host : String)
    (probe : Probe Bps) :
    probeSni c allows host (onlyHost sni ip probe host)
      = some (if host = sni then [probeSniIp c sni ip probe] else []) := by
  unfold onlyHost
  by_cases hhost : host = sni
  · have hlimit := limit_pos c
    have hdrive := @drive_in_order _ _ _ _
      (fun ip probe => some ((probe.map (probeSniIp c sni ip)).toList))
      hlimit (fun _ => some probe) (fun ip => [probeSniIp c sni ip probe])
      [ip] [ip] [] [] rfl (by simp)
    rw [if_pos hhost, if_pos hhost, hhost]
    simp only [probeSni, List.filter_cons, hip, if_true, List.filter_nil]
    exact hdrive
  · rw [if_neg hhost, if_neg hhost]
    rfl

/-- The text whose hosts are scanned. -/
def scannedText (c : Setup Bps) (content : List Char) : List Char :=
  if c.deduplicateScanLists then cleaned hostKey content else content

/-- A scan that finds one host only. -/
def preferring (c : Setup Bps) (content : List Char) (sni : String)
    (ip : Ipv4Addr) (probe : Probe Bps) : Scan Bps where
  content := some content
  replaced := true
  allows := fun _ => true
  resolver := true
  joins := ((hostnames (scannedText c content)).map String.ofList).map
    fun host => (0, onlyHost sni ip probe host)

theorem hosts_preferring (c : Setup Bps) {content host : List Char}
    {sni : String} {ip : Ipv4Addr} {probe : Probe Bps}
    (hhost : host ∈ hostnames (scannedText c content)) :
    (preferring c content sni ip probe).hosts c
      = some ((hostnames (scannedText c content)).map String.ofList) := by
  have hsome := List.ne_nil_of_mem hhost
  have hread : readScanList (some content) true c.deduplicateScanLists hostKey
      = some (scannedText c content) := by
    unfold scannedText readScanList
    by_cases hdedup : c.deduplicateScanLists = true
    · simp [hdedup]
    · simp [hdedup]
  show (readScanList (some content) true c.deduplicateScanLists
    hostKey).bind _ = _
  rw [hread]
  simp [hsome, preferring]

/-- Any host of the list may be the only one that is found. -/
theorem scanSniList_preferring (c : Setup Bps) {content host : List Char}
    (ip : Ipv4Addr) (probe : Probe Bps)
    (hhost : host ∈ hostnames (scannedText c content)) :
    ∃ entries, scanSniList c (preferring c content (String.ofList host) ip
        probe) = some entries
      ∧ entries ≠ []
      ∧ ∀ e ∈ entries, e = probeSniIp c (String.ofList host) ip probe := by
  have hdrive := @drive_in_order _ _ _ _ (probeSni c fun _ => true)
    (limit_pos c) (onlyHost (String.ofList host) ip probe)
    (fun other => if other = String.ofList host
      then [probeSniIp c (String.ofList host) ip probe] else [])
    ((hostnames (scannedText c content)).map String.ofList) _ [] [] rfl
    fun other _ => probeSni_onlyHost c rfl (String.ofList host) other probe
  refine ⟨_, Option.bind_eq_some_iff.mpr ⟨_, hosts_preferring c hhost,
    Option.bind_eq_some_iff.mpr ⟨_, hdrive, rfl⟩⟩, ?_, ?_⟩
  · have hmem : probeSniIp c (String.ofList host) ip probe
        ∈ ((hostnames (scannedText c content)).map String.ofList).flatMap
          fun other => if other = String.ofList host
            then [probeSniIp c (String.ofList host) ip probe] else [] := by
      refine List.mem_flatMap.mpr ⟨String.ofList host,
        List.mem_map_of_mem hhost, ?_⟩
      rw [if_pos rfl]
      exact List.mem_cons_self
    exact List.ne_nil_of_mem (mem_ranked.mpr hmem)
  · intro e he
    have he := mem_ranked.mp he
    rw [List.nil_append] at he
    obtain ⟨other, -, he⟩ := List.mem_flatMap.mp he
    split at he
    case isTrue => exact List.mem_singleton.mp he
    case isFalse => cases he

end ZeroDpi.SniScanner
