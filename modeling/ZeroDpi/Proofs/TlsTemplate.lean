/-
The ClientHello template: what is built from it is a ClientHello.

The record has one length for every name that fits, and taken apart it has
the name's bytes where the walker looks for them, in the first extension.
-/
import ZeroDpi.ClientHello
import ZeroDpi.TlsTemplate

namespace ZeroDpi.TlsTemplate

open Lib

-- ============================================================ its length

/-- An assertion that holds. -/
theorem assert_eq_ok {holds : Bool} {message : String} (h : holds = true) :
    assert holds message = .ok () := by
  rw [assert, if_pos h]

/-- Words have their width. -/
theorem length_wordBytes (n word : Nat) : (wordBytes n word).length = n := by
  simp [wordBytes]

/-- The template is 517 bytes. -/
theorem length_templateBytes : templateBytes.length = 517 := by
  have hwords : tlsChTemplateHex.length = 16 := rfl
  rw [templateBytes, List.length_append, List.length_flatMap]
  simp only [length_wordBytes, List.map_const', List.sum_replicate_nat,
    hwords]

/-- A part of it. -/
theorem length_slice {bytes : Bytes} {first last : Nat}
    (h : last ≤ bytes.length) : (slice bytes first last).length
      = last - first := by
  simp [slice, Nat.min_eq_left h]

/-- The padding makes up for the name. -/
theorem length_clientHello {random sessionId targetSni keyShare : Bytes}
    (hrandom : random.length = 32) (hsession : sessionId.length = 32)
    (hkey : keyShare.length = 32)
    (hsni : targetSni.length ≤ Config.maxSniLen) :
    (clientHello random sessionId targetSni keyShare).length
      = clientHelloLen := by
  have h1 := @length_slice templateBytes 0 11
    (by rw [length_templateBytes]; decide)
  have h2 := @length_slice templateBytes 76 120
    (by rw [length_templateBytes]; decide)
  have h3 := @length_slice templateBytes (127 + templateSniLen)
    (262 + templateSniLen) (by rw [length_templateBytes]; decide)
  simp only [clientHello, serverNameExt, paddingExt, be16, List.length_append,
    List.length_cons, List.length_nil, List.length_replicate, h1, h2, h3,
    hrandom, hsession, hkey, clientHelloLen]
  unfold Config.maxSniLen at hsni ⊢
  omega

/-- So no part is out of range. -/
theorem buildClientHello_ok {random sessionId targetSni keyShare : Bytes}
    (hrandom : random.length = 32) (hsession : sessionId.length = 32)
    (hkey : keyShare.length = 32)
    (hsni : targetSni.length ≤ Config.maxSniLen) :
    buildClientHello random sessionId targetSni keyShare
      = .ok (clientHello random sessionId targetSni keyShare) := by
  unfold buildClientHello
  rw [assert_eq_ok (by simp [hrandom]), assert_eq_ok (by simp [hsession]),
    assert_eq_ok (by simp [hkey]), assert_eq_ok (by simp [hsni])]
  rfl

-- ============================================================= its parts

open ClientHello

/-- The cipher suites of the template. -/
def templateCipherSuites : Bytes := slice templateBytes 78 114

theorem length_templateCipherSuites : templateCipherSuites.length = 36 :=
  length_slice (by rw [length_templateBytes]; decide)

/-- The template up to its random field. -/
theorem slice_header : slice templateBytes 0 11
    = [0x16] ++ ([0x03, 0x01] ++ (beBytes 2 512 ++ ([0x01]
      ++ (beBytes 3 508 ++ [0x03, 0x03])))) := by
  decide

/-- The template from its cipher suites to its first extension's type. -/
theorem slice_fields : slice templateBytes 76 120
    = vec 2 templateCipherSuites ++ (vec 1 [0x00] ++ (beBytes 2 399
      ++ beBytes 2 serverNameType)) := by
  decide

/-- Both spellings of two bytes. -/
theorem be16_eq (n : Nat) : be16 n = beBytes 2 n := by
  have hhi : UInt8.ofNat (n % 2 ^ 16 / 256) = (n / 256).toUInt8 := by
    apply UInt8.toNat.inj
    show n % 2 ^ 16 / 256 % 256 = n / 256 % 256
    omega
  have hlo : UInt8.ofNat (n % 256) = n.toUInt8 := by
    apply UInt8.toNat.inj
    show n % 256 % 256 = n % 256
    omega
  rw [beBytes_two, be16, toBe16, hhi, hlo]

/-- The `server_name` extension of the template holds the name alone. -/
def templateNames (targetSni : Bytes) (h : targetSni ≠ []) : ServerNames where
  hostName := targetSni
  moreNames := []
  behindList := []
  hostName_ne := h

/-- The extension of the name. -/
theorem serverNameExt_eq {targetSni : Bytes} (h : targetSni ≠ []) :
    serverNameExt targetSni = vec 2 (templateNames targetSni h).encode := by
  have hlist : (templateNames targetSni h).list.length
      = targetSni.length + 3 := by
    simp only [ServerNames.list, templateNames, List.length_append,
      length_vec, List.length_singleton, List.length_nil]
    omega
  have hencode : (templateNames targetSni h).encode.length
      = targetSni.length + 5 := by
    rw [ServerNames.encode, List.length_append, length_vec, hlist]
    show _ + 0 = _
    omega
  rw [serverNameExt, be16_eq, be16_eq, be16_eq, vec, hencode,
    ServerNames.encode, vec, hlist]
  simp only [ServerNames.list, templateNames, vec, List.append_assoc,
    List.append_nil]

theorem length_templateRecordVersion :
    ([0x03, 0x01] : Bytes).length = 2 := rfl

theorem length_templateVersion : ([0x03, 0x03] : Bytes).length = 2 := rfl

theorem templateCompression_lt : ([0x00] : Bytes).length < 256 := by decide

/-- The fields of a ClientHello from the template. -/
def templateFields {random sessionId : Bytes} (hrandom : random.length = 32)
    (hsession : sessionId.length = 32) : Fields where
  version := [0x03, 0x03]
  random := random
  sessionId := sessionId
  cipherSuites := templateCipherSuites
  compressionMethods := [0x00]
  version_length := length_templateVersion
  random_length := hrandom
  sessionId_lt := by omega
  cipherSuites_lt := by
    rw [length_templateCipherSuites]
    decide
  compressionMethods_lt := templateCompression_lt

/-- How long each part is. -/
theorem length_templateFields {random sessionId : Bytes}
    (hrandom : random.length = 32) (hsession : sessionId.length = 32) :
    (templateFields hrandom hsession).encode.length = 107 := by
  simp only [Fields.encode, templateFields, List.length_append, length_vec,
    hrandom, hsession, length_templateCipherSuites]
  rfl

/-- What the template has behind the `server_name` extension. -/
def templateRest (keyShare : Bytes) (padLen : Nat) : Bytes :=
  slice templateBytes (127 + templateSniLen) (262 + templateSniLen)
    ++ keyShare ++ [0x00, 0x15] ++ paddingExt padLen

theorem length_templateRest {keyShare : Bytes} (hkey : keyShare.length = 32)
    (padLen : Nat) :
    (templateRest keyShare padLen).length = 171 + padLen := by
  have hslice := @length_slice templateBytes (127 + templateSniLen)
    (262 + templateSniLen) (by rw [length_templateBytes]; decide)
  simp only [templateRest, paddingExt, be16, List.length_append,
    List.length_cons, List.length_nil, List.length_replicate, hslice, hkey]
  omega

/-- A ClientHello from the template, taken apart. -/
def templateParts {random sessionId targetSni : Bytes}
    (hrandom : random.length = 32) (hsession : sessionId.length = 32)
    (keyShare : Bytes) (hsni : targetSni ≠ []) : LocatedParts where
  recordVersion := [0x03, 0x01]
  fields := templateFields hrandom hsession
  earlier := []
  names := templateNames targetSni hsni
  laterExtensions :=
    templateRest keyShare (Config.maxSniLen - targetSni.length)
  behindExtensions := []
  behindMessage := []
  behindRecord := []
  recordVersion_length := length_templateRecordVersion
  earlier_ne := by simp

section

variable {random sessionId targetSni keyShare : Bytes}
  (hrandom : random.length = 32) (hsession : sessionId.length = 32)
  (hkey : keyShare.length = 32) (hsni : targetSni ≠ [])
  (hshort : targetSni.length ≤ Config.maxSniLen)

include hkey hshort

/-- The padding makes up for the name. -/
theorem length_templateBlock :
    (templateParts hrandom hsession keyShare hsni).block.length = 399 := by
  have hext := congrArg List.length (serverNameExt_eq hsni)
  simp only [serverNameExt, be16, List.length_append, List.length_cons,
    List.length_nil] at hext
  unfold Config.maxSniLen at hshort
  have hblock : (templateParts hrandom hsession keyShare hsni).block
      = [] ++ (beBytes 2 serverNameType
        ++ (vec 2 (templateNames targetSni hsni).encode
          ++ templateRest keyShare (Config.maxSniLen - targetSni.length))) :=
    rfl
  rw [hblock, List.nil_append, List.length_append, List.length_append,
    ← hext, length_templateRest hkey, length_beBytes, Config.maxSniLen]
  omega

theorem length_templateMessage :
    (templateParts hrandom hsession keyShare hsni).message.length = 508 := by
  rw [LocatedParts.message, List.length_append, List.length_append,
    length_vec, length_templateBlock hrandom hsession hkey hsni hshort]
  exact congrArg (· + _) (length_templateFields hrandom hsession)

theorem length_templateBody :
    (templateParts hrandom hsession keyShare hsni).body.length = 512 := by
  rw [LocatedParts.body, List.length_append, List.length_append,
    length_vec, length_templateMessage hrandom hsession hkey hsni hshort]
  rfl

/-- What is built is a located name. -/
theorem clientHello_eq :
    clientHello random sessionId targetSni keyShare
      = (templateParts hrandom hsession keyShare hsni).encode := by
  rw [LocatedParts.encode, vec,
    length_templateBody hrandom hsession hkey hsni hshort,
    LocatedParts.body, vec,
    length_templateMessage hrandom hsession hkey hsni hshort,
    LocatedParts.message, vec,
    length_templateBlock hrandom hsession hkey hsni hshort,
    LocatedParts.block]
  have hsid : vec 1 sessionId = [0x20] ++ sessionId := by
    rw [vec, hsession]
    rfl
  rw [clientHello, slice_header, slice_fields, serverNameExt_eq hsni]
  dsimp only [templateParts, templateFields, templateRest, Fields.encode]
  rw [hsid]
  rw [encodeAll_nil, List.nil_append]
  simp only [List.append_assoc]
  rw [List.append_nil, List.append_nil, List.append_nil]

end

end ZeroDpi.TlsTemplate
