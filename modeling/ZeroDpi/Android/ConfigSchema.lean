/-
The schema of the Android app's configuration editor (config/ZeroDpiConfig.kt):
the fields with their types, defaults and choices.
-/
import ZeroDpi.Android.TomlText
import ZeroDpi.Lib.Table

namespace ZeroDpi.Android

open Lib

/-- The types of the editor's fields. -/
inductive ConfigFieldType where
  | text
  | optionalText
  | boolean
  | uint8
  | uint16
  | uint32
  | uint64
  | usize
  | float
  | enum
  | integerRange
  | packetSelector
  | multiSelect
  | stringList
  deriving DecidableEq

/-- What the editor calls them. -/
def ConfigFieldType.label : ConfigFieldType → String
  | .text => "text"
  | .optionalText => "optional text"
  | .boolean => "boolean"
  | .uint8 => "0-255 integer"
  | .uint16 => "0-65535 integer"
  | .uint32 => "0-4294967295 integer"
  | .uint64 => "non-negative integer"
  | .usize => "non-negative integer"
  | .float => "number"
  | .enum => "choice"
  | .integerRange => "integer or range"
  | .packetSelector => "packet selector"
  | .multiSelect => "method list"
  | .stringList => "string list"

/-- A field of the config. -/
structure ConfigFieldSchema where
  name : String
  type : ConfigFieldType
  defaultValue : List Char
  options : List String := []
  required : Bool := false
  deriving DecidableEq

namespace ZeroDpiConfigSchema

/-- The modes. -/
def modeOptions : List String :=
  ["sni_spoof", "ip_bypass", "ip_bypass_plus", "sni_scan", "ip_scan",
    "proxy_scan", "sni_method_scan", "ip_method_scan"]

/-- Those that scan methods. -/
def methodScanModes : List String := ["sni_method_scan", "ip_method_scan"]

/-- The methods, in the order they are shown. -/
def baseBypassMethods : List String :=
  ["wrong_seq", "wrong_ack", "wrong_checksum", "wrong_md5",
    "wrong_timestamp", "low_ttl", "tls_record_frag", "tls_record_split",
    "fake_tls", "ip_frag", "disorder", "seqovl", "tls_frag",
    "ccs_prefix", "tls_padding", "mixed_case_sni", "urg_sni_split",
    "sni_boundary_frag"]

/-- The firewalls. -/
def firewallBackendOptions : List String := ["iptables", "nftables"]

/-- A field without options that may be missing. -/
def field (name : String) (type : ConfigFieldType) (defaultValue : String) :
    ConfigFieldSchema where
  name := name
  type := type
  defaultValue := defaultValue.toList

/-- A default of methods. -/
def methodArray (methods : List String) : List Char :=
  canonicalMethodArray (methods.map String.toList)

/-- The schema, in the order of the editor. -/
def fields : List ConfigFieldSchema :=
  [ { field "LISTEN_HOST" .text "127.0.0.1" with required := true },
    { field "LISTEN_PORT" .uint16 "44444" with required := true },
    { field "MODE" .enum "sni_spoof" with options := modeOptions },
    field "AUTO_SELECT" .boolean "false",
    field "SELECTED_SNI" .optionalText "",
    field "SELECTED_IP" .optionalText "",
    field "SNI_LIST" .text "sni_list.txt",
    field "CUSTOM_DNS_ENABLED" .boolean "false",
    field "CUSTOM_DNS_SERVERS" .stringList "[]",
    field "IP_LIST" .text "ip_list.txt",
    field "CLOUDFLARE_ONLY" .boolean "true",
    field "SCAN_TIMEOUT_SECS" .uint64 "5",
    field "RESCAN_INTERVAL_SECS" .uint64 "0",
    field "SNI_SWITCH_MIN_SCORE" .uint8 "1",
    field "SCAN_OUTPUT" .optionalText "",
    field "SNI_MAX_CONCURRENT" .usize "64",
    field "IP_MAX_P1_CONCURRENT" .usize "128",
    field "IP_MAX_P2_CONCURRENT" .usize "32",
    field "SCAN_DOWNLOAD_CAP" .usize "10240",
    field "SCAN_UPLOAD_CAP" .usize "10240",
    field "SCAN_UPLOAD_PATH" .text "/",
    field "IP_SCAN_SNI" .text "cloudflare.com",
    field "IPV6_MAX_HOSTS" .uint64 "65536",
    field "TCP_LATENCY_CAP_MS" .float "500.0",
    field "TLS_LATENCY_CAP_MS" .float "1000.0",
    field "TTFB_CAP_MS" .float "2000.0",
    field "SPEED_CAP_BPS" .float "2048000.0",
    field "UPLOAD_SPEED_CAP_BPS" .float "2048000.0",
    { field "BYPASS_METHOD" .multiSelect "" with
      defaultValue := methodArray ["wrong_seq", "tls_frag"]
      options := baseBypassMethods },
    field "BYPASS_TIMEOUT_SECS" .uint64 "20",
    field "RELAY_MAX_LIFETIME_SECS" .uint64 "0",
    field "NFQUEUE_NUM" .uint16 "1",
    { field "LINUX_FIREWALL_BACKEND" .enum "iptables" with
      options := firewallBackendOptions },
    field "WRONG_SEQ_EXTRA_OFFSET" .uint32 "0",
    field "WRONG_SEQ_SET_PSH" .boolean "true",
    field "WRONG_SEQ_BUMP_IP_IDENT" .boolean "true",
    field "WRONG_CHECKSUM_DELTA" .uint16 "1",
    field "WRONG_CHECKSUM_SET_PSH" .boolean "true",
    field "WRONG_CHECKSUM_BUMP_IP_IDENT" .boolean "true",
    field "WRONG_CHECKSUM_COMPLETE_IMMEDIATELY" .boolean "true",
    field "WRONG_MD5_SET_PSH" .boolean "true",
    field "WRONG_MD5_BUMP_IP_IDENT" .boolean "true",
    field "WRONG_MD5_COMPLETE_IMMEDIATELY" .boolean "true",
    field "WRONG_ACK_OFFSET" .uint32 "1",
    field "WRONG_ACK_SET_PSH" .boolean "true",
    field "WRONG_ACK_BUMP_IP_IDENT" .boolean "true",
    field "WRONG_ACK_COMPLETE_IMMEDIATELY" .boolean "true",
    field "WRONG_TIMESTAMP_OFFSET" .uint32 "1",
    field "WRONG_TIMESTAMP_SET_PSH" .boolean "true",
    field "WRONG_TIMESTAMP_BUMP_IP_IDENT" .boolean "true",
    field "WRONG_TIMESTAMP_COMPLETE_IMMEDIATELY" .boolean "true",
    field "TLS_RECORD_FRAG_SIZE" .usize "1",
    field "TLS_RECORD_FRAG_SET_PSH" .boolean "true",
    field "TLS_RECORD_FRAG_BUMP_IP_IDENT" .boolean "true",
    field "TLS_RECORD_SPLIT_POINT" .text "extension_length",
    field "TLS_RECORD_SPLIT_DELAY_MS" .integerRange "0",
    field "TLS_FRAG_PACKETS" .packetSelector "1-3",
    field "TLS_FRAG_LENGTH" .integerRange "100-200",
    field "TLS_FRAG_INTERVAL_MS" .integerRange "10-20",
    field "TCP_SEG_SIZE" .usize "1",
    field "TCP_SEG_NODELAY" .boolean "true",
    field "PROXY_TEST_MIN_SNI_SCORE" .uint8 "1",
    field "PROXY_TEST_TOP_N" .usize "0",
    field "PROXY_TEST_SOCKS5_HOST" .text "127.0.0.1",
    field "PROXY_TEST_SOCKS5_PORT" .uint16 "10808",
    field "PROXY_TEST_URL" .text
      "https://speed.cloudflare.com/__down?bytes=524288",
    field "PROXY_TEST_TIMEOUT_SECS" .uint64 "30",
    field "PROXY_TEST_SNI_WEIGHT" .float "0.5",
    field "PROXY_TEST_LATENCY_CAP_MS" .float "500.0",
    field "PROXY_TEST_TTFB_CAP_MS" .float "3000.0",
    field "PROXY_TEST_SPEED_CAP_BPS" .float "2048000.0",
    { field "METHOD_SCAN_METHODS" .multiSelect "" with
      defaultValue := methodArray baseBypassMethods
      options := baseBypassMethods },
    field "METHOD_SCAN_SAMPLES" .usize "3",
    field "METHOD_SCAN_INTERVAL_MS" .uint64 "1000",
    field "METHOD_SCAN_TIMEOUT_SECS" .uint64 "10",
    field "METHOD_SCAN_OUTPUT" .optionalText "",
    field "LOW_TTL_VALUE" .uint8 "5",
    field "LOW_TTL_SET_PSH" .boolean "true",
    field "LOW_TTL_BUMP_IP_IDENT" .boolean "true",
    field "LOW_TTL_COMPLETE_IMMEDIATELY" .boolean "true",
    field "LOW_TTL_DISCOVER" .boolean "false",
    field "LOW_TTL_DISCOVER_MAX" .uint8 "32",
    field "LOW_TTL_DISCOVER_TIMEOUT_MS" .uint64 "5000",
    field "FAKE_TLS_EXTRA_OFFSET" .uint32 "0",
    field "FAKE_TLS_SET_PSH" .boolean "true",
    field "FAKE_TLS_BUMP_IP_IDENT" .boolean "true",
    field "FAKE_TLS_COMPLETE_IMMEDIATELY" .boolean "true",
    field "FAKE_TLS_FORWARD_REAL" .boolean "true",
    field "FAKE_TLS_REPEATS" .usize "1",
    field "FAKE_TLS_CHAIN_DELAY_MS" .integerRange "0",
    field "IP_FRAG_SIZE" .usize "24",
    field "IP_FRAG_ONLY_FIRST_PACKET" .boolean "true",
    field "DISORDER_SEGMENTS" .usize "2",
    field "DISORDER_DELAY_MS" .uint64 "0",
    field "DISORDER_REVERSE" .boolean "true",
    field "DISORDER_ONLY_FIRST_PACKET" .boolean "true",
    field "SEQOVL_SIZE" .optionalText "",
    field "SEQOVL_PATTERN" .optionalText "",
    field "SEQOVL_SEGMENTS" .usize "2",
    field "SEQOVL_REVERSE" .boolean "false",
    field "SEQOVL_DELAY_MS" .uint64 "0",
    field "SNI_SPLIT_DUMMY_BYTE" .uint8 "0",
    field "SNI_SPLIT_POSITION" .text "middle",
    field "SNI_BOUNDARY_FRAG_SPLIT_POINT" .text "extension_length",
    field "SNI_BOUNDARY_FRAG_DELAY_MS" .integerRange "5-10",
    field "TLS_PADDING_SIZE" .integerRange "1500-2500",
    { field "TLS_PADDING_POSITION" .enum "before" with
      options := ["before", "after"] },
    field "MIXED_CASE_SNI_FLIP_ALL" .boolean "false",
    field "CCS_PREFIX_RECORD_VERSION" .text "0x0303" ]

/-- The field of a name. -/
def fieldsByName (name : String) : Option ConfigFieldSchema :=
  fields.find? fun schema => schema.name = name

theorem fieldsByName_self :
    ∀ schema ∈ fields, fieldsByName schema.name = some schema := by
  intro schema hmem
  have hdigests : distinctFrom 0
      (fields.map fun schema => digest 1056 schema.name) = true := by
    decide +kernel
  exact (find?_of_distinctFrom hdigests hmem).1

end ZeroDpiConfigSchema

end ZeroDpi.Android
