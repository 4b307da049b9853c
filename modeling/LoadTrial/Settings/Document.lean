/-
Settings read from a JSON document. What is missing at the top has its usual value; the parts of settings are
complete.
-/
import LoadTrial.Json.Record
import LoadTrial.Settings.Basic

namespace LoadTrial

def TrustPaths.ofJson? (j : Json) : Option TrustPaths := do
  match ← j.record? false ["ca_cert_path", "client_cert_path", "client_key_path"] with
  | [caCert, clientCert, clientKey] =>
    some ⟨← Json.required Json.asString? caCert, ← Json.required Json.asString? clientCert,
      ← Json.required Json.asString? clientKey⟩
  | _ => none

def SigningPayload.ofJson? (j : Json) : Option SigningPayload := do
  let names := ["key_id", "transaction_data", "threshold", "total_shards", "required_shards"]
  match ← j.record? false names with
  | [keyId, transactionData, threshold, totalShards, requiredShards] =>
    some {
      keyId := ← Json.required Json.asString? keyId
      transactionData := ← Json.required Json.asString? transactionData
      threshold := ← Json.required Json.asUInt32? threshold
      totalShards := ← Json.required Json.asUInt32? totalShards
      requiredShards := ← Json.required (Json.list? Json.asString?) requiredShards }
  | _ => none

def EmptyPolicy.ofJson? (j : Json) : Option EmptyPolicy := do
  let word ← j.word?
  [EmptyPolicy.pass, .fail].find? (·.name == word)

def LogFormat.ofJson? (j : Json) : Option LogFormat := do
  let word ← j.word?
  [LogFormat.console, .json, .compact].find? (·.name == word)

def Profile.ofJson? (j : Json) : Option Profile := do
  let names := ["name", "num_clients", "requests_per_client", "request_delay_ms", "request_timeout_secs",
    "connection_pool_size"]
  match ← j.record? false names with
  | [name, numClients, requestsPerClient, requestDelay, requestTimeout, poolSize] =>
    some {
      name := ← Json.required Json.asString? name
      numClients := ← Json.required Json.asUInt64? numClients
      requestsPerClient := ← Json.required Json.asUInt64? requestsPerClient
      requestDelayMs := ← Json.required Json.asUInt64? requestDelay
      requestTimeoutSecs := ← Json.required Json.asUInt64? requestTimeout
      connectionPoolSize := ← Json.required Json.asUInt64? poolSize }
  | _ => none

def Settings.ofJson? (j : Json) : Option Settings := do
  let names := ["coordinator_url", "tls", "coordinator_id", "payload", "success_threshold", "empty_policy",
    "scenarios", "enable_color", "json_output", "log_format", "verbose", "debug"]
  let usual : Settings := {}
  match ← j.record? true names with
  | [url, trust, coordinatorId, payload, threshold, emptyPolicy, scenarios, enableColor, jsonOutput, logFormat,
      verbose, debug] =>
    some {
      coordinatorUrl := ← Json.withDefault usual.coordinatorUrl Json.asString? url
      trust := ← Json.withDefault usual.trust TrustPaths.ofJson? trust
      coordinatorId := ← Json.withDefault usual.coordinatorId Json.asString? coordinatorId
      payload := ← Json.withDefault usual.payload SigningPayload.ofJson? payload
      successThreshold := ← Json.withDefault usual.successThreshold Json.asBinary64? threshold
      emptyPolicy := ← Json.withDefault usual.emptyPolicy EmptyPolicy.ofJson? emptyPolicy
      scenarios := ← Json.withDefault usual.scenarios (Json.list? Profile.ofJson?) scenarios
      enableColor := ← Json.withDefault usual.enableColor Json.asBool? enableColor
      jsonOutput := ← Json.withDefault usual.jsonOutput Json.asBool? jsonOutput
      logFormat := ← Json.withDefault usual.logFormat LogFormat.ofJson? logFormat
      verbose := ← Json.withDefault usual.verbose Json.asBool? verbose
      debug := ← Json.withDefault usual.debug Json.asBool? debug }
  | _ => none

end LoadTrial
