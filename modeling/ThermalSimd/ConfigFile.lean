import ThermalSimd.Jsmn
import ThermalSimd.OptionValues

/-!
# The configuration file

`parse_config_file` of `thermal_config.c` with its section parsers, over the tokenizer's array:
zeroed behind its tokens, and not to be read behind its allocation. Assignments are recorded with
the indices of their key and value, also those made before a file is rejected.
-/

namespace ThermalSimd.ConfigFile

open Jsmn

/-- The text, its tokens, and the size of the token array. -/
structure Source where
  text : List Char
  tokens : List Token
  capacity : ℕ

/-- A token that `calloc` left. -/
def zeroToken : Token := ⟨.undefined, 0, some 0, 0, some 0⟩

/-- `tokens[index]`, unless that lies behind the array. -/
def Source.token (source : Source) (index : ℕ) : Option Token :=
  match source.tokens[index]? with
  | some token => some token
  | none => if index < source.capacity then some zeroToken else none

def slice (text : List Char) (start stop : ℕ) : List Char := (text.drop start).take (stop - start)

def Source.content (source : Source) (token : Token) : List Char :=
  slice source.text token.start (token.stop.getD 0)

/-- `json_token_equals`. -/
def Source.jsonTokenEquals (source : Source) (token : Token) (name : String) : Bool :=
  token.kind = .string && source.content token = name.toList

/-- A token that `json_skip` steps over. -/
def isFlat (token : Token) : Bool :=
  token.kind = .primitive || token.kind = .string || token.kind = .undefined

/-- `tokens[cursor].parent >= index`. -/
def isBelow (token : Token) (index : ℕ) : Bool :=
  match token.parent with
  | none => false
  | some parent => index ≤ parent

mutual

/-- `json_skip`. Every call and turn passes a token, so twice their number is enough fuel. -/
def skipFrom (tokens : List Token) : ℕ → ℕ → ℕ
  | 0, index => index
  | fuel + 1, index =>
    match tokens[index]? with
    | none => index
    | some token => if isFlat token then index + 1 else skipLoop tokens index fuel (index + 1)

/-- The loop of `json_skip` over the tokens below `index`. -/
def skipLoop (tokens : List Token) (index : ℕ) : ℕ → ℕ → ℕ
  | 0, cursor => cursor
  | fuel + 1, cursor =>
    match tokens[cursor]? with
    | none => cursor
    | some token =>
      if isBelow token index then skipLoop tokens index fuel (skipFrom tokens fuel cursor)
      else cursor

end

/-- `json_skip`: the index behind the token and everything below it. -/
def jsonSkip (tokens : List Token) (index : ℕ) : ℕ := skipFrom tokens (2 * tokens.length + 2) index

/-- The conversions of a token, with their bounds. -/
inductive Reader
  | string (size : ℕ)
  | int (min max : ℤ)
  | double (min max : ℚ)
  | bool
  deriving DecidableEq

/-- `json_token_to_string`, `…_to_int`, `…_to_double` and `…_to_bool`; numbers go through 64
characters. -/
def Reader.read (kind : Kind) (content : List Char) : Reader → Option Value
  | string size =>
    if kind = .string ∧ content.length < size then
      some (.text (String.ofList (content.takeWhile (· ≠ '\x00'))))
    else none
  | int min max =>
    if kind = .primitive ∧ content ≠ [] ∧ content.length < 64 then
      (parseIntOption content min max).map .int
    else none
  | double min max =>
    if kind = .primitive ∧ content ≠ [] ∧ content.length < 64 then
      (parseDoubleOption content min max).map fun number => .real (.finite number)
    else none
  | bool =>
    if kind = .primitive then
      if content = "true".toList then some (.int 1)
      else if content = "false".toList then some (.int 0)
      else if content = "0".toList then some (.int 0)
      else if content = "1".toList then some (.int 1)
      else none
    else none

/-- A value, -1, or undefined: an access behind the array, or an offset beyond `int`. -/
inductive Outcome (α : Type)
  | done (value : α)
  | rejected
  | undefined
  deriving DecidableEq

/-- An assignment with the indices of its key and value. -/
structure Stored where
  key : ℕ
  value : ℕ
  assignment : Assignment
  deriving DecidableEq

/-- What a parser returns, and the assignments it made. -/
structure Run (α : Type) where
  outcome : Outcome α
  stored : List Stored
  deriving DecidableEq

namespace Run

variable {α β : Type}

def pure (value : α) : Run α := ⟨.done value, []⟩

def rejected : Run α := ⟨.rejected, []⟩

def undefined : Run α := ⟨.undefined, []⟩

def bind (first : Run α) (next : α → Run β) : Run β :=
  match first.outcome with
  | .done value => ⟨(next value).outcome, first.stored ++ (next value).stored⟩
  | .rejected => ⟨.rejected, first.stored⟩
  | .undefined => ⟨.undefined, first.stored⟩

end Run

/-- A key of a section, the setting it stands for and its conversion. -/
structure Field where
  name : String
  setting : Setting
  reader : Reader

namespace Source

variable (source : Source)

/-- The `if` chain over the fields, at the key at `cursor`: where the next key is. -/
def parseField (fields : List Field) (key : Token) (cursor : ℕ) : Run ℕ :=
  match fields.find? (source.jsonTokenEquals key ·.name) with
  | none => .pure (jsonSkip source.tokens (cursor + 1))
  | some field =>
    match source.token (cursor + 1) with
    | none => .undefined
    | some token =>
      match field.reader.read token.kind (source.content token) with
      | none => .rejected
      | some value =>
        ⟨.done (jsonSkip source.tokens (cursor + 1)),
          [⟨cursor, cursor + 1, (field.setting, value)⟩]⟩

def parseKey (objects : List (String × (ℕ → Run ℕ))) (otherwise : Token → ℕ → Run ℕ) (key : Token)
    (cursor : ℕ) : Run ℕ :=
  match objects.find? (source.jsonTokenEquals key ·.1) with
  | some object => object.2 (cursor + 1)
  | none => otherwise key cursor

/-- The loop of a section parser. Every turn passes a key, so the tokens are enough fuel. -/
def objectLoop (onKey : Token → ℕ → Run ℕ) (stop : ℕ) : ℕ → ℕ → Run ℕ
  | 0, _ => .pure stop
  | fuel + 1, cursor =>
    if cursor < stop then
      match source.token cursor with
      | none => .undefined
      | some key =>
        if key.kind = .string then (onKey key cursor).bind (objectLoop onKey stop fuel)
        else .rejected
    else .pure stop

/-- A section parser at the value at `index`: a value that is no object is skipped. -/
def parseObject (onKey : Token → ℕ → Run ℕ) (index : ℕ) : Run ℕ :=
  match source.token index with
  | none => .undefined
  | some object =>
    if object.kind = .object then
      source.objectLoop onKey (jsonSkip source.tokens index) source.tokens.length (index + 1)
    else .pure (jsonSkip source.tokens index)

end Source

/-- The keys of `parse_metrics_tls_object`. -/
def tlsFields : List Field :=
  [⟨"certificate", .metricsTlsCertPath, .string 256⟩,
    ⟨"private_key", .metricsTlsKeyPath, .string 256⟩,
    ⟨"client_ca", .metricsTlsCaPath, .string 256⟩,
    ⟨"require_client_auth", .metricsTlsRequireClientAuth, .bool⟩]

/-- The keys of `parse_metrics_basic_auth_object`. -/
def basicAuthFields : List Field :=
  [⟨"username", .metricsBasicAuthUser, .string 128⟩,
    ⟨"password", .metricsBasicAuthPass, .string 128⟩]

/-- The keys of `parse_metrics_statsd_object`. -/
def statsdFields : List Field :=
  [⟨"host", .statsdHost, .string 128⟩, ⟨"port", .statsdPort, .int 1 65535⟩]

/-- The keys of `parse_metrics_object` with scalar values. -/
def metricsFields : List Field :=
  [⟨"bind_address", .metricsBindHost, .string 64⟩, ⟨"port", .metricsPort, .int 0 65535⟩]

/-- The keys of `parse_predictive_object`. -/
def predictiveFields : List Field :=
  [⟨"coeff_path", .predictiveCoeffPath, .string 256⟩,
    ⟨"temp_ceiling_c", .predictiveTempCeilingC, .int 20 125⟩,
    ⟨"safety_margin_c", .predictiveSafetyMarginC, .int 0 60⟩,
    ⟨"emergency_margin_c", .predictiveEmergencyMarginC, .int 0 60⟩,
    ⟨"alpha", .predictiveAlpha, .double 0 1⟩]

/-- The keys of `parse_telemetry_object`. -/
def telemetryFields : List Field :=
  [⟨"profile", .telemetryProfilePath, .string 256⟩,
    ⟨"interval_ms", .telemetryIntervalMs, .int 10 60000⟩,
    ⟨"max_skew_ms", .telemetryMaxSkewMs, .int 0 60000⟩,
    ⟨"ewma", .telemetryEwmaAlpha, .double 0 1⟩]

namespace Source

variable (source : Source)

/-- `parse_metrics_tls_object`. -/
def parseMetricsTlsObject : ℕ → Run ℕ := source.parseObject (source.parseField tlsFields)

/-- `parse_metrics_basic_auth_object`. -/
def parseMetricsBasicAuthObject : ℕ → Run ℕ :=
  source.parseObject (source.parseField basicAuthFields)

/-- `parse_metrics_statsd_object`. -/
def parseMetricsStatsdObject : ℕ → Run ℕ := source.parseObject (source.parseField statsdFields)

/-- `parse_metrics_object`. -/
def parseMetricsObject : ℕ → Run ℕ :=
  source.parseObject
    (source.parseKey
      [("tls", source.parseMetricsTlsObject), ("basic_auth", source.parseMetricsBasicAuthObject),
        ("statsd", source.parseMetricsStatsdObject)]
      (source.parseField metricsFields))

/-- `parse_predictive_object`. -/
def parsePredictiveObject : ℕ → Run ℕ := source.parseObject (source.parseField predictiveFields)

/-- `parse_telemetry_object`. -/
def parseTelemetryObject : ℕ → Run ℕ := source.parseObject (source.parseField telemetryFields)

/-- The body of the loop of `parse_config_file`. -/
def parseSection : Token → ℕ → Run ℕ :=
  source.parseKey
    [("predictive", source.parsePredictiveObject), ("telemetry", source.parseTelemetryObject),
      ("metrics", source.parseMetricsObject)]
    fun _ cursor => .pure (jsonSkip source.tokens (cursor + 1))

/-- The loop of `parse_config_file`, with the pairs still to come. -/
def parsePairs : ℕ → ℕ → Run Unit
  | 0, _ => .pure ()
  | pairs + 1, cursor =>
    match source.token cursor with
    | none => .undefined
    | some key =>
      if key.kind = .string then (source.parseSection key cursor).bind (parsePairs pairs)
      else .rejected

end Source

def allocate (text : List Char) : ℕ → ℕ → ℕ × Except Error (List Token)
  | 0, capacity => (capacity, parse capacity text)
  | fuel + 1, capacity =>
    if parse capacity text = .error .nomem then allocate text fuel (capacity * 2)
    else (capacity, parse capacity text)

/-- `parse_config_file` of a readable file. An array as long as the text is never too small, so its
length is enough fuel. -/
def parseConfigFile (text : List Char) : Run Unit :=
  if 2 ^ 31 ≤ text.length then .undefined
  else
    match allocate text text.length 128 with
    | (_, .error _) => .rejected
    | (capacity, .ok tokens) =>
      match tokens with
      | [] => .rejected
      | root :: _ =>
        if root.kind = .object then
          Source.parsePairs ⟨text, tokens, capacity⟩ root.size 1
        else .rejected

private def Reader.domain : Reader → Domain
  | string size => .text size
  | int min max => .int min max
  | double min max => .real min max
  | bool => .int 0 1

theorem Reader.read_admits {reader : Reader} {kind content v}
    (read : reader.read kind content = some v) : reader.domain.Admits v := by
  cases reader with
  | string =>
    simp only [Reader.read, Option.ite_none_right_eq_some, Option.some.injEq] at read
    obtain ⟨⟨-, _⟩, rfl⟩ := read
    have shorter := (content.takeWhile_sublist (· ≠ '\x00')).length_le
    simp only [domain, Domain.Admits, String.length_ofList]
    omega
  | int min max =>
    simp only [Reader.read, Option.ite_none_right_eq_some, Option.map_eq_some_iff] at read
    obtain ⟨-, number, parsed, rfl⟩ := read
    exact parseIntOption_bounds parsed
  | double min max =>
    simp only [Reader.read, Option.ite_none_right_eq_some, Option.map_eq_some_iff] at read
    obtain ⟨-, number, parsed, rfl⟩ := read
    exact parseDoubleOption_bounds parsed
  | bool =>
    simp only [Reader.read] at read
    split_ifs at read <;> cases read
    all_goals exact ⟨by decide, by decide⟩

private def Fits (fields : List Field) : Prop :=
  ∀ field ∈ fields, field.reader.domain = field.setting.domain
  deriving Decidable

def Run.assignments {α : Type} (run : Run α) : List Assignment := run.stored.map Stored.assignment

private def Run.Admitted {α : Type} (run : Run α) : Prop :=
  ∀ assignment ∈ run.assignments, assignment.Admitted

section

variable {α β : Type}

@[simp]
theorem admitted_pure (v : α) : (Run.pure v).Admitted := by
  simp [Run.Admitted, Run.assignments, Run.pure]

@[simp]
theorem admitted_rejected : (Run.rejected : Run α).Admitted := by
  simp [Run.Admitted, Run.assignments, Run.rejected]

@[simp]
theorem admitted_undefined : (Run.undefined : Run α).Admitted := by
  simp [Run.Admitted, Run.assignments, Run.undefined]

theorem Run.Admitted.bind {first : Run α} {next : α → Run β} (admitted : first.Admitted)
    (later : ∀ v, (next v).Admitted) : (first.bind next).Admitted := by
  obtain ⟨out, _⟩ := first
  cases out with
  | done v =>
    simp only [Run.Admitted, Run.assignments, Run.bind, List.map_append, List.forall_mem_append]
    exact ⟨admitted, later v⟩
  | rejected | undefined => exact admitted

variable {source : Source}

theorem parseField_admitted {fields} (fits : Fits fields) (key cursor) :
    (source.parseField fields key cursor).Admitted := by
  unfold Source.parseField
  cases chosen : fields.find? (source.jsonTokenEquals key ·.name) with
  | none => simp
  | some field =>
    cases source.token (cursor + 1) with
    | none => simp
    | some token =>
      cases read : field.reader.read token.kind (source.content token) with
      | none => simp [read]
      | some =>
        have admits := Reader.read_admits read
        rw [fits field (List.mem_of_find?_eq_some chosen)] at admits
        simpa [read, Run.Admitted, Run.assignments, Assignment.Admitted] using admits

theorem parseKey_admitted {objects} (each : ∀ object ∈ objects, ∀ i, (object.2 i).Admitted)
    {otherwise} (others : ∀ key cursor, (otherwise key cursor).Admitted) (key cursor) :
    (source.parseKey objects otherwise key cursor).Admitted := by
  unfold Source.parseKey
  cases chosen : objects.find? (source.jsonTokenEquals key ·.1) with
  | none => exact others key cursor
  | some object => exact each object (List.mem_of_find?_eq_some chosen) _

theorem objectLoop_admitted {onKey} (each : ∀ key cursor, (onKey key cursor).Admitted)
    (stop fuel cursor) : (source.objectLoop onKey stop fuel cursor).Admitted := by
  induction fuel generalizing cursor with
  | zero => simp [Source.objectLoop]
  | succ fuel fuelHolds =>
    rw [Source.objectLoop]
    split_ifs
    · cases source.token cursor with
      | none => simp
      | some key =>
        dsimp only
        split_ifs
        · exact (each key cursor).bind fuelHolds
        · simp
    · simp

theorem parseObject_admitted {onKey} (each : ∀ key cursor, (onKey key cursor).Admitted) (i) :
    (source.parseObject onKey i).Admitted := by
  unfold Source.parseObject
  cases source.token i with
  | none => simp
  | some =>
    dsimp only
    split_ifs
    · exact objectLoop_admitted each _ _ _
    · simp

theorem parseSection_admitted (key cursor) : (source.parseSection key cursor).Admitted := by
  refine parseKey_admitted ?_ (fun _ _ => admitted_pure _) key cursor
  simp only [List.forall_mem_cons, List.not_mem_nil, false_imp_iff, implies_true, and_true]
  refine ⟨parseObject_admitted (parseField_admitted (by decide)),
    parseObject_admitted (parseField_admitted (by decide)),
    parseObject_admitted (parseKey_admitted ?_ (parseField_admitted (by decide)))⟩
  simp only [List.forall_mem_cons, List.not_mem_nil, false_imp_iff, implies_true, and_true]
  exact ⟨parseObject_admitted (parseField_admitted (by decide)),
    parseObject_admitted (parseField_admitted (by decide)),
    parseObject_admitted (parseField_admitted (by decide))⟩

theorem parsePairs_admitted (pairs cursor) : (source.parsePairs pairs cursor).Admitted := by
  induction pairs generalizing cursor with
  | zero => simp [Source.parsePairs]
  | succ pairs pairsHold =>
    rw [Source.parsePairs]
    cases source.token cursor with
    | none => simp
    | some key =>
      dsimp only
      split_ifs
      · exact (parseSection_admitted key cursor).bind pairsHold
      · simp

end

theorem parseConfigFile_admitted (text) : (parseConfigFile text).Admitted := by
  unfold parseConfigFile
  split_ifs
  · simp
  · obtain ⟨_, parsed⟩ := allocate text text.length 128
    match parsed with
    | .error _ | .ok [] => simp
    | .ok (root :: tokens) =>
      dsimp only
      split_ifs
      · exact parsePairs_admitted _ _
      · simp

end ThermalSimd.ConfigFile
