import ThermalSimd.ConfigFile

/-!
# The command line

`tsd_runtime_config_parse_cli`: the defaults, the log level of the environment, the arguments from
left to right, and a final normalisation and validation. The chain of `strncmp` and `strcmp` tests
is a table of branches. A run is known by its assignments (`parseArguments_eq_returned_iff`).
-/

namespace ThermalSimd.Cli

open CText ConfigFile

variable {cfg : RuntimeConfig}

/-- An element of `argv`: its characters, and what memory holds behind their terminator. -/
structure Argument where
  text : List Char
  beyond : List Char
  whole : '\x00' ∉ text

/-- What the parser reads besides its arguments. -/
structure Environment where
  /-- `getenv("TSD_LOG_LEVEL")`. -/
  logLevel : Option (List Char)
  file : List Char → Option (List Char)

/-- `tsd_log_level_from_string`. -/
def logLevelFromString (text : List Char) : Option LogLevel :=
  let lower := text.map Char.toLower
  if lower = "error".toList then some .error
  else if lower = "warn".toList ∨ lower = "warning".toList then some .warn
  else if lower = "info".toList then some .info
  else if lower = "debug".toList then some .debug
  else none

/-- How the text behind an option is read. -/
inductive ValueReader
  | int (min max : ℤ)
  | ms (min max : ℤ)
  | degrees (min max : ℤ)
  | double (min max : ℚ)
  | ratio (min max : ℚ)
  | ratioMilli (min max : ℚ)
  | text (size : ℕ)
  | level
  deriving DecidableEq

def ValueReader.read (value : List Char) : ValueReader → Option Value
  | int min max => (parseIntOption value min max).map .int
  | ms min max => (parseMsOption value min max).map .int
  | degrees min max => (parseIntOption value min max).map fun number => .int (number * 1000)
  | double min max => (parseDoubleOption value min max).map fun number => .real (.finite number)
  | ratio min max => (parseRatioOption value min max).map fun parsed => .real (.finite parsed.1)
  | ratioMilli min max => (parseRatioOption value min max).map fun parsed => .int parsed.2
  | text size =>
    if value = [] ∨ size ≤ value.length then none else some (.text (String.ofList value))
  | level => (logLevelFromString value).map .level

/-- What a branch of the chain does. -/
inductive Action
  | config
  | set (reader : ValueReader) (setting : Setting)
  | basicAuth
  | flag (value : ℤ) (setting : Setting)
  | sandboxOnly
  | help
  deriving DecidableEq

/-- It assigns, sets the global sandbox flag, ends the process, or is undefined. -/
inductive Effect
  | stores (assignments : List Assignment)
  | flagsSandbox
  | exits (status : ℕ)
  | undefined
  deriving DecidableEq

/-- `die_invalid_option` where there is nothing to assign. -/
def Effect.ofOption : Option (List Assignment) → Effect
  | some assignments => .stores assignments
  | none => .exits 1

variable (env : Environment) (arguments : List Argument)

/-- The branch of `--config`. -/
def loadConfig (path : List Char) : Effect :=
  if path = [] then .exits 1
  else
    match env.file path with
    | none => .exits 1
    | some text =>
      match (parseConfigFile text).outcome with
      | .done () => .stores (parseConfigFile text).assignments
      | .rejected => .exits 1
      | .undefined => .undefined

/-- The branch of `--metrics-basic-auth`: the text is split at its first colon. -/
def readBasicAuth (value : List Char) : Option (List Assignment) :=
  let user := value.takeWhile (· ≠ ':')
  match value.dropWhile (· ≠ ':') with
  | [] => none
  | _ :: pass =>
    if user = [] ∨ pass = [] ∨ 128 ≤ user.length ∨ 128 ≤ pass.length then none
    else
      some [(.metricsBasicAuthUser, .text (String.ofList user)),
        (.metricsBasicAuthPass, .text (String.ofList pass))]

def Action.effect (value : List Char) : Action → Effect
  | config => loadConfig env value
  | set reader setting => .ofOption ((reader.read value).map fun read => [(setting, read)])
  | basicAuth => .ofOption (readBasicAuth value)
  | flag value setting => .stores [(setting, .int value)]
  | sandboxOnly => .flagsSandbox
  | help => .exits 0

/-- What is compared over how many characters (all by `strcmp`), and the body, whose text starts
behind as many. -/
structure Branch where
  literal : String
  compared : Option ℕ
  action : Action
  deriving DecidableEq

def Branch.selects (branch : Branch) (argument : Argument) : Bool :=
  match branch.compared with
  | some count => equalUpTo count argument.text branch.literal.toList
  | none => argument.text = branch.literal.toList

/-- `argv[i] + count`. -/
def Branch.value (branch : Branch) (argument : Argument) : List Char :=
  stringAt argument.text argument.beyond (branch.compared.getD 0)

/-- The branches in their order. -/
def chain : List Branch :=
  [⟨"--config=", some 9, .config⟩,
    ⟨"--interval=", some 11, .set (.ms 1 10000) .checkIntervalUs⟩,
    ⟨"--down-count=", some 13, .set (.int 1 100) .downCount⟩,
    ⟨"--up-count=", some 11, .set (.int 1 100) .upCount⟩,
    ⟨"--down-ratio=", some 13, .set (.ratio 1 10) .downRatio⟩,
    ⟨"--cooldown-down=", some 16, .set (.int 1 3600000) .cooldownDownMs⟩,
    ⟨"--cooldown-up=", some 14, .set (.int 1 3600000) .cooldownUpMs⟩,
    ⟨"--min-dwell=", some 12, .set (.int 1 3600000) .minDwellMs⟩,
    ⟨"--no-avx512", none, .flag 0 .allowAvx512⟩,
    ⟨"--allow-avx512", none, .flag 1 .allowAvx512⟩,
    ⟨"--memory-guard-div=", some 20, .set (.int 1 1000) .memoryGuardDivisor⟩,
    ⟨"--memory-guard-offset=", some 23, .set (.int 0 1000000) .memoryGuardOffsetMilli⟩,
    ⟨"--thermal-temp-weight=", some 22, .set (.int 0 100000) .thermalTempWeightMilli⟩,
    ⟨"--thermal-ratio-weight=", some 23, .set (.int 0 100000) .thermalRatioWeightMilli⟩,
    ⟨"--duration-sec=", some 15, .set (.int 1 86400) .demoDurationSec⟩,
    ⟨"--run-forever", none, .flag 1 .runForever⟩,
    ⟨"--work-iters=", some 13, .set (.int 1 RuntimeConfig.intMax) .workIters⟩,
    ⟨"--metrics-port=", some 15, .set (.int 0 65535) .metricsPort⟩,
    ⟨"--metrics-bind=", some 15, .set (.text 64) .metricsBindHost⟩,
    ⟨"--metrics-cert=", some 15, .set (.text 256) .metricsTlsCertPath⟩,
    ⟨"--metrics-key=", some 14, .set (.text 256) .metricsTlsKeyPath⟩,
    ⟨"--metrics-ca=", some 13, .set (.text 256) .metricsTlsCaPath⟩,
    ⟨"--metrics-require-client-auth", none, .flag 1 .metricsTlsRequireClientAuth⟩,
    ⟨"--metrics-basic-auth=", some 21, .basicAuth⟩,
    ⟨"--statsd-host=", some 14, .set (.text 128) .statsdHost⟩,
    ⟨"--statsd-port=", some 14, .set (.int 1 65535) .statsdPort⟩,
    ⟨"--degraded-timeout-sec=", some 23, .set (.int 1 86400) .degradedTimeoutSec⟩,
    ⟨"--temp-ceiling=", some 15, .set (.int 20 125) .predictiveTempCeilingC⟩,
    ⟨"--safety-margin=", some 16, .set (.int 0 60) .predictiveSafetyMarginC⟩,
    ⟨"--emergency-margin=", some 19, .set (.int 0 60) .predictiveEmergencyMarginC⟩,
    ⟨"--predictive-alpha=", some 19, .set (.double 0 1) .predictiveAlpha⟩,
    ⟨"--telemetry-interval=", some 21, .set (.int 10 60000) .telemetryIntervalMs⟩,
    ⟨"--telemetry-max-skew=", some 21, .set (.int 0 60000) .telemetryMaxSkewMs⟩,
    ⟨"--telemetry-ewma=", some 17, .set (.double 0 1) .telemetryEwmaAlpha⟩,
    ⟨"--telemetry-profile=", some 20, .set (.text 256) .telemetryProfilePath⟩,
    ⟨"--coeff-path=", some 13, .set (.text 256) .predictiveCoeffPath⟩,
    ⟨"--policy-slo-ratio=", some 19, .set (.ratioMilli (1 / 2) 10) .sloRatioMilli⟩,
    ⟨"--policy-slo-temp=", some 18, .set (.degrees (-100) 200) .sloTempMillic⟩,
    ⟨"--policy-penalty-up=", some 20, .set (.int 0 1000000) .transitionPenaltyUpMilli⟩,
    ⟨"--policy-penalty-down=", some 22, .set (.int 0 1000000) .transitionPenaltyDownMilli⟩,
    ⟨"--policy-forecast=", some 19, .set (.int 0 1000) .forecastHorizon⟩,
    ⟨"--health-check", none, .flag 1 .healthCheckMode⟩,
    ⟨"--sandbox-only", none, .sandboxOnly⟩,
    ⟨"--log-level=", some 12, .set .level .logLevel⟩,
    ⟨"--help", none, .help⟩]

namespace Argument

def branch (argument : Argument) : Option Branch := chain.find? (·.selects argument)

def effect (env : Environment) (argument : Argument) : Effect :=
  match argument.branch with
  | some branch => branch.action.effect env (branch.value argument)
  | none => .exits 1

end Argument

/-- A function returns, exits the process, or has no defined behaviour. -/
inductive Outcome (α : Type)
  | returned (value : α)
  | exited (status : ℕ)
  | undefined
  deriving DecidableEq

def Outcome.bind {α β : Type} (first : Outcome α) (next : α → Outcome β) : Outcome β :=
  match first with
  | returned value => next value
  | exited status => .exited status
  | undefined => .undefined

/-- What the argument loop updates. -/
structure State where
  cfg : RuntimeConfig
  sandboxOnly : Bool
  deriving DecidableEq

def Effect.apply (state : State) : Effect → Outcome State
  | stores assignments => .returned { state with cfg := state.cfg.assign assignments }
  | flagsSandbox => .returned { state with sandboxOnly := true }
  | exits status => .exited status
  | undefined => .undefined

def parseArguments (env : Environment) : List Argument → State → Outcome State
  | [], state => .returned state
  | argument :: rest, state =>
    ((argument.effect env).apply state).bind (parseArguments env rest)

def initial : RuntimeConfig :=
  match env.logLevel with
  | none => .setDefaults
  | some text =>
    match if text = [] then none else logLevelFromString text with
    | some level => { RuntimeConfig.setDefaults with logLevel := level }
    | none => .setDefaults

def normalise (cfg : RuntimeConfig) : RuntimeConfig :=
  let cfg :=
    if cfg.metricsPort ≤ 0 then { cfg with metricsPort := 0, metricsEnabled := 0 }
    else if cfg.metricsEnabled = 0 then { cfg with metricsEnabled := 1 }
    else cfg
  if cfg.metricsBindHost = "" then
    { cfg with metricsBindHost := RuntimeConfig.setDefaults.metricsBindHost }
  else cfg

/-- A certificate has a key, client authentication a CA bundle, a user a password. -/
structure CrossRules (cfg : RuntimeConfig) : Prop where
  tlsPair : cfg.metricsTlsCertPath ≠ "" ↔ cfg.metricsTlsKeyPath ≠ ""
  clientCa : cfg.metricsTlsRequireClientAuth ≠ 0 → cfg.metricsTlsCaPath ≠ ""
  authPair : cfg.metricsBasicAuthUser ≠ "" ↔ cfg.metricsBasicAuthPass ≠ ""

instance (cfg : RuntimeConfig) : Decidable (CrossRules cfg) :=
  decidable_of_iff
    ((cfg.metricsTlsCertPath ≠ "" ↔ cfg.metricsTlsKeyPath ≠ "") ∧
      (cfg.metricsTlsRequireClientAuth ≠ 0 → cfg.metricsTlsCaPath ≠ "") ∧
      (cfg.metricsBasicAuthUser ≠ "" ↔ cfg.metricsBasicAuthPass ≠ ""))
    ⟨fun rules => ⟨rules.1, rules.2.1, rules.2.2⟩,
      fun rules => ⟨rules.tlsPair, rules.clientCa, rules.authPair⟩⟩

/-- The ranges of `validate_runtime_config`; numbers not finite are never stored. -/
def RangesValid (cfg : RuntimeConfig) : Prop :=
  10 ≤ cfg.telemetryIntervalMs ∧ cfg.telemetryIntervalMs ≤ 60000 ∧
  0 ≤ cfg.telemetryMaxSkewMs ∧ cfg.telemetryMaxSkewMs ≤ 60000 ∧
  20 ≤ cfg.predictiveTempCeilingC ∧ cfg.predictiveTempCeilingC ≤ 125 ∧
  0 ≤ cfg.predictiveSafetyMarginC ∧ cfg.predictiveSafetyMarginC ≤ 60 ∧
  0 ≤ cfg.predictiveEmergencyMarginC ∧ cfg.predictiveEmergencyMarginC ≤ 60 ∧
  cfg.predictiveAlpha.FiniteWith (fun alpha => 0 ≤ alpha ∧ alpha ≤ 1)
  deriving Decidable

/-- `validate_runtime_config`, which also drops the StatsD port where there is no host. -/
def validateRuntimeConfig (cfg : RuntimeConfig) : Option RuntimeConfig :=
  if CrossRules cfg then
    let cfg := if cfg.statsdHost = "" then { cfg with statsdPort := 0 } else cfg
    if RangesValid cfg then some cfg else none
  else none

/-- The scaled ratio, and one where that is zero. -/
def downRatioMilliOf : Double → ℕ
  | .finite ratio => if milliOf ratio = 0 then 1 else milliOf ratio
  | .nonfinite => 1

def finish (cfg : RuntimeConfig) : Outcome RuntimeConfig :=
  match validateRuntimeConfig (normalise cfg) with
  | none => .exited 1
  | some cfg =>
    match RuntimeConfig.refreshTicks
      { cfg with
        downRatioMilli := downRatioMilliOf cfg.downRatio
        policy := policyConfigApplyBounds cfg.policy } with
    | .error _ => .exited 1
    | .ok cfg => .returned cfg

/-- `tsd_runtime_config_parse_cli`. -/
def parseCli : Outcome State :=
  (parseArguments env arguments ⟨initial env, false⟩).bind fun state =>
    (finish state.cfg).bind fun cfg => .returned { state with cfg }

def Effect.goesOn : Effect → Bool
  | stores _ | flagsSandbox => true
  | exits _ | undefined => false

def Effect.assignments : Effect → List Assignment
  | stores assignments => assignments
  | flagsSandbox | exits _ | undefined => []

def Argument.writes (argument : Argument) : List Assignment :=
  (argument.effect env).assignments

def writes (env : Environment) (arguments : List Argument) : List Assignment :=
  arguments.flatMap (·.writes env)

theorem Effect.apply_of_goesOn {effect : Effect} (goesOn : effect.goesOn = true) (st) :
    effect.apply st = .returned
      ⟨st.cfg.assign effect.assignments, st.sandboxOnly || effect = .flagsSandbox⟩ := by
  cases effect with
  | stores => simp [apply, assignments]
  | flagsSandbox => simp [apply, assignments, RuntimeConfig.assign]
  | exits _ | undefined => cases goesOn

theorem parseArguments_eq_returned_iff {env arguments st final} :
    parseArguments env arguments st = .returned final ↔
      (∀ argument ∈ arguments, (argument.effect env).goesOn = true) ∧
        final = ⟨st.cfg.assign (writes env arguments),
          st.sandboxOnly || arguments.any (·.effect env = .flagsSandbox)⟩ := by
  induction arguments generalizing st with
  | nil =>
    simp only [parseArguments, Outcome.returned.injEq, List.not_mem_nil, false_imp_iff,
      implies_true, true_and, writes, List.flatMap_nil, RuntimeConfig.assign, List.foldl_nil,
      List.any_nil, Bool.or_false]
    exact eq_comm
  | cons argument _ hrest =>
    rw [parseArguments, List.forall_mem_cons]
    by_cases goesOn : (argument.effect env).goesOn = true
    · rw [Effect.apply_of_goesOn goesOn, Outcome.bind, hrest, and_iff_right goesOn]
      simp [writes, Argument.writes, RuntimeConfig.assign, Bool.or_assoc]
    · cases effect : argument.effect env with
      | stores | flagsSandbox => rw [effect] at goesOn; exact absurd rfl goesOn
      | exits _ | undefined => simp [Effect.apply, Outcome.bind, Effect.goesOn]

private def ValueReader.domain : ValueReader → Domain
  | int min max => .int min max
  | ms min max | degrees min max => .int (min * 1000) (max * 1000)
  | double min max | ratio min max => .real min max
  | ratioMilli min max => .int (scaleRatio min) (scaleRatio max)
  | text size => .text size
  | level => .level

theorem ValueReader.read_admits {reader : ValueReader} {v read}
    (reads : reader.read v = some read) : reader.domain.Admits read := by
  cases reader with
  | int min max =>
    obtain ⟨number, parsed, rfl⟩ := Option.map_eq_some_iff.mp reads
    exact parseIntOption_bounds parsed
  | ms min max =>
    obtain ⟨number, parsed, rfl⟩ := Option.map_eq_some_iff.mp reads
    unfold parseMsOption at parsed
    split at parsed
    · cases parsed
    · next _ found =>
        have bounds := parseIntOption_bounds found
        split_ifs at parsed
        cases parsed
        exact ⟨by omega, by omega⟩
  | degrees min max =>
    obtain ⟨number, parsed, rfl⟩ := Option.map_eq_some_iff.mp reads
    obtain ⟨least, greatest⟩ := parseIntOption_bounds parsed
    exact ⟨by omega, by omega⟩
  | double min max =>
    obtain ⟨number, parsed, rfl⟩ := Option.map_eq_some_iff.mp reads
    exact parseDoubleOption_bounds parsed
  | ratio min max =>
    obtain ⟨⟨number, scaled⟩, parsed, rfl⟩ := Option.map_eq_some_iff.mp reads
    exact (parseRatioOption_eq parsed).1
  | ratioMilli min max =>
    obtain ⟨⟨number, scaled⟩, parsed, rfl⟩ := Option.map_eq_some_iff.mp reads
    obtain ⟨⟨least, greatest⟩, rfl⟩ := parseRatioOption_eq parsed
    exact ⟨Int.ofNat_le.mpr (scaleRatio_mono least), Int.ofNat_le.mpr (scaleRatio_mono greatest)⟩
  | text =>
    simp only [ValueReader.read, Option.ite_none_left_eq_some, Option.some.injEq] at reads
    obtain ⟨_, rfl⟩ := reads
    simp only [domain, Domain.Admits, String.length_ofList]
    omega
  | level =>
    obtain ⟨level, -, rfl⟩ := Option.map_eq_some_iff.mp reads
    trivial

private def Action.Fits : Action → Prop
  | set reader setting => reader.domain = setting.domain
  | flag value setting => (value = 0 ∨ value = 1) ∧ setting.domain = .int 0 1
  | config | basicAuth | sandboxOnly | help => True

instance (action : Action) : Decidable action.Fits :=
  match action with
  | .set _ _ => inferInstanceAs (Decidable (_ = _))
  | .flag _ _ => inferInstanceAs (Decidable (_ ∧ _))
  | .config | .basicAuth | .sandboxOnly | .help => inferInstanceAs (Decidable True)

theorem chain_fits : ∀ branch ∈ chain, branch.action.Fits := by decide +kernel

theorem readBasicAuth_admitted {v assignments}
    (reads : readBasicAuth v = some assignments) :
    ∀ asg ∈ assignments, asg.Admitted := by
  unfold readBasicAuth at reads
  dsimp only at reads
  split at reads
  · cases reads
  · split_ifs at reads with bad
    cases reads
    push Not at bad
    simpa [Assignment.Admitted, Setting.domain, Domain.Admits] using bad.2.2

theorem loadConfig_admitted (path) :
    ∀ asg ∈ (loadConfig env path).assignments, asg.Admitted := by
  unfold loadConfig
  split_ifs
  · simp [Effect.assignments]
  · cases env.file path with
    | none => simp [Effect.assignments]
    | some text =>
      dsimp only
      split
      · exact parseConfigFile_admitted text
      · simp [Effect.assignments]
      · simp [Effect.assignments]

theorem Action.effect_admitted {action : Action} (fits : action.Fits) (env v) :
    ∀ asg ∈ (action.effect env v).assignments, asg.Admitted := by
  cases action with
  | config => exact loadConfig_admitted env v
  | set reader setting =>
    cases reads : reader.read v with
    | none => simp [effect, reads, Effect.ofOption, Effect.assignments]
    | some read =>
      have admits := ValueReader.read_admits reads
      rw [show reader.domain = setting.domain from fits] at admits
      simpa [effect, reads, Effect.ofOption, Effect.assignments, Assignment.Admitted] using admits
  | basicAuth =>
    cases reads : readBasicAuth v with
    | none => simp [effect, reads, Effect.ofOption, Effect.assignments]
    | some assignments =>
      simpa [effect, reads, Effect.ofOption, Effect.assignments] using
        readBasicAuth_admitted reads
  | flag _ setting =>
    obtain ⟨_, domain⟩ := fits
    simp only [effect, Effect.assignments, List.mem_singleton, forall_eq, Assignment.Admitted,
      domain, Domain.Admits]
    omega
  | sandboxOnly | help => simp [effect, Effect.assignments]

theorem Argument.writes_admitted (argument : Argument) :
    ∀ asg ∈ argument.writes env, asg.Admitted := by
  unfold writes effect
  cases chosen : argument.branch with
  | none => simp [Effect.assignments]
  | some branch =>
    exact Action.effect_admitted (chain_fits branch (List.mem_of_find?_eq_some chosen)) env _

theorem writes_admitted (env arguments) :
    ∀ asg ∈ writes env arguments, asg.Admitted := by
  intro asg mem
  obtain ⟨argument, -, written⟩ := List.mem_flatMap.mp mem
  exact argument.writes_admitted env asg written

theorem initial_inRange : (initial env).InRange := by
  have default := RuntimeConfig.setDefaults_inRange
  unfold initial
  split
  · exact default
  · split
    · intro setting
      have inRange := default setting
      cases setting <;> exact inRange
    · exact default

def gathered : RuntimeConfig :=
  (initial env).assign (writes env arguments)

theorem gathered_inRange : (gathered env arguments).InRange :=
  (initial_inRange env).assign (writes_admitted env arguments)

def ticksFor (intervalUs ms : ℤ) : ℤ := (ms * 1000 + intervalUs - 1) / intervalUs

theorem computeTicksFromMs_eq {intervalUs ms}
    (interval : 1000 ≤ intervalUs ∧ intervalUs ≤ 10000000) (time : 1 ≤ ms ∧ ms ≤ 3600000) :
    RuntimeConfig.computeTicksFromMs intervalUs ms = .ok (ticksFor intervalUs ms) := by
  have least : 1 ≤ ticksFor intervalUs ms := by
    rw [ticksFor, Int.le_ediv_iff_mul_le (by omega)]
    omega
  have greatest : ticksFor intervalUs ms < RuntimeConfig.intMax := by
    rw [ticksFor, RuntimeConfig.intMax]
    exact Int.ediv_lt_of_lt_mul (by omega) (by omega)
  rw [RuntimeConfig.computeTicksFromMs, if_neg (by omega), if_neg (by omega)]
  rw [ticksFor] at least greatest
  rw [if_neg (by omega)]
  rfl

/-- What is returned for settings in range: a port only with a StatsD host, a bind address, a
forecast of a sample at least, and the derived members. -/
def settle (cfg : RuntimeConfig) : RuntimeConfig :=
  { cfg with
    metricsEnabled := if 0 < cfg.metricsPort then 1 else 0
    metricsBindHost :=
      if cfg.metricsBindHost = "" then RuntimeConfig.setDefaults.metricsBindHost
      else cfg.metricsBindHost
    statsdPort := if cfg.statsdHost = "" then 0 else cfg.statsdPort
    downRatioMilli := downRatioMilliOf cfg.downRatio
    policy := policyConfigApplyBounds cfg.policy
    cooldownDownTicks := ticksFor cfg.checkIntervalUs cfg.cooldownDownMs
    cooldownUpTicks := ticksFor cfg.checkIntervalUs cfg.cooldownUpMs
    minDwellTicks := ticksFor cfg.checkIntervalUs cfg.minDwellMs }

def TimesValid (cfg : RuntimeConfig) : Prop :=
  (1000 ≤ cfg.checkIntervalUs ∧ cfg.checkIntervalUs ≤ 10000000) ∧
    (1 ≤ cfg.cooldownDownMs ∧ cfg.cooldownDownMs ≤ 3600000) ∧
    (1 ≤ cfg.cooldownUpMs ∧ cfg.cooldownUpMs ≤ 3600000) ∧
    (1 ≤ cfg.minDwellMs ∧ cfg.minDwellMs ≤ 3600000)

theorem timesValid_of_inRange (inRange : cfg.InRange) : TimesValid cfg :=
  ⟨inRange .checkIntervalUs, inRange .cooldownDownMs, inRange .cooldownUpMs, inRange .minDwellMs⟩

theorem rangesValid_of_inRange (inRange : cfg.InRange) : RangesValid cfg := by
  have interval := inRange .telemetryIntervalMs
  have skew := inRange .telemetryMaxSkewMs
  have ceiling := inRange .predictiveTempCeilingC
  have safety := inRange .predictiveSafetyMarginC
  have emergency := inRange .predictiveEmergencyMarginC
  exact ⟨interval.1, interval.2, skew.1, skew.2, ceiling.1, ceiling.2, safety.1, safety.2,
    emergency.1, emergency.2, inRange .predictiveAlpha⟩

theorem refreshTicks_eq (times : TimesValid cfg) :
    cfg.refreshTicks = .ok
      { cfg with
        cooldownDownTicks := ticksFor cfg.checkIntervalUs cfg.cooldownDownMs
        cooldownUpTicks := ticksFor cfg.checkIntervalUs cfg.cooldownUpMs
        minDwellTicks := ticksFor cfg.checkIntervalUs cfg.minDwellMs } := by
  obtain ⟨interval, down, up, dwell⟩ := times
  unfold RuntimeConfig.refreshTicks
  rw [computeTicksFromMs_eq interval down, computeTicksFromMs_eq interval up,
    computeTicksFromMs_eq interval dwell]
  rfl

theorem normalise_eq (port : 0 ≤ cfg.metricsPort)
    (enabled : cfg.metricsEnabled = 0 ∨ cfg.metricsEnabled = 1) :
    normalise cfg =
      { cfg with
        metricsEnabled := if 0 < cfg.metricsPort then 1 else 0
        metricsBindHost :=
          if cfg.metricsBindHost = "" then RuntimeConfig.setDefaults.metricsBindHost
          else cfg.metricsBindHost } := by
  obtain unserved | served := port.eq_or_lt
  · simp only [normalise, ← unserved, le_refl, if_true, lt_irrefl, if_false]
    split_ifs <;> simp [*]
  · simp only [normalise, not_le.mpr served, served, if_true, if_false]
    rcases enabled with off | on
    · simp only [off, if_true]
      split_ifs <;> simp [*]
    · simp only [on, one_ne_zero, if_false]
      split_ifs <;> rw [← on]

theorem validateRuntimeConfig_eq (ranges : RangesValid cfg) :
    validateRuntimeConfig cfg =
      if CrossRules cfg then
        some { cfg with statsdPort := if cfg.statsdHost = "" then 0 else cfg.statsdPort }
      else none := by
  unfold validateRuntimeConfig
  split_ifs with rules host
  · rw [if_pos (by exact ranges)]
  · rw [if_pos ranges]
  · rfl

theorem finish_eq (inRange : cfg.InRange)
    (enabled : cfg.metricsEnabled = 0 ∨ cfg.metricsEnabled = 1) :
    finish cfg = if CrossRules cfg then .returned (settle cfg) else .exited 1 := by
  have times := timesValid_of_inRange inRange
  have ranges := rangesValid_of_inRange inRange
  rw [finish, normalise_eq (inRange .metricsPort).1 enabled, validateRuntimeConfig_eq ?ranges]
  case ranges => exact ranges
  by_cases rules : CrossRules cfg
  · rw [if_pos rules, if_pos { rules with }]
    dsimp only
    rw [refreshTicks_eq ?times]
    case times => exact times
    rfl
  · rw [if_neg rules, if_neg fun other => rules { other with }]

theorem gathered_metricsEnabled :
    (gathered env arguments).metricsEnabled = 0 ∨ (gathered env arguments).metricsEnabled = 1 := by
  have start : (initial env).metricsEnabled = 1 := by
    unfold initial
    split <;> first | rfl | (split <;> rfl)
  rw [gathered, RuntimeConfig.metricsEnabled_assign]
  cases lastValue .metricsPort (writes env arguments) with
  | none => exact .inr start
  | some =>
    rw [Option.map_some, Option.getD_some]
    split_ifs
    · exact .inr rfl
    · exact .inl rfl

theorem parseCli_eq_returned_iff {env arguments final} :
    parseCli env arguments = .returned final ↔
      (∀ argument ∈ arguments, (argument.effect env).goesOn = true) ∧
        CrossRules (gathered env arguments) ∧
        final = ⟨settle (gathered env arguments),
          arguments.any (·.effect env = .flagsSandbox)⟩ := by
  have ends := finish_eq (gathered_inRange env arguments) (gathered_metricsEnabled env arguments)
  cases looped : parseArguments env arguments ⟨initial env, false⟩ with
  | returned =>
    obtain ⟨goesOn, rfl⟩ := parseArguments_eq_returned_iff.mp looped
    rw [parseCli, looped, Outcome.bind, ← gathered, ends, and_iff_right goesOn]
    by_cases rules : CrossRules (gathered env arguments)
    · simp only [rules, if_true, true_and, Outcome.bind, Outcome.returned.injEq, Bool.false_or]
      exact eq_comm
    · simp [rules, Outcome.bind]
  | exited | undefined =>
    have stops : ¬ ∀ argument ∈ arguments, (argument.effect env).goesOn = true := fun goesOn => by
      rw [parseArguments_eq_returned_iff.mpr ⟨goesOn, rfl⟩] at looped
      cases looped
    simp [parseCli, looped, Outcome.bind, stops]

theorem parseCli_of_unflagged {env arguments}
    (goesOn : ∀ argument ∈ arguments, (argument.effect env).goesOn = true)
    (rules : CrossRules (gathered env arguments))
    (unflagged : arguments.any (·.effect env = .flagsSandbox) = false) :
    parseCli env arguments = .returned ⟨settle (gathered env arguments), false⟩ := by
  rw [parseCli_eq_returned_iff, unflagged]
  exact ⟨goesOn, rules, rfl⟩

/-- What is left of a setting's value in the settled configuration. -/
def shown (statsdHost : String) (setting : Setting) (value : Value) : Value :=
  match setting with
  | .statsdPort => if statsdHost = "" then .int 0 else value
  | .metricsBindHost =>
    if value = .text "" then .text RuntimeConfig.setDefaults.metricsBindHost else value
  | .forecastHorizon => if value = .int 0 then .int 1 else value
  | _ => value

theorem get_settle (setting cfg) :
    setting.get (settle cfg) = shown cfg.statsdHost setting (setting.get cfg) := by
  cases setting with
  | statsdPort =>
    simp only [Setting.get, settle, shown]
    split_ifs <;> rfl
  | metricsBindHost =>
    simp only [Setting.get, settle, shown, Value.text.injEq]
    split_ifs <;> rfl
  | forecastHorizon =>
    simp only [Setting.get, settle, shown, policyConfigApplyBounds, Value.int.injEq,
      Int.natCast_eq_zero]
    split_ifs <;> rfl
  | sloRatioMilli | sloTempMillic | transitionPenaltyUpMilli | transitionPenaltyDownMilli =>
    simp only [Setting.get, settle, shown, policyConfigApplyBounds]
    split_ifs <;> rfl
  | _ => rfl

theorem settle_eq_iff {cfg other} (unset : cfg.unset = other.unset) :
    settle cfg = settle other ↔
      ∀ setting : Setting, setting.get (settle cfg) = setting.get (settle other) := by
  refine ⟨fun same setting => by rw [same], fun same => ?_⟩
  have ratio := Value.real.inj (same .downRatio)
  have port := Value.int.inj (same .metricsPort)
  have interval := Value.int.inj (same .checkIntervalUs)
  have down := Value.int.inj (same .cooldownDownMs)
  have up := Value.int.inj (same .cooldownUpMs)
  have dwell := Value.int.inj (same .minDwellMs)
  simp only [RuntimeConfig.unset, Prod.mk.injEq] at unset
  dsimp only [settle] at ratio port interval down up dwell
  apply RuntimeConfig.eq_of_get_eq same
  · simp only [settle, ratio]
  · simp only [settle, port]
  · simp only [settle, RuntimeConfig.unset, interval, down, up, dwell, unset.2.2.2]

end ThermalSimd.Cli
