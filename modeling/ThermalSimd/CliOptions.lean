import ThermalSimd.CliPrecedence
import ThermalSimd.ConfigLoad

/-!
# The advertised options

Every option of the usage text has a branch of its own, but three branches compare one character
more than their literal has and match only an argument without a value. Without these, advertised
options with values in range reach their settings (`advertised_options_work_iff`).
-/

namespace ThermalSimd.Cli

open CText ConfigFile

variable {action : Action}

/-- The options that `tsd_runtime_config_print_usage` prints, up to their values. -/
def usage : List String :=
  ["--config=", "--interval=", "--down-count=", "--up-count=", "--down-ratio=",
    "--cooldown-down=", "--cooldown-up=", "--min-dwell=", "--allow-avx512", "--no-avx512",
    "--memory-guard-div=", "--memory-guard-offset=", "--thermal-temp-weight=",
    "--thermal-ratio-weight=", "--duration-sec=", "--run-forever", "--work-iters=",
    "--metrics-port=", "--metrics-bind=", "--metrics-cert=", "--metrics-key=", "--metrics-ca=",
    "--metrics-require-client-auth", "--metrics-basic-auth=", "--statsd-host=", "--statsd-port=",
    "--degraded-timeout-sec=", "--temp-ceiling=", "--safety-margin=", "--emergency-margin=",
    "--predictive-alpha=", "--coeff-path=", "--telemetry-interval=", "--telemetry-max-skew=",
    "--telemetry-ewma=", "--telemetry-profile=", "--policy-slo-ratio=", "--policy-slo-temp=",
    "--policy-penalty-up=", "--policy-penalty-down=", "--policy-forecast=", "--health-check",
    "--sandbox-only", "--log-level=", "--help"]

/-- The text is a number or word of the reader's kind and range, and stands for that value. -/
def ValueReader.Denotes (text : List Char) (value : Value) : ValueReader → Prop
  | int min max =>
    ∃ number, WritesInt text number ∧ min ≤ number ∧ number ≤ max ∧ value = .int number
  | ms min max | degrees min max =>
    ∃ number, WritesInt text number ∧ min ≤ number ∧ number ≤ max ∧ value = .int (number * 1000)
  | double min max | ratio min max =>
    ∃ number, WritesDouble text number ∧ min ≤ number ∧ number ≤ max ∧
      value = .real (.finite number)
  | ratioMilli min max =>
    ∃ number, WritesDouble text number ∧ min ≤ number ∧ number ≤ max ∧
      value = .int (scaleRatio number)
  | .text size => text ≠ [] ∧ text.length < size ∧ value = .text (String.ofList text)
  | level =>
    text = "error".toList ∧ value = .level .error ∨ text = "warn".toList ∧ value = .level .warn ∨
      text = "info".toList ∧ value = .level .info ∨ text = "debug".toList ∧ value = .level .debug

/-- The text is one the option is for, and stands for these assignments. -/
def Action.Denotes (env : Environment) (text : List Char) (assignments : List Assignment) :
    Action → Prop
  | config =>
    text ≠ [] ∧ ∃ contents, env.file text = some contents ∧
      (parseConfigFile contents).outcome = .done () ∧
      assignments = (parseConfigFile contents).assignments
  | set reader setting => ∃ value, reader.Denotes text value ∧ assignments = [(setting, value)]
  | basicAuth =>
    ∃ user pass, text = user ++ ':' :: pass ∧ ':' ∉ user ∧ user ≠ [] ∧ pass ≠ [] ∧
      user.length < 128 ∧ pass.length < 128 ∧
      assignments = [(.metricsBasicAuthUser, .text (String.ofList user)),
        (.metricsBasicAuthPass, .text (String.ofList pass))]
  | flag number setting => text = [] ∧ assignments = [(setting, .int number)]
  | sandboxOnly => text = [] ∧ assignments = []
  | help => False

/-- An advertised option with a value in range, which stands for these assignments. -/
def Means (env : Environment) (argument : Argument) (assignments : List Assignment) : Prop :=
  ∃ branch ∈ chain, branch.literal ∈ usage ∧
    ∃ text, argument.text = branch.literal.toList ++ text ∧
      branch.action.Denotes env text assignments

def missized : List String :=
  ["--memory-guard-div=", "--memory-guard-offset=", "--policy-forecast="]

private def ValueReader.Bounded : ValueReader → Prop
  | int min max | degrees min max => -2 ^ 63 ≤ min ∧ max ≤ 2 ^ 63 - 1
  | ms min max => -2 ^ 63 ≤ min ∧ max * 1000 ≤ RuntimeConfig.intMax
  | double min max => 0 ≤ min ∧ max ≤ 10
  | ratio min max | ratioMilli min max => 1 / 2 ≤ min ∧ max ≤ 10
  | text _ | level => True

instance (reader : ValueReader) : Decidable reader.Bounded := by
  cases reader <;> unfold ValueReader.Bounded <;> infer_instance

variable {env : Environment} {text : List Char} {assignments : List Assignment}

theorem ValueReader.read_of_denotes {reader : ValueReader} (bounded : reader.Bounded)
    {text value} (denotes : reader.Denotes text value)
    (exact : ∀ min max, reader = .double min max → ¬ WritesUnderflow text) :
    reader.read text = some value := by
  cases reader with
  | int min max | degrees min max =>
    obtain ⟨number, writes, least, greatest, rfl⟩ := denotes
    rw [read, parseIntOption_of_writesInt writes ⟨least, greatest⟩ bounded, Option.map_some]
  | ms min max =>
    obtain ⟨number, writes, least, greatest, rfl⟩ := denotes
    obtain ⟨lower, upper⟩ := bounded
    rw [RuntimeConfig.intMax] at upper
    rw [read, parseMsOption,
      parseIntOption_of_writesInt writes ⟨least, greatest⟩ ⟨lower, by omega⟩]
    dsimp only
    rw [if_neg (by rw [RuntimeConfig.intMax]; omega), Option.map_some]
  | double min max =>
    obtain ⟨number, writes, least, greatest, rfl⟩ := denotes
    rw [read, parseDoubleOption_of_writesDouble writes ⟨least, greatest⟩
      ⟨by linarith [bounded.1], bounded.2⟩ (exact min max rfl), Option.map_some]
  | ratio min max | ratioMilli min max =>
    obtain ⟨number, writes, least, greatest, rfl⟩ := denotes
    rw [read, parseRatioOption_of_writesDouble writes ⟨least, greatest⟩ bounded, Option.map_some]
  | text =>
    obtain ⟨ne, fits, rfl⟩ := denotes
    rw [read, if_neg (not_or.mpr ⟨ne, not_le.mpr fits⟩)]
  | level => rcases denotes with ⟨rfl, rfl⟩ | ⟨rfl, rfl⟩ | ⟨rfl, rfl⟩ | ⟨rfl, rfl⟩ <;> rfl

theorem readBasicAuth_append {user pass} (noColon : ':' ∉ user) (hasUser : user ≠ [])
    (hasPass : pass ≠ []) (userFits : user.length < 128) (passFits : pass.length < 128) :
    readBasicAuth (user ++ ':' :: pass) =
      some [(.metricsBasicAuthUser, .text (String.ofList user)),
        (.metricsBasicAuthPass, .text (String.ofList pass))] := by
  have all : ∀ c ∈ user, decide (c ≠ ':') = true := fun c member =>
    decide_eq_true fun colon => noColon (colon ▸ member)
  have takes : (user ++ ':' :: pass).takeWhile (· ≠ ':') = user := by
    rw [List.takeWhile_append_of_pos all]
    simp
  have drops : (user ++ ':' :: pass).dropWhile (· ≠ ':') = ':' :: pass := by
    rw [List.dropWhile_append_of_pos all]
    simp
  simp only [readBasicAuth, takes, drops]
  exact if_neg (by simp [hasUser, hasPass, userFits, passFits])

private def Action.Bounded : Action → Prop
  | set reader _ => reader.Bounded
  | config | basicAuth | flag _ _ | sandboxOnly | help => True

instance (action : Action) : Decidable action.Bounded :=
  match action with
  | .set reader _ => inferInstanceAs (Decidable reader.Bounded)
  | .config | .basicAuth | .flag _ _ | .sandboxOnly | .help => inferInstanceAs (Decidable True)

theorem Action.effect_of_denotes (bounded : action.Bounded) {env text assignments}
    (denotes : action.Denotes env text assignments)
    (exact : ∀ min max setting, action = .set (.double min max) setting →
      ¬ WritesUnderflow text) :
    (action.effect env text).goesOn = true ∧
      (action.effect env text).assignments = assignments := by
  cases action with
  | config =>
    obtain ⟨ne, _, found, done, rfl⟩ := denotes
    simp only [effect, loadConfig, if_neg ne, found, done]
    exact ⟨rfl, rfl⟩
  | set reader setting =>
    obtain ⟨value, denotes, rfl⟩ := denotes
    rw [effect, ValueReader.read_of_denotes bounded denotes fun min max isDouble =>
      exact min max setting (isDouble ▸ rfl)]
    exact ⟨rfl, rfl⟩
  | basicAuth =>
    obtain ⟨_, _, rfl, noColon, hasUser, hasPass, userFits, passFits, rfl⟩ := denotes
    rw [effect, readBasicAuth_append noColon hasUser hasPass userFits passFits]
    exact ⟨rfl, rfl⟩
  | flag number setting | sandboxOnly =>
    obtain ⟨-, rfl⟩ := denotes
    exact ⟨rfl, rfl⟩
  | help => exact denotes.elim

theorem Action.Denotes.ne_nil {env text assignments}
    (denotes : action.Denotes env text assignments) :
    text ≠ [] ∨ (∃ number setting, action = .flag number setting) ∨ action = .sandboxOnly := by
  cases action with
  | config => exact .inl denotes.1
  | set reader setting =>
    obtain ⟨_, denotes, -⟩ := denotes
    left
    cases reader with
    | int | ms | degrees | double | ratio | ratioMilli =>
      obtain ⟨number, writes, -⟩ := denotes
      exact writes.ne_nil
    | text => exact denotes.1
    | level => rcases denotes with ⟨rfl, -⟩ | ⟨rfl, -⟩ | ⟨rfl, -⟩ | ⟨rfl, -⟩ <;> decide
  | basicAuth =>
    obtain ⟨_, _, rfl, -⟩ := denotes
    exact .inl (by simp)
  | flag number setting => exact .inr (.inl ⟨number, setting, rfl⟩)
  | sandboxOnly => exact .inr (.inr rfl)
  | help => exact denotes.elim

private def Branch.Exact (branch : Branch) : Prop :=
  match branch.action with
  | .flag _ _ | .sandboxOnly | .help => branch.compared = none
  | .config | .set _ _ | .basicAuth => branch.compared = some branch.literal.toList.length

instance (branch : Branch) : Decidable branch.Exact := by
  unfold Branch.Exact
  split <;> infer_instance

theorem chain_checked : ∀ branch ∈ chain, '\x00' ∉ branch.literal.toList ∧
    (branch.literal ∈ missized → branch.compared = some (branch.literal.toList.length + 1)) ∧
    (branch.literal ∉ missized → branch.Exact) ∧
    ∀ other ∈ chain, branch.literal.toList.isPrefixOf other.literal.toList = true →
      branch = other := by
  decide +kernel

section

variable {branch : Branch} (member : branch ∈ chain)

include member

theorem chain_whole : '\x00' ∉ branch.literal.toList := (chain_checked branch member).1

theorem chain_missized (isMissized : branch.literal ∈ missized) :
    branch.compared = some (branch.literal.toList.length + 1) :=
  (chain_checked branch member).2.1 isMissized

theorem chain_exact (exact : branch.literal ∉ missized) : branch.Exact :=
  (chain_checked branch member).2.2.1 exact

theorem chain_prefix_free {other} (isOther : other ∈ chain)
    (starts : branch.literal.toList <+: other.literal.toList) : branch = other :=
  (chain_checked branch member).2.2.2 other isOther (List.isPrefixOf_iff_prefix.mpr starts)

end

theorem chain_bounded : ∀ branch ∈ chain, branch.action.Bounded := by decide +kernel

section

variable {branch : Branch} {argument : Argument}

theorem Branch.prefix_of_selects (member : branch ∈ chain)
    (selects : branch.selects argument = true) :
    branch.literal.toList <+: argument.text := by
  cases compared : branch.compared with
  | none =>
    simp only [Branch.selects, compared, decide_eq_true_eq] at selects
    exact selects ▸ List.prefix_rfl
  | some count =>
    simp only [Branch.selects, compared] at selects
    by_cases isMissized : branch.literal ∈ missized
    · rw [chain_missized member isMissized, Option.some.injEq] at compared
      exact (equalUpTo_of_lt_iff (by omega) argument.whole).mp selects ▸ List.prefix_rfl
    · have exact := chain_exact member isMissized
      have counted : count = branch.literal.toList.length := by
        unfold Branch.Exact at exact
        split at exact <;> simp_all
      rw [counted] at selects
      exact (equalUpTo_length_iff (chain_whole member)).mp selects

theorem Branch.eq_of_prefix {other} (member : branch ∈ chain) (isOther : other ∈ chain)
    (starts : branch.literal.toList <+: argument.text)
    (otherStarts : other.literal.toList <+: argument.text) : other = branch := by
  rcases List.prefix_or_prefix_of_prefix otherStarts starts with shorter | longer
  · exact chain_prefix_free isOther member shorter
  · exact (chain_prefix_free member isOther longer).symm

theorem Argument.branch_eq (member : branch ∈ chain)
    (starts : branch.literal.toList <+: argument.text) :
    argument.branch = if branch.selects argument then some branch else none := by
  have only : ∀ other ∈ chain, other.selects argument = true → other = branch :=
    fun other isOther selects =>
      Branch.eq_of_prefix member isOther starts (Branch.prefix_of_selects isOther selects)
  unfold Argument.branch
  split_ifs with selects
  · cases found : chain.find? (·.selects argument) with
    | none => exact absurd selects (by simpa using List.find?_eq_none.mp found branch member)
    | some other =>
      rw [only other (List.mem_of_find?_eq_some found) (by simpa using List.find?_some found)]
  · refine List.find?_eq_none.mpr fun other isOther otherSelects => selects ?_
    rw [← only other isOther otherSelects]
    exact otherSelects

variable {env : Environment} {text : List Char} {assignments : List Assignment}

theorem Argument.effect_eq (member : branch ∈ chain) (exact : branch.literal ∉ missized)
    (written : argument.text = branch.literal.toList ++ text)
    (denotes : branch.action.Denotes env text assignments) :
    argument.effect env = branch.action.effect env text := by
  have isExact := chain_exact member exact
  have starts : branch.literal.toList <+: argument.text := ⟨text, written.symm⟩
  have wholeText : '\x00' ∉ text := fun zero =>
    argument.whole (written ▸ List.mem_append_right _ zero)
  unfold Argument.effect
  rw [Argument.branch_eq member starts]
  cases action : branch.action with
  | config | set | basicAuth =>
    have compared : branch.compared = some branch.literal.toList.length := by
      simpa only [Branch.Exact, action] using isExact
    have selects : branch.selects argument = true := by
      rw [Branch.selects, compared]
      exact (equalUpTo_length_iff (chain_whole member)).mpr starts
    have v : branch.value argument = text := by
      rw [Branch.value, compared, written, Option.getD_some, stringAt_append wholeText]
    simp only [selects, if_true, action, v]
  | flag | sandboxOnly =>
    have compared : branch.compared = none := by
      simpa only [Branch.Exact, action] using isExact
    have empty : text = [] := by
      rw [action] at denotes
      exact denotes.1
    have selects : branch.selects argument = true := by
      rw [Branch.selects, compared, written, empty, List.append_nil]
      exact decide_eq_true rfl
    simp only [selects, if_true, action]
    rfl
  | help =>
    rw [action] at denotes
    exact denotes.elim

theorem Argument.effect_of_missized (member : branch ∈ chain)
    (isMissized : branch.literal ∈ missized)
    (written : argument.text = branch.literal.toList ++ text) (ne : text ≠ []) :
    argument.effect env = .exits 1 := by
  have compared := chain_missized member isMissized
  have selects : ¬ branch.selects argument = true := by
    rw [Branch.selects, compared]
    rw [equalUpTo_of_lt_iff (Nat.lt_succ_self _) argument.whole, written]
    simpa using ne
  rw [Argument.effect, Argument.branch_eq member ⟨text, written.symm⟩, if_neg selects]

end

def unitIntervals : List String := ["--predictive-alpha=", "--telemetry-ewma="]

/-- The argument gives such an option a number whose conversion to a `double` underflows. -/
def TooSmall (argument : Argument) : Prop :=
  ∃ literal ∈ unitIntervals, ∃ text, argument.text = literal.toList ++ text ∧ WritesUnderflow text

def Refused (argument : Argument) : Prop :=
  (∃ literal ∈ missized, literal.toList <+: argument.text) ∨ TooSmall argument

theorem missized_known : ∀ literal ∈ missized, ∃ branch ∈ chain, branch.literal = literal ∧
    ∃ min max setting, branch.action = .set (.int min max) setting := by
  simp only [missized, List.forall_mem_cons, List.not_mem_nil, false_imp_iff, implies_true,
    and_true]
  exact ⟨⟨_, List.mem_of_getElem? (i := 10) rfl, rfl, _, _, _, rfl⟩,
    ⟨_, List.mem_of_getElem? (i := 11) rfl, rfl, _, _, _, rfl⟩,
    ⟨_, List.mem_of_getElem? (i := 40) rfl, rfl, _, _, _, rfl⟩⟩

theorem unitIntervals_known :
    ∀ literal ∈ unitIntervals, ∃ branch ∈ chain, branch.literal = literal ∧
    ∃ setting, branch.action = .set (.double 0 1) setting := by
  simp only [unitIntervals, List.forall_mem_cons, List.not_mem_nil, false_imp_iff, implies_true,
    and_true]
  exact ⟨⟨_, List.mem_of_getElem? (i := 30) rfl, rfl, _, rfl⟩,
    ⟨_, List.mem_of_getElem? (i := 33) rfl, rfl, _, rfl⟩⟩

private def Action.isDouble : Action → Bool
  | set (.double _ _) _ => true
  | _ => false

theorem chain_isDouble : ∀ branch ∈ chain, branch.action.isDouble = true →
    branch.literal ∈ unitIntervals := by
  decide +kernel

theorem Means.effect {argument assignments}
    (means : Means env argument assignments) (accepted : ¬ Refused argument) :
    (argument.effect env).goesOn = true ∧ argument.writes env = assignments := by
  obtain ⟨branch, member, -, text, written, denotes⟩ := means
  have exact : branch.literal ∉ missized := fun isMissized =>
    accepted (.inl ⟨_, isMissized, text, written.symm⟩)
  rw [Argument.writes, Argument.effect_eq member exact written denotes]
  refine Action.effect_of_denotes (chain_bounded branch member) denotes ?_
  intro _ _ _ isSet underflow
  have isDouble : branch.action.isDouble = true := by rw [isSet]; rfl
  exact accepted (.inr ⟨_, chain_isDouble branch member isDouble, text, written, underflow⟩)

theorem Means.effect_of_refused {argument assignments} (means : Means env argument assignments)
    (refused : Refused argument) : argument.effect env = .exits 1 := by
  obtain ⟨branch, member, -, text, written, denotes⟩ := means
  have starts : branch.literal.toList <+: argument.text := ⟨text, written.symm⟩
  rcases refused with ⟨literal, isMissized, otherStarts⟩ |
    ⟨literal, isUnit, other, otherWritten, underflow⟩
  · obtain ⟨known, isKnown, rfl, _, _, setting, isSet⟩ := missized_known literal isMissized
    obtain rfl := Branch.eq_of_prefix member isKnown starts otherStarts
    have ne : text ≠ [] := by
      rcases denotes.ne_nil with ne | ⟨_, _, isFlag⟩ | isSandbox
      · exact ne
      · rw [isSet] at isFlag
        cases isFlag
      · rw [isSet] at isSandbox
        cases isSandbox
    exact Argument.effect_of_missized member isMissized written ne
  · obtain ⟨known, isKnown, rfl, setting, isSet⟩ := unitIntervals_known literal isUnit
    obtain rfl := Branch.eq_of_prefix member isKnown starts ⟨other, otherWritten.symm⟩
    obtain rfl : other = text := List.append_cancel_left (otherWritten.symm.trans written)
    have exact : known.literal ∉ missized := by
      have apart : ∀ literal ∈ unitIntervals, literal ∉ missized := by decide
      exact apart _ isUnit
    rw [Argument.effect_eq member exact written denotes, isSet, Action.effect, ValueReader.read,
      parseDoubleOption_of_underflow underflow]
    rfl

theorem exists_means {arguments meanings} (means : List.Forall₂ (Means env) arguments meanings) :
    ∀ argument ∈ arguments, ∃ assignments, Means env argument assignments := by
  induction means with
  | nil => simp
  | cons here _ hrest => exact List.forall_mem_cons.mpr ⟨⟨_, here⟩, hrest⟩

theorem writes_eq_of_means {arguments meanings}
    (means : List.Forall₂ (Means env) arguments meanings)
    (accepted : ∀ argument ∈ arguments, ¬ Refused argument) :
    (∀ argument ∈ arguments, (argument.effect env).goesOn = true) ∧
      writes env arguments = meanings.flatten := by
  induction means with
  | nil => simp [writes]
  | cons means _ hrest =>
    rw [List.forall_mem_cons] at accepted ⊢
    obtain ⟨goesOn, written⟩ := means.effect accepted.1
    obtain ⟨rest, restWritten⟩ := hrest accepted.2
    rw [writes_cons, written, restWritten]
    exact ⟨⟨goesOn, rest⟩, rfl⟩

/-- The settings that an option other than `--config` is for. -/
def Action.settings : Action → List Setting
  | set _ setting | flag _ setting => [setting]
  | basicAuth => [.metricsBasicAuthUser, .metricsBasicAuthPass]
  | config | sandboxOnly | help => []

private def Action.isFlag : Action → Bool
  | flag _ _ | sandboxOnly | help => true
  | config | set _ _ | basicAuth => false

theorem chain_settings : ∀ branch ∈ chain, branch.action.isFlag = false → ∀ other ∈ chain,
    (∃ setting ∈ branch.action.settings, setting ∈ other.action.settings) → other = branch := by
  decide +kernel

theorem chain_config : ∀ branch ∈ chain, branch.action = .config →
    branch.literal = "--config=" := by
  decide +kernel

section

variable (denotes : action.Denotes env text assignments)
include denotes

theorem Action.Denotes.mem_settings
    (option : action ≠ .config) : assignments.map Prod.fst = action.settings := by
  cases action with
  | config => exact absurd rfl option
  | set _ setting =>
    obtain ⟨_, -, rfl⟩ := denotes
    rfl
  | basicAuth =>
    obtain ⟨_, _, -, -, -, -, -, -, rfl⟩ := denotes
    rfl
  | flag number setting | sandboxOnly =>
    obtain ⟨-, rfl⟩ := denotes
    rfl
  | help => exact denotes.elim

theorem Action.Denotes.isFlag_eq_false
    (ne : text ≠ []) : action.isFlag = false := by
  cases action with
  | config | set | basicAuth => rfl
  | flag | sandboxOnly => exact absurd denotes.1 ne
  | help => exact denotes.elim

theorem Action.Denotes.lastValue
    (option : action ≠ .config) {asg} (member : asg ∈ assignments) :
    lastValue asg.1 assignments = some asg.2 := by
  refine lastValue_eq_some_of_unique member fun other otherMember => ?_
  have nodup : (assignments.map Prod.fst).Nodup := by
    rw [denotes.mem_settings option]
    cases action <;> simp [Action.settings]
  exact congrArg Prod.snd (List.inj_on_of_nodup_map nodup otherMember member rfl)

end

theorem Means.lastValue_eq_none {later assignments}
    (means : Means env later assignments) (noConfig : later.isConfig = false) {branch}
    (member : branch ∈ chain) (valued : branch.action.isFlag = false)
    (noRepeat : ¬ branch.literal.toList <+: later.text) {setting}
    (isSetting : setting ∈ branch.action.settings) : lastValue setting assignments = none := by
  obtain ⟨other, isOther, -, text, written, denotes⟩ := means
  have starts : other.literal.toList <+: later.text := ⟨text, written.symm⟩
  have option : other.action ≠ .config := by
    intro isConfig
    rw [chain_config other isOther isConfig] at starts
    rw [Argument.isConfig, List.isPrefixOf_iff_prefix.mpr starts] at noConfig
    cases noConfig
  refine lastValue_eq_none_iff.mpr fun v written => noRepeat ?_
  have shared : setting ∈ other.action.settings := by
    rw [← denotes.mem_settings option]
    exact List.mem_map_of_mem written
  rwa [chain_settings branch member valued other isOther ⟨setting, isSetting, shared⟩] at starts

/-- A value within the bounds of the policy. -/
def policyBounded (setting : Setting) (value : Value) : Value :=
  if setting = .forecastHorizon ∧ value = .int 0 then .int 1 else value

/-- The parser returns, and each option's last value is set where no file follows it. -/
def Works (env : Environment) (arguments : List Argument) : Prop :=
  ∃ final, parseCli env arguments = .returned final ∧
    ∀ before argument after, arguments = before ++ argument :: after →
    ∀ branch ∈ chain, branch.literal ∈ usage → branch.action ≠ .config →
    ∀ text assignments, argument.text = branch.literal.toList ++ text → text ≠ [] →
    branch.action.Denotes env text assignments →
    (∀ later ∈ after, ¬ branch.literal.toList <+: later.text) →
    (∀ later ∈ after, later.isConfig = false) →
    ∀ assignment ∈ assignments, assignment.1.get final.cfg = policyBounded assignment.1 assignment.2

/-- There is a `--statsd-port`, and no `--config` behind the last one. -/
def GivesPort (arguments : List Argument) : Prop :=
  ∃ before argument after, arguments = before ++ argument :: after ∧
    "--statsd-port=".toList <+: argument.text ∧
    (∀ later ∈ after, ¬ "--statsd-port=".toList <+: later.text) ∧
    ∀ later ∈ after, later.isConfig = false

private def portBranch : Branch := ⟨"--statsd-port=", some 14, .set (.int 1 65535) .statsdPort⟩

private def bindBranch : Branch := ⟨"--metrics-bind=", some 15, .set (.text 64) .metricsBindHost⟩

theorem portBranch_mem : portBranch ∈ chain := List.mem_of_getElem? (i := 25) rfl

theorem bindBranch_mem : bindBranch ∈ chain := List.mem_of_getElem? (i := 18) rfl

theorem shown_eq_policyBounded {host branch assignment} (member : branch ∈ chain)
    (option : branch.action ≠ .config) (denotes : branch.action.Denotes env text assignments)
    (isAssigned : assignment ∈ assignments) (port : branch = portBranch → host ≠ "") :
    shown host assignment.1 assignment.2 = policyBounded assignment.1 assignment.2 := by
  have isSetting : assignment.1 ∈ branch.action.settings := by
    rw [← denotes.mem_settings option]
    exact List.mem_map_of_mem isAssigned
  obtain ⟨setting, value⟩ := assignment
  cases setting with
  | statsdPort =>
    have isPort := chain_settings portBranch portBranch_mem rfl branch member
      ⟨_, List.mem_singleton_self _, isSetting⟩
    simp [shown, policyBounded, port isPort]
  | metricsBindHost =>
    obtain rfl := chain_settings bindBranch bindBranch_mem rfl branch member
      ⟨_, List.mem_singleton_self _, isSetting⟩
    obtain ⟨value, ⟨nonempty, -, rfl⟩, rfl⟩ := denotes
    obtain ⟨-, rfl⟩ := Prod.mk.inj (List.mem_singleton.mp isAssigned)
    have given : String.ofList text ≠ "" := by simpa using nonempty
    simp [shown, policyBounded, given]
  | _ => simp [shown, policyBounded]

theorem Works.accepted {arguments} (works : Works env arguments)
    (each : ∀ argument ∈ arguments, ∃ assignments, Means env argument assignments) :
    ∀ argument ∈ arguments, ¬ Refused argument := by
  intro argument member refused
  obtain ⟨_, parsed, -⟩ := works
  obtain ⟨_, means⟩ := each argument member
  have goesOn := (parseCli_eq_returned_iff.mp parsed).1 argument member
  rw [means.effect_of_refused refused] at goesOn
  cases goesOn

theorem Works.host_ne {arguments} (works : Works env arguments)
    (each : ∀ argument ∈ arguments, ∃ assignments, Means env argument assignments)
    (port : GivesPort arguments) : (gathered env arguments).statsdHost ≠ "" := by
  obtain ⟨_, parsed, works⟩ := works
  obtain ⟨-, -, rfl⟩ := parseCli_eq_returned_iff.mp parsed
  obtain ⟨before, argument, after, rfl, starts, noRepeat, noConfig⟩ := port
  obtain ⟨_, branch, member, advertised, text, written, denotes⟩ := each argument (by simp)
  obtain rfl := Branch.eq_of_prefix portBranch_mem member starts ⟨text, written.symm⟩
  obtain ⟨_, ⟨number, writes, least, greatest, rfl⟩, rfl⟩ := denotes
  have shows := works before argument after rfl portBranch member advertised nofun text _ written
    writes.ne_nil ⟨_, ⟨number, writes, least, greatest, rfl⟩, rfl⟩ noRepeat noConfig _
    (List.mem_singleton_self _)
  intro unset
  -- without a host the port is zero, which is no value of the option
  rw [get_settle, unset] at shows
  have zero : 0 = number := Value.int.inj shows
  omega

theorem lastValue_writes_of_denotes {before argument after branch}
    (each : ∀ later ∈ after, ∃ assignments, Means env later assignments)
    (accepted : ∀ later ∈ argument :: after, ¬ Refused later) (member : branch ∈ chain)
    (advertised : branch.literal ∈ usage) (option : branch.action ≠ .config)
    (written : argument.text = branch.literal.toList ++ text) (nonempty : text ≠ [])
    (denotes : branch.action.Denotes env text assignments)
    (noRepeat : ∀ later ∈ after, ¬ branch.literal.toList <+: later.text)
    (noConfig : ∀ later ∈ after, later.isConfig = false) {assignment}
    (isAssigned : assignment ∈ assignments) :
    lastValue assignment.1 (writes env (before ++ argument :: after)) = some assignment.2 := by
  rw [List.forall_mem_cons] at accepted
  have here := (Means.effect ⟨branch, member, advertised, text, written, denotes⟩ accepted.1).2
  have behind : lastValue assignment.1 (writes env after) = none := by
    refine lastValue_eq_none_iff.mpr fun value isWritten => ?_
    obtain ⟨later, isLater, byLater⟩ := List.mem_flatMap.mp isWritten
    obtain ⟨_, means⟩ := each later isLater
    rw [(means.effect (accepted.2 later isLater)).2] at byLater
    have isSetting : assignment.1 ∈ branch.action.settings := by
      rw [← denotes.mem_settings option]
      exact List.mem_map_of_mem isAssigned
    exact lastValue_eq_none_iff.mp (means.lastValue_eq_none (noConfig later isLater) member
      (denotes.isFlag_eq_false nonempty) (noRepeat later isLater) isSetting) value byLater
  rw [writes_append, writes_cons, lastValue_append, lastValue_append, behind, here,
    denotes.lastValue option isAssigned]
  rfl

/-- Advertised options with values in range work exactly if none is one of three with a wrong
length, none underflows, and a StatsD port has a host. -/
theorem advertised_options_work_iff {env : Environment} {arguments : List Argument}
    {meanings : List (List Assignment)} (means : List.Forall₂ (Means env) arguments meanings)
    (rules : CrossRules ((initial env).assign meanings.flatten)) :
    Works env arguments ↔ (∀ argument ∈ arguments, ¬ Refused argument) ∧
      (GivesPort arguments → ((initial env).assign meanings.flatten).statsdHost ≠ "") := by
  have each := exists_means means
  constructor
  · intro works
    have accepted := works.accepted each
    refine ⟨accepted, fun port => ?_⟩
    rw [← (writes_eq_of_means means accepted).2]
    exact works.host_ne each port
  · rintro ⟨accepted, host⟩
    obtain ⟨goesOn, written⟩ := writes_eq_of_means means accepted
    rw [← written] at rules host
    refine ⟨_, parseCli_eq_returned_iff.mpr ⟨goesOn, rules, rfl⟩, ?_⟩
    rintro before argument after rfl branch member advertised option text assignments isText
      nonempty denotes noRepeat noConfig assignment isAssigned
    have last := @lastValue_writes_of_denotes _ _ _ before argument after branch
      (fun later isLater => each later (by simp [isLater]))
      (fun later isLater => accepted later (List.mem_append_right _ isLater)) member advertised
      option isText nonempty denotes noRepeat noConfig assignment isAssigned
    rw [get_settle, get_gathered, last, Option.getD_some]
    refine shown_eq_policyBounded member option denotes isAssigned ?_
    rintro rfl
    exact host ⟨before, argument, after, rfl, ⟨text, isText.symm⟩, noRepeat, noConfig⟩

def bareEnvironment : Environment := ⟨none, fun _ => none⟩

def argumentOf (text : String) (whole : '\x00' ∉ text.toList) : Argument := ⟨text.toList, [], whole⟩

theorem means_down_count :
    Means bareEnvironment (argumentOf "--down-count=4" (by decide)) [(.downCount, .int 4)] := by
  refine ⟨_, List.mem_of_getElem? (i := 2) rfl, List.mem_of_getElem? (i := 2) rfl, ['4'], rfl,
    .int 4, ⟨4, ?_, by decide, by decide, rfl⟩, rfl⟩
  exact ⟨false, ['4'], by decide, rfl, by decide⟩

/-- A command line with one option works. -/
theorem down_count_works :
    let arguments := [argumentOf "--down-count=4" (by decide)]
    List.Forall₂ (Means bareEnvironment) arguments [[(.downCount, .int 4)]] ∧
      Works bareEnvironment arguments := by
  intro arguments
  have means : List.Forall₂ (Means bareEnvironment) arguments [[(.downCount, .int 4)]] :=
    .cons means_down_count .nil
  have apart : ∀ literal ∈ "--statsd-port=" :: unitIntervals ++ missized,
      ¬ literal.toList <+: "--down-count=4".toList := by
    decide +kernel
  refine ⟨means, (advertised_options_work_iff means (by decide +kernel)).mpr ⟨?_, ?_⟩⟩
  · rintro _ member (⟨literal, isMissized, starts⟩ | ⟨literal, isUnit, text, written, -⟩)
    · obtain rfl := List.mem_singleton.mp member
      exact apart literal (by simp [isMissized]) starts
    · obtain rfl := List.mem_singleton.mp member
      exact apart literal (by simp [isUnit]) ⟨text, written.symm⟩
  · rintro ⟨before, argument, after, split, starts, -⟩
    have member : argument ∈ arguments := by simp [split]
    obtain rfl := List.mem_singleton.mp member
    exact absurd starts (apart _ (by simp))

/-- An advertised option with a value in range ends the process as an unknown one. -/
theorem memory_guard_div_refused :
    let arguments := [argumentOf "--memory-guard-div=7" (by decide)]
    List.Forall₂ (Means bareEnvironment) arguments [[(.memoryGuardDivisor, .int 7)]] ∧
      CrossRules ((initial bareEnvironment).assign [(.memoryGuardDivisor, .int 7)]) ∧
      parseCli bareEnvironment arguments = .exited 1 := by
  refine ⟨.cons ?_ .nil, by decide +kernel, by decide +kernel⟩
  refine ⟨_, List.mem_of_getElem? (i := 10) rfl, List.mem_of_getElem? (i := 10) rfl, ['7'], rfl,
    .int 7, ⟨7, ?_, by decide, by decide, rfl⟩, rfl⟩
  exact ⟨false, ['7'], by decide, rfl, by decide⟩

end ThermalSimd.Cli
