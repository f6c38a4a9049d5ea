import ThermalSimd.Cli

/-!
# Command-line flags and configuration files

The documentation gives flags precedence over configuration files, wherever these stand. The parser
makes every assignment where it finds it, so a file behind a flag overrides it
(`flags_take_precedence_iff`).
-/

namespace ThermalSimd.Cli

/-- The argument is a `--config` option. -/
def Argument.isConfig (argument : Argument) : Bool := "--config=".toList.isPrefixOf argument.text

def flagWrites (env : Environment) (arguments : List Argument) : List Assignment :=
  writes env (arguments.filter (!·.isConfig))

def fileWrites (env : Environment) (arguments : List Argument) : List Assignment :=
  writes env (arguments.filter (·.isConfig))

/-- What the documentation promises: the flags over the files over the defaults. -/
def prioritised (env : Environment) (arguments : List Argument) : RuntimeConfig :=
  (initial env).assign (fileWrites env arguments ++ flagWrites env arguments)

/-- The last flag gives the setting `flag`, and the last file behind it `file`. -/
def Overridden (env : Environment) (arguments : List Argument) (setting : Setting)
    (flag file : Value) : Prop :=
  ∃ before argument after, arguments = before ++ argument :: after ∧ argument.isConfig = false ∧
    lastValue setting (argument.writes env) = some flag ∧
    lastValue setting (flagWrites env after) = none ∧
    lastValue setting (fileWrites env after) = some file

variable {env : Environment} {arguments : List Argument} {setting : Setting}

theorem writes_cons (argument : Argument) (rest : List Argument) :
    writes env (argument :: rest) = argument.writes env ++ writes env rest :=
  List.flatMap_cons

theorem writes_append (first second : List Argument) :
    writes env (first ++ second) = writes env first ++ writes env second :=
  List.flatMap_append

def priority (env : Environment) (arguments : List Argument) (setting : Setting) : Option Value :=
  (lastValue setting (flagWrites env arguments)).or (lastValue setting (fileWrites env arguments))

theorem Overridden.cons {flag file : Value} (argument : Argument)
    (overridden : Overridden env arguments setting flag file) :
    Overridden env (argument :: arguments) setting flag file := by
  obtain ⟨before, last, after, rfl, rest⟩ := overridden
  exact ⟨argument :: before, last, after, rfl, rest⟩

theorem Overridden.flag {flag file : Value}
    (overridden : Overridden env arguments setting flag file) :
    lastValue setting (flagWrites env arguments) = some flag := by
  obtain ⟨_, _, _, rfl, config, here, flagged, -⟩ := overridden
  simp only [flagWrites, List.filter_append, writes_append, lastValue_append,
    List.filter_cons, config, Bool.not_false, if_true, writes_cons]
  rw [← flagWrites, flagged, Option.none_or, here, Option.some_or]

theorem lastValue_writes (env arguments setting) :
    lastValue setting (writes env arguments) = priority env arguments setting ∨
      ∃ flag file, Overridden env arguments setting flag file ∧
        lastValue setting (writes env arguments) = some file ∧
        priority env arguments setting = some flag := by
  induction arguments with
  | nil => exact .inl rfl
  | cons argument rest hrest =>
    rw [writes_cons, lastValue_append]
    cases config : argument.isConfig with
    | true =>
      have flags : flagWrites env (argument :: rest) = flagWrites env rest := by
        simp [flagWrites, config]
      have files : fileWrites env (argument :: rest) =
          argument.writes env ++ fileWrites env rest := by
        simp [fileWrites, config, writes_cons]
      simp only [priority] at hrest ⊢
      rw [flags, files, lastValue_append, ← Option.or_assoc]
      rcases hrest with same | ⟨flag, file, overridden, last, first⟩
      · exact .inl (by rw [same])
      · refine .inr ⟨flag, file, overridden.cons argument, by rw [last, Option.some_or], ?_⟩
        rw [first, Option.some_or]
    | false =>
      have flags : flagWrites env (argument :: rest) =
          argument.writes env ++ flagWrites env rest := by
        simp [flagWrites, config, writes_cons]
      have files : fileWrites env (argument :: rest) = fileWrites env rest := by
        simp [fileWrites, config]
      simp only [priority] at hrest ⊢
      rw [flags, files, lastValue_append]
      rcases hrest with same | ⟨flag, file, overridden, last, first⟩
      · rw [same]
        cases flagged : lastValue setting (flagWrites env rest) with
        | some flag => exact .inl (by simp)
        | none =>
          cases filed : lastValue setting (fileWrites env rest) with
          | none => exact .inl (by simp)
          | some file =>
            cases here : lastValue setting (argument.writes env) with
            | none => exact .inl (by simp)
            | some flag =>
              exact .inr ⟨flag, file,
                ⟨[], argument, rest, rfl, config, here, flagged, filed⟩, by simp, by simp⟩
      · refine .inr ⟨flag, file, overridden.cons argument, by rw [last, Option.some_or], ?_⟩
        -- the flag behind is the last one, so the argument does not matter
        have behind : lastValue setting (flagWrites env rest) = some flag := overridden.flag
        rw [behind, Option.some_or, Option.some_or]

theorem Overridden.file {flag file : Value}
    (overridden : Overridden env arguments setting flag file) :
    lastValue setting (writes env arguments) = some file := by
  obtain ⟨_, _, after, rfl, _, _, flagged, filed⟩ := overridden
  have last : lastValue setting (writes env after) = some file := by
    rcases lastValue_writes env after setting with same | ⟨_, _, contested, -, -⟩
    · rw [same, priority, flagged, Option.none_or, filed]
    · rw [contested.flag] at flagged
      cases flagged
  rw [writes_append, writes_cons, lastValue_append, lastValue_append, last, Option.some_or,
    Option.some_or]

theorem get_gathered (env arguments setting) :
    setting.get (gathered env arguments) =
      (lastValue setting (writes env arguments)).getD (setting.get (initial env)) :=
  setting.get_assign _ (writes_admitted env arguments)

theorem prioritised_admitted (env arguments) :
    ∀ assignment ∈ fileWrites env arguments ++ flagWrites env arguments, assignment.Admitted :=
  List.forall_mem_append.mpr ⟨writes_admitted env _, writes_admitted env _⟩

theorem prioritised_inRange (env arguments) : (prioritised env arguments).InRange :=
  (initial_inRange env).assign (prioritised_admitted env arguments)

theorem get_prioritised (env arguments setting) :
    setting.get (prioritised env arguments) =
      (priority env arguments setting).getD (setting.get (initial env)) := by
  rw [prioritised, setting.get_assign _ (prioritised_admitted env arguments), lastValue_append,
    priority]

theorem Overridden.get_eq {flag file : Value}
    (overridden : Overridden env arguments setting flag file) :
    setting.get (gathered env arguments) = file ∧
      setting.get (prioritised env arguments) = flag := by
  rw [get_gathered, get_prioritised, overridden.file, priority, overridden.flag]
  exact ⟨rfl, rfl⟩

theorem get_eq_or_overridden (env arguments setting) :
    setting.get (gathered env arguments) = setting.get (prioritised env arguments) ∨
      ∃ flag file, Overridden env arguments setting flag file := by
  rcases lastValue_writes env arguments setting with same | ⟨flag, file, overridden, -, -⟩
  · exact .inl (by rw [get_gathered, get_prioritised, same])
  · exact .inr ⟨flag, file, overridden⟩

/-- No file behind the last flag of a setting gives it a value that shows. -/
def Undisturbed (env : Environment) (arguments : List Argument) : Prop :=
  ∀ setting flag file, Overridden env arguments setting flag file →
    shown (prioritised env arguments).statsdHost setting file =
      shown (prioritised env arguments).statsdHost setting flag

theorem unset_gathered (env arguments) :
    (gathered env arguments).unset = (prioritised env arguments).unset := by
  rw [gathered, prioritised, RuntimeConfig.unset_assign, RuntimeConfig.unset_assign]

theorem settle_gathered_eq_iff (env arguments) :
    settle (gathered env arguments) = settle (prioritised env arguments) ↔
      Undisturbed env arguments := by
  rw [settle_eq_iff (unset_gathered env arguments)]
  simp only [get_settle]
  constructor
  · intro same setting flag file overridden
    have host := Value.text.inj (same .statsdHost)
    have shows := same setting
    obtain ⟨filed, flagged⟩ := overridden.get_eq
    rwa [host, filed, flagged] at shows
  · intro agree
    have host : (gathered env arguments).statsdHost = (prioritised env arguments).statsdHost := by
      rcases get_eq_or_overridden env arguments .statsdHost with same | ⟨flag, file, overridden⟩
      · exact Value.text.inj same
      · have shows : file = flag := agree .statsdHost flag file overridden
        obtain ⟨filed, flagged⟩ := overridden.get_eq
        exact Value.text.inj (filed.trans (shows.trans flagged.symm))
    intro setting
    rw [host]
    rcases get_eq_or_overridden env arguments setting with same | ⟨flag, file, overridden⟩
    · rw [same]
    · obtain ⟨filed, flagged⟩ := overridden.get_eq
      rw [filed, flagged]
      exact agree setting flag file overridden

/-- There are a StatsD host, a bind address and a forecast, so nothing is adjusted. -/
structure Unadjusted (cfg : RuntimeConfig) : Prop where
  statsdHost : cfg.statsdHost ≠ ""
  bindHost : cfg.metricsBindHost ≠ ""
  forecast : cfg.policy.forecastHorizon ≠ 0

theorem Unadjusted.get_settle {cfg} (unadjusted : Unadjusted cfg) (setting : Setting) :
    setting.get (settle cfg) = setting.get cfg := by
  rw [Cli.get_settle]
  cases setting <;> simp [shown, Setting.get, unadjusted.statsdHost, unadjusted.bindHost,
    unadjusted.forecast]

theorem unadjusted_of_get_settle_eq {cfg other : RuntimeConfig} (inRange : other.InRange)
    (same : ∀ setting : Setting, setting.get (settle cfg) = setting.get other) :
    Unadjusted other where
  statsdHost none := by
    have host : cfg.statsdHost = "" := (Value.text.inj (same .statsdHost)).trans none
    have port := Value.int.inj (same .statsdPort)
    have least := (inRange .statsdPort).1
    simp only [settle, if_pos host] at port
    omega
  bindHost none := by
    have bind := (Value.text.inj (same .metricsBindHost)).trans none
    simp only [settle] at bind
    split_ifs at bind <;> contradiction
  forecast none := by
    have horizon := Int.ofNat_inj.mp (Value.int.inj (same .forecastHorizon))
    rw [none] at horizon
    simp only [settle, policyConfigApplyBounds] at horizon
    split_ifs at horizon
    contradiction

theorem get_settle_gathered_eq_iff (env arguments) :
    (∀ setting : Setting, setting.get (settle (gathered env arguments)) =
        setting.get (prioritised env arguments)) ↔
      Undisturbed env arguments ∧ Unadjusted (prioritised env arguments) := by
  rw [← settle_gathered_eq_iff]
  constructor
  · intro same
    have unadjusted := unadjusted_of_get_settle_eq (prioritised_inRange env arguments) same
    refine ⟨(settle_eq_iff (unset_gathered env arguments)).mpr fun setting => ?_, unadjusted⟩
    rw [same, unadjusted.get_settle]
  · rintro ⟨same, unadjusted⟩ setting
    rw [same, unadjusted.get_settle]

/-- The command lines differ in where their `--config` options stand among the flags. -/
def Moved (arguments moved : List Argument) : Prop :=
  moved.filter (·.isConfig) = arguments.filter (·.isConfig) ∧
    moved.filter (!·.isConfig) = arguments.filter (!·.isConfig)

/-- The last flag and the last file of a setting give it values that show alike. -/
def Agreed (env : Environment) (arguments : List Argument) : Prop :=
  ∀ setting flag file, lastValue setting (flagWrites env arguments) = some flag →
    lastValue setting (fileWrites env arguments) = some file →
    shown (prioritised env arguments).statsdHost setting file =
      shown (prioritised env arguments).statsdHost setting flag

theorem Overridden.lastFile {flag file : Value}
    (overridden : Overridden env arguments setting flag file) :
    lastValue setting (fileWrites env arguments) = some file := by
  obtain ⟨before, argument, after, rfl, config, -, -, filed⟩ := overridden
  simp only [fileWrites, List.filter_append, writes_append, lastValue_append, List.filter_cons,
    config, Bool.false_eq_true, if_false]
  rw [← fileWrites, filed, Option.some_or]

theorem Agreed.undisturbed (agreed : Agreed env arguments) : Undisturbed env arguments :=
  fun setting flag file overridden => agreed setting flag file overridden.flag overridden.lastFile

section

variable {moved : List Argument} (isMoved : Moved arguments moved)

include isMoved

theorem Moved.flagWrites_eq (env) : flagWrites env moved = flagWrites env arguments := by
  rw [flagWrites, isMoved.2, flagWrites]

theorem Moved.fileWrites_eq (env) : fileWrites env moved = fileWrites env arguments := by
  rw [fileWrites, isMoved.1, fileWrites]

theorem Moved.prioritised_eq (env) : prioritised env moved = prioritised env arguments := by
  rw [prioritised, isMoved.fileWrites_eq, isMoved.flagWrites_eq, prioritised]

theorem Moved.perm : moved.Perm arguments := by
  have split := List.filter_append_perm Argument.isConfig moved
  rw [isMoved.1, isMoved.2] at split
  exact split.symm.trans (List.filter_append_perm Argument.isConfig arguments)

theorem Moved.settle_eq (agreed : Agreed env arguments) :
    settle (gathered env moved) = settle (gathered env arguments) := by
  have agreedMoved : Agreed env moved := by
    intro setting flag file
    rw [isMoved.flagWrites_eq, isMoved.fileWrites_eq, isMoved.prioritised_eq]
    exact agreed setting flag file
  rw [(settle_gathered_eq_iff env moved).mpr agreedMoved.undisturbed, isMoved.prioritised_eq,
    (settle_gathered_eq_iff env arguments).mpr agreed.undisturbed]

theorem Moved.parseCli_eq (agreed : Agreed env arguments) {final : State}
    (parsed : parseCli env arguments = .returned final) : parseCli env moved = .returned final := by
  obtain ⟨goesOn, rules, rfl⟩ := parseCli_eq_returned_iff.mp parsed
  have same := isMoved.settle_eq agreed
  refine parseCli_eq_returned_iff.mpr ⟨fun argument member => ?_, ?_, ?_⟩
  · exact goesOn argument (isMoved.perm.mem_iff.mp member)
  · -- the rules read nothing that the end of the parser changes
    have settled : CrossRules (settle (gathered env arguments)) := { rules with }
    rw [← same] at settled
    exact { settled with }
  · rw [same, isMoved.perm.any_eq]

end

theorem agreed_of_moved {final : State}
    (moves : ∀ moved, Moved arguments moved → parseCli env moved = .returned final) :
    Agreed env arguments := by
  intro setting flag file flagged filed
  -- all files before all flags, and the other way round
  have first := moves (arguments.filter (·.isConfig) ++ arguments.filter (!·.isConfig))
    (by simp [Moved, List.filter_filter])
  have last := moves (arguments.filter (!·.isConfig) ++ arguments.filter (·.isConfig))
    (by simp [Moved, List.filter_filter])
  obtain ⟨-, -, rfl⟩ := parseCli_eq_returned_iff.mp first
  obtain ⟨-, -, same⟩ := parseCli_eq_returned_iff.mp last
  replace same : settle (prioritised env arguments) =
      settle ((initial env).assign (flagWrites env arguments ++ fileWrites env arguments)) := by
    simpa only [gathered, writes_append, prioritised, fileWrites, flagWrites] using
      congrArg State.cfg same
  have host := Value.text.inj (congrArg (Setting.get · .statsdHost) same)
  have shows := congrArg (Setting.get · setting) same
  simp only [settle] at host
  simp only [get_settle, get_prioritised, priority, flagged, ← host] at shows
  rw [setting.get_assign _ fun assignment member => prioritised_admitted env arguments assignment
    (List.perm_append_comm.mem_iff.mp member), lastValue_append, filed] at shows
  exact shows.symm

/-- Every setting gets its last flag, its last file or its default exactly if no file behind a flag
disturbs it and nothing is adjusted. -/
theorem flags_take_precedence_iff {env : Environment} {arguments : List Argument} {final : State}
    (parsed : parseCli env arguments = .returned final) :
    ((∀ setting : Setting, setting.get final.cfg =
          (priority env arguments setting).getD (setting.get (initial env))) ↔
        Undisturbed env arguments ∧ Unadjusted (prioritised env arguments)) ∧
      ((∀ moved, Moved arguments moved → parseCli env moved = .returned final) ↔
        Agreed env arguments) := by
  refine ⟨?_, agreed_of_moved, fun agreed moved isMoved => isMoved.parseCli_eq agreed parsed⟩
  obtain ⟨-, -, rfl⟩ := parseCli_eq_returned_iff.mp parsed
  rw [← get_settle_gathered_eq_iff]
  exact forall_congr' fun setting => by rw [get_prioritised]

def ceilingEnvironment : Environment where
  logLevel := none
  file path :=
    if path = ['f'] then some "\x7b\"predictive\":\x7b\"temp_ceiling_c\":95\x7d\x7d".toList
    else none

def ceilingConfig : Argument := ⟨"--config=f".toList, [], by decide⟩

def ceilingFlag : Argument := ⟨"--temp-ceiling=80".toList, [], by decide⟩

def statsdFlag : Argument := ⟨"--statsd-host=h".toList, [], by decide⟩

/-- With the file first, the flag takes precedence. -/
theorem flag_behind_file_takes_precedence :
    let arguments := [ceilingConfig, ceilingFlag, statsdFlag]
    let final : State := ⟨settle (gathered ceilingEnvironment arguments), false⟩
    parseCli ceilingEnvironment arguments = .returned final ∧
      final.cfg.predictiveTempCeilingC = 80 ∧
      ∀ setting : Setting, setting.get final.cfg = (priority ceilingEnvironment arguments
        setting).getD (setting.get (initial ceilingEnvironment)) := by
  intro arguments final
  have parsed : parseCli ceilingEnvironment arguments = .returned final :=
    parseCli_of_unflagged (by decide +kernel) (by decide +kernel) (by decide +kernel)
  refine ⟨parsed, by decide +kernel, (flags_take_precedence_iff parsed).1.mpr ⟨?_, ?_⟩⟩
  · rintro _ _ _ ⟨before, _, after, split, config, -, -, filed⟩
    match before with
    | [] =>
      obtain ⟨rfl, -⟩ := List.cons.inj split
      exact absurd config (by decide)
    | _ :: before =>
      -- no file stands behind a flag
      have rest : [ceilingFlag, statsdFlag] = before ++ _ := (List.cons.inj split).2
      have flags : ∀ argument ∈ [ceilingFlag, statsdFlag], argument.isConfig = false := by decide
      rw [rest, List.forall_mem_append, List.forall_mem_cons] at flags
      have fileless : after.filter (·.isConfig) = [] :=
        List.filter_eq_nil_iff.mpr fun argument member => by simp [flags.2.2 argument member]
      rw [fileWrites, fileless] at filed
      cases filed
  · exact ⟨by decide +kernel, by decide +kernel, by decide +kernel⟩

/-- With the file last, it overrides the flag. -/
theorem file_behind_flag_overrides :
    let arguments := [ceilingFlag, ceilingConfig]
    let final : State := ⟨settle (gathered ceilingEnvironment arguments), false⟩
    parseCli ceilingEnvironment arguments = .returned final ∧
      final.cfg.predictiveTempCeilingC = 95 ∧
      priority ceilingEnvironment arguments .predictiveTempCeilingC = some (.int 80) := by
  intro arguments final
  have parsed : parseCli ceilingEnvironment arguments = .returned final :=
    parseCli_of_unflagged (by decide +kernel) (by decide +kernel) (by decide +kernel)
  exact ⟨parsed, by decide +kernel, by decide +kernel⟩

end ThermalSimd.Cli
