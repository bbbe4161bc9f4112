/-
# Arguments are read from left to right

Every argument stands at the place of an option or is the value of the `--config` before
it, and is then no option whatever it looks like. The first option that asks for help,
that is not known or that lacks its value decides the run by itself, before anything is
loaded or read. If there is none, every option counts: records are written if some option
asks for them, and the configuration is that of the last file that an option names, or
else of the file that the environment names, or else the default one.
-/

import StoryShell.Proofs.Cli.Transcript

namespace StoryShell.Cli

/-! ### Options among the arguments -/

/-- An argument is read as an option at a position, with some arguments behind it. The first
argument is an option, and so is every argument behind an option, but for the value of a
`--config`. -/
inductive OptionAt : List String → Nat → String → List String → Prop
  | here (option : String) (behind : List String) : OptionAt (option :: behind) 0 option behind
  | behindOption {first option : String} {rest behind : List String} {i : Nat}
      (bare : first ≠ "--config") (later : OptionAt rest i option behind) :
      OptionAt (first :: rest) (i + 1) option behind
  | behindValue {value option : String} {rest behind : List String} {i : Nat}
      (later : OptionAt rest i option behind) :
      OptionAt ("--config" :: value :: rest) (i + 2) option behind

/-- An option decides a run by itself, given the arguments behind it. -/
inductive Decides : String → List String → Report → Prop
  | help {option : String} {behind : List String} (asks : option = "-h" ∨ option = "--help") :
      Decides option behind { stdout := usage ++ "\n", problem := none, exitCode := 0 }
  | unknown {option : String} {behind : List String}
      (unknown : option ∉ ["--json", "--config", "-h", "--help"]) :
      Decides option behind
        { stdout := ""
          problem := some ("unknown argument: " ++ option ++ "\n" ++ usage)
          exitCode := 1 }
  | dangling :
      Decides "--config" []
        { stdout := "", problem := some "--config needs a path", exitCode := 1 }

/-- The file that some arguments name: the value of the last `--config`, if there is one. -/
inductive NamesFile (arguments : List String) : Option String → Prop
  | last {i : Nat} {path : String} {behind : List String}
      (read : OptionAt arguments i "--config" (path :: behind))
      (latest : ∀ j behind, OptionAt arguments j "--config" behind → j ≤ i) :
      NamesFile arguments (some path)
  | nowhere (unnamed : ∀ i behind, ¬ OptionAt arguments i "--config" behind) :
      NamesFile arguments none

variable {arguments rest behind : List String} {first value option : String} {i : Nat}
  {file : Option String} {verdict : Report}

/-- No option decides the run. -/
def Undecided (arguments : List String) : Prop :=
  ∀ i option behind verdict, OptionAt arguments i option behind → ¬ Decides option behind verdict

theorem optionAt_zero :
    OptionAt (first :: rest) 0 option behind ↔ option = first ∧ behind = rest := by
  constructor
  · intro read
    cases read
    exact ⟨rfl, rfl⟩
  · rintro ⟨rfl, rfl⟩
    exact .here option behind

theorem optionAt_behindOption (bare : first ≠ "--config") :
    OptionAt (first :: rest) (i + 1) option behind ↔ OptionAt rest i option behind := by
  constructor
  · rintro (_ | ⟨-, later⟩ | later)
    · exact later
    · exact absurd rfl bare
  · exact .behindOption bare

/-- The value of a `--config` is no option. -/
theorem not_optionAt_value : ¬ OptionAt ("--config" :: value :: rest) 1 option behind := by
  rintro (_ | ⟨bare, -⟩ | _)
  exact bare rfl

theorem optionAt_behindValue :
    OptionAt ("--config" :: value :: rest) (i + 2) option behind ↔
      OptionAt rest i option behind := by
  constructor
  · rintro (_ | ⟨bare, -⟩ | later)
    · exact absurd rfl bare
    · exact later
  · exact .behindValue

/-- What is read at a position is determined. -/
theorem OptionAt.unique {other : String} {later : List String}
    (read : OptionAt arguments i option behind) (again : OptionAt arguments i other later) :
    other = option ∧ later = behind := by
  induction read with
  | here option behind => exact optionAt_zero.mp again
  | behindOption bare rest ih => exact ih ((optionAt_behindOption bare).mp again)
  | behindValue rest ih => exact ih (optionAt_behindValue.mp again)

/-- An option that decides nothing is one of two, and `--config` comes with its value. -/
theorem eq_of_not_decides (undecided : ∀ verdict, ¬ Decides option behind verdict) :
    option = "--json" ∨ option = "--config" ∧ behind ≠ [] := by
  by_contra others
  rw [not_or, not_and, not_not] at others
  by_cases named : option = "--config"
  · obtain rfl := others.2 named
    subst named
    exact undecided _ .dangling
  · by_cases asks : option = "-h" ∨ option = "--help"
    · exact undecided _ (.help asks)
    · rw [not_or] at asks
      apply undecided _ (.unknown _)
      simp [others.1, named, asks]

theorem not_decides_json (named : option = "--json") : ¬ Decides option behind verdict := by
  rintro (asks | unknown | _)
  · exact absurd (named ▸ asks) (by decide)
  · exact unknown (by simp [named])
  · exact absurd named (by decide)

theorem not_decides_config (full : behind ≠ []) : ¬ Decides "--config" behind verdict := by
  rintro (asks | unknown | _)
  · exact absurd asks (by decide)
  · exact unknown (by decide)
  · exact full rfl

theorem undecided_nil : Undecided [] := by
  rintro i option behind verdict ⟨⟩

theorem Undecided.json (later : Undecided rest) : Undecided ("--json" :: rest) := by
  rintro (_ | i) option behind verdict read
  · exact not_decides_json (optionAt_zero.mp read).1
  · exact later i option behind verdict ((optionAt_behindOption (by decide)).mp read)

theorem Undecided.config (later : Undecided rest) (value : String) :
    Undecided ("--config" :: value :: rest) := by
  rintro (_ | _ | i) option behind verdict read
  · obtain ⟨rfl, rfl⟩ := optionAt_zero.mp read
    exact not_decides_config (List.cons_ne_nil value rest)
  · exact absurd read not_optionAt_value
  · exact later i option behind verdict (optionAt_behindValue.mp read)

/-! ### What reading comes to -/

/-- The report of a run that a request decides. -/
def Request.verdict? : Request → Option Report
  | help => some { stdout := usage ++ "\n" }
  | refuse problem => some (.failed "" problem)
  | run _ => none

theorem readArguments_unknown (options : Options)
    (unknown : option ∉ ["--json", "--config", "-h", "--help"]) :
    readArguments options (option :: rest) =
      .refuse ("unknown argument: " ++ option ++ "\n" ++ usage) := by
  simp only [List.mem_cons, List.not_mem_nil, or_false, not_or] at unknown
  obtain ⟨notJson, notConfig, notShort, notLong⟩ := unknown
  rw [readArguments]
  · exact notJson
  · exact fun named _ => notConfig named
  · exact fun _ _ named _ => notConfig named
  · exact notShort
  · exact notLong

theorem verdict?_of_decides (decides : Decides option behind verdict) (options : Options) :
    (readArguments options (option :: behind)).verdict? = some verdict := by
  cases decides with
  | help asks =>
    rcases asks with rfl | rfl
    · rfl
    · rfl
  | unknown unknown =>
    rw [readArguments_unknown options unknown]
    rfl
  | dangling => rfl

/-- The first option that decides the run is heard, whatever the options so far. -/
theorem verdict?_of_first (read : OptionAt arguments i option behind)
    (decides : Decides option behind verdict)
    (first : ∀ j < i, ∀ other later earlier,
      OptionAt arguments j other later → ¬ Decides other later earlier) (options : Options) :
    (readArguments options arguments).verdict? = some verdict := by
  induction read generalizing options with
  | here option behind => exact verdict?_of_decides decides options
  | @behindOption head option rest behind i bare later ih =>
    have json : head = "--json" := by
      have silent : ∀ verdict, ¬ Decides head rest verdict :=
        fun verdict => first 0 (Nat.succ_pos i) head rest verdict (.here head rest)
      exact (eq_of_not_decides silent).resolve_right fun named => bare named.1
    subst json
    apply ih decides
    intro j before other later earlier read
    exact first (j + 1) (Nat.succ_lt_succ before) other later earlier (.behindOption bare read)
  | @behindValue value option rest behind i later ih =>
    apply ih decides
    intro j before other later earlier read
    exact first (j + 2) (by omega) other later earlier (.behindValue read)

/-- Arguments name one file or none. -/
theorem NamesFile.unique {other : Option String} (names : NamesFile arguments file)
    (others : NamesFile arguments other) : other = file := by
  cases names with
  | last read latest =>
    cases others with
    | last readToo latestToo =>
      obtain rfl := Nat.le_antisymm (latest _ _ readToo) (latestToo _ _ read)
      obtain ⟨-, behind⟩ := read.unique readToo
      rw [(List.cons_eq_cons.mp behind).1]
    | nowhere unnamed => exact absurd read (unnamed _ _)
  | nowhere unnamed =>
    cases others with
    | last read latest => exact absurd read (unnamed _ _)
    | nowhere unnamedToo => rfl

theorem namesFile_nil : NamesFile [] none := by
  refine .nowhere ?_
  rintro i behind ⟨⟩

theorem NamesFile.behindOption (names : NamesFile rest file) (bare : first ≠ "--config") :
    NamesFile (first :: rest) file := by
  cases names with
  | @last i path behind read latest =>
    refine .last (.behindOption bare read) ?_
    rintro (_ | j) others read
    · exact Nat.zero_le _
    · exact Nat.succ_le_succ (latest j others ((optionAt_behindOption bare).mp read))
  | nowhere unnamed =>
    refine .nowhere ?_
    rintro (_ | j) others read
    · exact bare (optionAt_zero.mp read).1.symm
    · exact unnamed j others ((optionAt_behindOption bare).mp read)

theorem NamesFile.behindValue (names : NamesFile rest file) (value : String) :
    NamesFile ("--config" :: value :: rest) (file <|> some value) := by
  cases names with
  | @last i path behind read latest =>
    refine .last (.behindValue read) ?_
    rintro (_ | _ | j) others read
    · exact Nat.zero_le _
    · exact absurd read not_optionAt_value
    · exact Nat.add_le_add_right (latest j others (optionAt_behindValue.mp read)) 2
  | nowhere unnamed =>
    refine .last (.here "--config" (value :: rest)) ?_
    rintro (_ | _ | j) others read
    · exact Nat.le_refl 0
    · exact absurd read not_optionAt_value
    · exact absurd (optionAt_behindValue.mp read) (unnamed j others)

/-- If no option decides the run, every option counts, and the last file that is named. -/
theorem exists_readArguments (undecided : Undecided arguments) (options : Options) :
    ∃ result file, readArguments options arguments = .run result ∧
      (result.records = true ↔
        options.records = true ∨ ∃ i behind, OptionAt arguments i "--json" behind) ∧
      NamesFile arguments file ∧ result.config = (file <|> options.config) := by
  -- The induction follows the reading; what has been read so far is in the options.
  induction options, arguments using readArguments.induct with
  | case1 options =>
    refine ⟨options, none, rfl, ?_, namesFile_nil, rfl⟩
    constructor
    · exact .inl
    · rintro (asked | ⟨i, behind, ⟨⟩⟩)
      exact asked
  | case2 options rest ih =>
    have bare : "--json" ≠ "--config" := by decide
    obtain ⟨result, file, read, records, names, config⟩ := ih fun i option behind verdict later =>
      undecided (i + 1) option behind verdict (.behindOption bare later)
    refine ⟨result, file, read, ?_, names.behindOption bare, config⟩
    exact iff_of_true (records.mpr (.inl rfl)) (.inr ⟨0, rest, .here "--json" rest⟩)
  | case3 options => exact absurd .dangling (undecided 0 _ _ _ (.here "--config" []))
  | case4 options path rest ih =>
    obtain ⟨result, file, read, records, names, config⟩ := ih fun i option behind verdict later =>
      undecided (i + 2) option behind verdict (.behindValue later)
    refine ⟨result, file <|> some path, read, ?_, names.behindValue path, ?_⟩
    · rw [records]
      refine or_congr_right ⟨?_, ?_⟩
      · rintro ⟨i, behind, later⟩
        exact ⟨i + 2, behind, .behindValue later⟩
      · rintro ⟨_ | _ | i, behind, later⟩
        · exact absurd (optionAt_zero.mp later).1 (by decide)
        · exact absurd later not_optionAt_value
        · exact ⟨i, behind, optionAt_behindValue.mp later⟩
    · rw [config]
      cases file <;> rfl
  | case5 options rest => exact absurd (.help (.inl rfl)) (undecided 0 _ _ _ (.here "-h" rest))
  | case6 options rest =>
    exact absurd (.help (.inr rfl)) (undecided 0 _ _ _ (.here "--help" rest))
  | case7 options other rest notJson dangles valued =>
    rcases eq_of_not_decides fun verdict => undecided 0 _ _ verdict (.here other rest) with
      json | ⟨config, full⟩
    · exact absurd json notJson
    · obtain ⟨path, more, rfl⟩ := List.exists_cons_of_ne_nil full
      exact absurd rfl (valued path more config)

variable {environment : Option String}

theorem ofArguments_of_run {result : Options} (read : readArguments {} arguments = .run result) :
    Request.ofArguments environment arguments =
      .run { result with config := result.config <|> environment } := by
  rw [Request.ofArguments, read]

/-! ### The configuration -/

section Formats

variable [Config.Format]

/-- A run without a file has the default configuration. A file gives one if it can be read, its text
describes a configuration in the format of such files, and the configuration is accepted. -/
inductive Loads (fetch : String → Option String) : Option String → Config → Prop
  | default : Loads fetch none {}
  | file {path text : String} {config : Config} (fetched : fetch path = some text)
      (described : Config.Format.read? text = some config)
      (accepted : config.validate = .ok config) : Loads fetch (some path) config

variable {fetch : String → Option String} {options : Options} {config : Config}

theorem Loads.accepted (loads : Loads fetch file config) : config.validate = .ok config := by
  cases loads with
  | default => rfl
  | file fetched described accepted => exact accepted

theorem ofText_eq_ok {text : String} :
    Config.ofText text = .ok config ↔
      Config.Format.read? text = some config ∧ config.validate = .ok config := by
  rw [Config.ofText]
  cases Config.Format.read? text with
  | none => simp
  | some other =>
    simp only [mapError_eq_ok, Option.some.injEq]
    constructor
    · intro valid
      obtain ⟨rfl, -⟩ := Config.validate_eq_ok.mp valid
      exact ⟨rfl, valid⟩
    · rintro ⟨rfl, valid⟩
      exact valid

/-- A run has the configuration that is loaded. -/
theorem configOf_eq_ok :
    configOf fetch options = .ok config ↔ Loads fetch options.config config := by
  rw [configOf]
  cases options.config with
  | none =>
    constructor
    · rintro ⟨⟩
      exact .default
    · rintro ⟨⟩
      rfl
  | some path =>
    dsimp only
    cases fetched : fetch path with
    | none =>
      constructor
      · rintro ⟨⟩
      · rintro (_ | ⟨found, -⟩)
        rw [fetched] at found
        cases found
    | some text =>
      simp only [mapError_eq_ok, ofText_eq_ok]
      constructor
      · rintro ⟨described, accepted⟩
        exact .file fetched described accepted
      · rintro (_ | ⟨found, described, accepted⟩)
        rw [fetched, Option.some.injEq] at found
        subst found
        exact ⟨described, accepted⟩

/-- A file that gives no configuration is reported by its path. -/
theorem configOf_of_not_loads {path : String} (named : options.config = some path)
    (unloadable : ∀ config, ¬ Loads fetch (some path) config) :
    configOf fetch options = .error (loadProblem path) := by
  cases loaded : configOf fetch options with
  | ok config =>
    rw [configOf_eq_ok, named] at loaded
    exact absurd loaded (unloadable config)
  | error problem =>
    rw [configOf, named] at loaded
    dsimp only at loaded
    cases fetched : fetch path with
    | none =>
      rw [fetched] at loaded
      cases loaded
      rfl
    | some text =>
      rw [fetched] at loaded
      cases read : Config.ofText text with
      | ok config => simp [read, Except.mapError] at loaded
      | error fault =>
        simp only [read, Except.mapError, Except.error.injEq] at loaded
        rw [loaded]

/-! ### Runs -/

variable {input : List UInt8}

theorem run_of_verdict (decided : (readArguments {} arguments).verdict? = some verdict) :
    run environment fetch arguments input = verdict := by
  rw [run, Request.ofArguments]
  cases asked : readArguments {} arguments with
  | help =>
    rw [asked] at decided
    exact Option.some.inj decided
  | refuse problem =>
    rw [asked] at decided
    exact Option.some.inj decided
  | run options =>
    rw [asked] at decided
    cases decided

theorem run_of_unloadable {path : String} (asked : Request.ofArguments environment arguments =
      .run options) (failed : configOf fetch options = .error (loadProblem path)) :
    run environment fetch arguments input = .failed "" (loadProblem path) := by
  have opened : openTerminal fetch options = .error (loadProblem path) := by
    rw [openTerminal, failed]
    rfl
  simp only [run, asked, Request.begin, opened]

/-- The arguments of a run are read from left to right. The first option that decides a run by
itself makes the whole report, whatever could be loaded or read; only help prints anything on the
standard output. If no option decides the run, records are written exactly if some option is
`--json`, and the file is the value of the last `--config`, or else the one that the environment
names. What is loaded from it, or the default configuration if there is no file, is what the
terminal starts with that the input is served by. A file from which nothing can be loaded is
reported by its path, and nothing is printed. -/
theorem arguments_are_read_in_order (environment : Option String)
    (fetch : String → Option String) (arguments : List String) (input : List UInt8) :
    (∀ i option behind verdict, OptionAt arguments i option behind →
      Decides option behind verdict →
      (∀ j < i, ∀ other later earlier,
        OptionAt arguments j other later → ¬ Decides other later earlier) →
      run environment fetch arguments input = verdict) ∧
    (Undecided arguments →
      ∃ (records : Bool) (file : Option String),
        (records = true ↔ ∃ i behind, OptionAt arguments i "--json" behind) ∧
        NamesFile arguments file ∧
        (∀ config, Loads fetch (file <|> environment) config →
          ∃ start, Terminal.start config = .ok start ∧
            run environment fetch arguments input = serve records start input) ∧
        ∀ path, (file <|> environment) = some path →
          (∀ config, ¬ Loads fetch (some path) config) →
          run environment fetch arguments input =
            { stdout := ""
              problem := some ("failed to load config from " ++ path)
              exitCode := 1 }) := by
  constructor
  · intro i option behind verdict read decides first
    exact run_of_verdict (verdict?_of_first read decides first {})
  · intro undecided
    obtain ⟨result, file, read, records, names, config⟩ := exists_readArguments undecided {}
    have source : result.config = file := by
      rw [config]
      cases file <;> rfl
    have asked : Request.ofArguments environment arguments =
        .run { result with config := file <|> environment } := by
      rw [ofArguments_of_run read, source]
    refine ⟨result.records, file, ?_, names, ?_, ?_⟩
    · rw [records]
      exact or_iff_right Bool.false_ne_true
    · intro config loads
      have start := Terminal.start_of_accepted loads.accepted
      exact ⟨_, start, run_of_accepted asked (configOf_eq_ok.mpr loads) start input⟩
    · intro path named unloadable
      exact run_of_unloadable asked (configOf_of_not_loads named unloadable)

end Formats

/-- A value that looks like a request for help comes before an option that is not known. -/
def misleading : List String := ["--json", "--config", "-h", "--verbose", "--help"]

/-- A file is named behind another one whose name looks like an option. -/
def nightly : List String := ["--config", "--json", "--config", "night.toml"]

/-- There are two files. One names the user, and the other one leaves the user without a name. -/
def twoFiles (path : String) : Option String :=
  if path = "day.toml" then some "user = \"ada\""
  else if path = "dusk.toml" then some "user = \"\""
  else none

/-- The request for help is the value of `--config`, so the unknown option decides. The second file
that is named cannot be read, another one describes a configuration that is not accepted, and the
environment's file, which could be loaded, is asked for in the place of neither. -/
theorem arguments_are_read_in_order_when_misleading :
    @run plainFormat (some "day.toml") twoFiles misleading [] =
        { stdout := ""
          problem := some "unknown argument: --verbose\nusage: veneer [--config <path>] [--json]"
          exitCode := 1 } ∧
      @run plainFormat (some "day.toml") twoFiles nightly [] =
        { stdout := "", problem := some "failed to load config from night.toml", exitCode := 1 } ∧
      @run plainFormat (some "day.toml") twoFiles ["--config", "dusk.toml"] [] =
        { stdout := "", problem := some "failed to load config from dusk.toml", exitCode := 1 } ∧
      ∃ start, Terminal.start { user := "ada" } = .ok start ∧
        @run plainFormat (some "day.toml") twoFiles ["--json"] [] = serve true start [] := by
  have told := @arguments_are_read_in_order plainFormat (some "day.toml") twoFiles
  obtain ⟨decided, -⟩ := told misleading []
  obtain ⟨-, lastNamed⟩ := told nightly []
  obtain ⟨-, named⟩ := told ["--config", "dusk.toml"] []
  obtain ⟨-, unnamed⟩ := told ["--json"] []
  refine ⟨?_, ?_, ?_, ?_⟩
  · have verbose : OptionAt misleading 3 "--verbose" ["--help"] :=
      .behindOption (by decide) (.behindValue (.here _ _))
    refine (decided 3 _ _ _ verbose (.unknown (by decide)) ?_).trans (by rfl)
    rintro (_ | _ | _ | j) before other later earlier read
    · exact not_decides_json (optionAt_zero.mp read).1
    · obtain ⟨rfl, rfl⟩ := optionAt_zero.mp ((optionAt_behindOption (by decide)).mp read)
      exact not_decides_config (List.cons_ne_nil _ _)
    · exact absurd ((optionAt_behindOption (by decide)).mp read) not_optionAt_value
    · omega
  · have undecided : Undecided nightly := (undecided_nil.config "night.toml").config "--json"
    have night : NamesFile nightly (some "night.toml") :=
      (namesFile_nil.behindValue "night.toml").behindValue "--json"
    obtain ⟨records, file, -, names, -, failed⟩ := lastNamed undecided
    obtain rfl := night.unique names
    refine (failed "night.toml" rfl ?_).trans (by rfl)
    rintro config (_ | ⟨fetched, -⟩)
    cases fetched
  · have dusk : NamesFile ["--config", "dusk.toml"] (some "dusk.toml") :=
      namesFile_nil.behindValue "dusk.toml"
    obtain ⟨records, file, -, names, -, failed⟩ := named (undecided_nil.config "dusk.toml")
    obtain rfl := dusk.unique names
    refine (failed "dusk.toml" rfl ?_).trans (by rfl)
    rintro config (_ | ⟨fetched, described, accepted⟩)
    cases fetched
    cases described
    cases accepted
  · have nowhere : NamesFile ["--json"] none := namesFile_nil.behindOption (by decide)
    obtain ⟨records, file, asked, names, served, -⟩ := unnamed undecided_nil.json
    obtain rfl := nowhere.unique names
    obtain rfl : records = true := asked.mpr ⟨0, [], .here _ _⟩
    have day : @Loads plainFormat twoFiles (some "day.toml") { user := "ada" } :=
      @Loads.file plainFormat _ _ _ _ rfl rfl rfl
    exact served _ day

end StoryShell.Cli
