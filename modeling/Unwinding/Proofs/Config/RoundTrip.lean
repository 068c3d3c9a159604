import Unwinding.Proofs.Config.KeyByKey
import Unwinding.Proofs.Toml.Document
import Unwinding.Libraries.StandIn

/-!
# The written configuration reads back

`Config.toToml` hands a configuration to the TOML writer, and `Config.fromToml` lays the
TOML source of a text over the built-in values and checks the result. When the writer and
the TOML source are inverse on the limit and the filter (`Libraries.TomlInverse`) and the
settings library lays key by key, every valid configuration whose limit is a TOML integer
is written and read back as itself (`Config.valid_config_written_and_read_back`).

The TOML writer and reader the tool runs with are inverse in this sense
(`Libraries.standIn_tomlInverse`). That writer refuses a limit from `2^63` on, which no
signed 64-bit TOML integer holds.
-/

namespace Unwinding

/-- The TOML writer and the TOML source, read as `r`, are inverse on the limit and the
filter: a configuration whose limit is a TOML integer is written, and what is written reads
back as the same integer and string. -/
structure Libraries.TomlInverse (libs : Libraries) (r : SourceReading) : Prop where
  writes : ∀ c : Config, c.maxDepth < 2 ^ 63 → ∃ text, libs.writeToml c = .ok text
  readsBack : ∀ c text, libs.writeToml c = .ok text → r.toml text = .ok (Layer.ofConfig c)

/-- Laying the settings key by key leaves the writer as it is. -/
theorem Libraries.TomlInverse.keyByKey {libs : Libraries} {r : SourceReading}
    (inverse : libs.TomlInverse r) (r' : SourceReading) : (libs.keyByKey r').TomlInverse r :=
  ⟨inverse.writes, inverse.readsBack⟩

/-! ## The writer and the reader the tool runs with -/

/-- A text whose characters are all lower case is its own lower case. -/
theorem toLower_eq_self {s : String} (lower : ∀ c ∈ s.toList, c.toLower = c) : s.toLower = s := by
  apply String.toList_inj.mp
  change (s.map Char.toLower).toList = s.toList
  rw [String.toList_map, List.map_congr_left lower, List.map_id']


namespace Toml

/-- The configuration's table names and keys are bare keys. -/
theorem configKeys_bare : ∀ word ∈ ["runtime", "max_depth", "logging", "filter"],
    word.toList ≠ [] ∧ ∀ c ∈ word.toList, isUnquotedKeyChar c = true := by
  intro word listed
  have checked : word.toList ≠ [] ∧ word.toList.all isUnquotedKeyChar = true := by
    revert word
    decide
  exact ⟨checked.1, List.all_eq_true.mp checked.2⟩

theorem readDocument_of_bracket (x : List Char) :
    readDocument ('[' :: x) = statementsFrom {} ('[' :: x) := by
  simp [readDocument, isWhitespace]

/-- The runtime section as it is written: the header opens the table and the one line sets
the limit, which is read back as written. -/
theorem statementsFrom_runtimeSection {n : Nat} (fits : n < 2 ^ 63) (rest : List Char)
    (ends : ∀ d ∈ rest.head?, isWhitespace d = false) :
    statementsFrom {} ('[' :: ("runtime".toList ++ ']' :: '\n' :: ("max_depth".toList ++
        ' ' :: '=' :: ' ' :: (Nat.toDigits 10 n ++ '\n' :: rest)))) =
      statementsFrom
        { current := { entries := [("max_depth", .value (.integer n))] }, path := ["runtime"] } rest := by
  obtain ⟨runtimeWord, runtimeBare⟩ := configKeys_bare "runtime" (by simp)
  obtain ⟨depthWord, depthBare⟩ := configKeys_bare "max_depth" (by simp)
  have opened : DocState.openTable {} [String.ofList "runtime".toList] =
      .ok { path := ["runtime"] } := by
    rw [String.ofList_toList]; rfl
  have added : DocState.addKeyval { path := ["runtime"] } [String.ofList "max_depth".toList]
      (.integer n) =
      .ok { current := { entries := [("max_depth", .value (.integer n))] }, path := ["runtime"] } := by
    rw [String.ofList_toList]; rfl
  rw [statementsFrom_header_line runtimeBare runtimeWord opened (keyLine_start depthBare depthWord _),
    statementsFrom_keyval_line depthBare depthWord (toDigits_not_blank _ _) (value_toDigits _ fits _)
      added ends]

/-- The written configuration, read as TOML, is its two tables with one entry each. -/
theorem parse_writeConfig {c : Config} {text : String} (written : writeConfig c = .ok text) :
    parse text = .ok [("runtime", .table [("max_depth", .integer c.maxDepth)]),
      ("logging", .table [("filter", .string c.filter)])] := by
  unfold writeConfig at written
  split at written
  case isTrue => cases written
  case isFalse tooLarge =>
    cases written
    have fits : c.maxDepth < 2 ^ 63 := by simp only [Nat.pow_eq] at tooLarge; omega
    obtain ⟨loggingWord, loggingBare⟩ := configKeys_bare "logging" (by simp)
    obtain ⟨filterWord, filterBare⟩ := configKeys_bare "filter" (by simp)
    have shape : ("[runtime]\nmax_depth = " ++ toString c.maxDepth ++ "\n\n[logging]\nfilter = " ++
          quoteString c.filter ++ "\n").toList =
        '[' :: ("runtime".toList ++ ']' :: '\n' :: ("max_depth".toList ++ ' ' :: '=' :: ' ' ::
          (Nat.toDigits 10 c.maxDepth ++ '\n' :: '\n' :: '[' :: ("logging".toList ++ ']' :: '\n' ::
            ("filter".toList ++ ' ' :: '=' :: ' ' :: ((quoteString c.filter).toList ++ '\n' :: [])))))) := by
      simp
    have loggingOpened : DocState.openTable
        { current := { entries := [("max_depth", .value (.integer c.maxDepth))] }, path := ["runtime"] }
        [String.ofList "logging".toList] =
        .ok { root := { entries := [("runtime", .table [("max_depth", .value (.integer c.maxDepth))] false false)] },
              path := ["logging"] } := by
      rw [String.ofList_toList]; rfl
    have filterAdded : DocState.addKeyval
        { root := { entries := [("runtime", .table [("max_depth", .value (.integer c.maxDepth))] false false)] },
          path := ["logging"] } [String.ofList "filter".toList] (.string c.filter) =
        .ok { root := { entries := [("runtime", .table [("max_depth", .value (.integer c.maxDepth))] false false)] },
              current := { entries := [("filter", .value (.string c.filter))] }, path := ["logging"] } := by
      rw [String.ofList_toList]; rfl
    rw [parse, shape, readDocument_of_bracket,
      statementsFrom_runtimeSection fits ('\n' :: _) (fun d head => by cases head; rfl),
      statementsFrom_newline, dropWhile_blank_none (fun d head => by cases head; rfl),
      statementsFrom_header_line loggingBare loggingWord loggingOpened (keyLine_start filterBare filterWord _),
      statementsFrom_keyval_line filterBare filterWord (quoteString_not_blank _ _)
        (value_quoteString _ c.filter (by simp)) filterAdded (fun d head => by cases head),
      statementsFrom_nil]
    rfl

/-- Two entries whose keys stand in the wrong order are swapped by the sort. -/
theorem sortEntries_pair {β : Type} {a b : String} (x y : β) (before : b < a) :
    sortEntries [(a, x), (b, y)] = [(b, y), (a, x)] := by
  have later : ¬(fun p q : String × β => !(decide (q.1 < p.1))) (a, x) (b, y) = true := by
    show ¬(!(decide (b < a))) = true
    rw [decide_eq_true before]
    decide
  have halves : List.mergeSort [(a, x), (b, y)] (fun p q => !(decide (q.1 < p.1))) =
      List.merge [(a, x)] [(b, y)] (fun p q => !(decide (q.1 < p.1))) := by
    rw [List.mergeSort]
    simp only [List.MergeSort.Internal.splitInTwo_fst, List.MergeSort.Internal.splitInTwo_snd,
      List.length_cons, List.length_nil, Nat.reduceAdd, Nat.reduceDiv, List.take_succ_cons,
      List.take_zero, List.drop_succ_cons, List.drop_zero, List.mergeSort_singleton]
  rw [sortEntries, halves, List.cons_merge_cons_neg (fun p q : String × β => !(decide (q.1 < p.1)))
    [] [] later, List.merge_right]

/-- The two tables as a source of settings, sorted by key: `logging` before `runtime`. -/
theorem sourceOf_configEntries (n : Int) (f : String) :
    sourceOf none [("runtime", .table [("max_depth", .integer n)]), ("logging", .table [("filter", .string f)])] =
      [("logging", .mk none (.table [("filter", .mk none (.text f))])),
       ("runtime", .mk none (.table [("max_depth", .mk none (.int n))]))] := by
  have runtime : "runtime".toLower = "runtime" := toLower_eq_self (by simp)
  have logging : "logging".toLower = "logging" := toLower_eq_self (by simp)
  have maxDepth : "max_depth".toLower = "max_depth" := toLower_eq_self (by simp)
  have filter : "filter".toLower = "filter" := toLower_eq_self (by simp)
  have before : "logging" < "runtime" := by decide
  rw [sourceOf, entriesToSettings, entriesToSettings, entriesToSettings, collectEntries,
    Value.toSetting, Value.toSetting, sortEntries_pair _ _ before]
  simp [Setting.upsert, entriesToSettings, Value.toSetting, runtime, logging, maxDepth, filter,
    collectEntries, sortEntries]

end Toml

namespace Setting

/-- The field `field` of the table `part` of a source of settings, if the source has one. -/
def fieldOf? (entries : List (String × Setting)) (part field : String) : Option Setting :=
  match entries.lookup part with
  | some s =>
    match s.kind with
    | .table fields => fields.lookup field
    | _ => none
  | none => none

/-- A setting converted by `convert`, its error as text. -/
def readAs {α : Type} (convert : Setting → Except LoadError α) (s : Setting) : Except String α :=
  match convert s with
  | .ok v => .ok v
  | .error e => .error e.text

end Setting

namespace Layer

/-- What a source of settings sets of the two keys. -/
def ofSettings (entries : List (String × Setting)) : Layer :=
  { maxDepth := (Setting.fieldOf? entries "runtime" "max_depth").map (Setting.readAs Setting.toUnsigned)
    filter := (Setting.fieldOf? entries "logging" "filter").map (Setting.readAs Setting.toText) }

/-- The layer of a source of settings, or why the source cannot be read. -/
def ofSource : Except LoadError (List (String × Setting)) → Except String Layer
  | .ok entries => .ok (ofSettings entries)
  | .error e => .error e.text

/-- The two tables of a written configuration set both keys to its values. -/
theorem ofSettings_configSource (c : Config) :
    ofSettings [("logging", .mk none (.table [("filter", .mk none (.text c.filter))])),
      ("runtime", .mk none (.table [("max_depth", .mk none (.int c.maxDepth))]))] = ofConfig c := by
  have nonneg : ¬ ((c.maxDepth : Int) < 0) := by omega
  simp +decide [ofSettings, ofConfig, Setting.fieldOf?, List.lookup_cons, Setting.kind,
    Setting.readAs, Setting.toUnsigned, Setting.toText, nonneg]

end Layer

/-- How the settings library the tool runs with reads each source for the two keys. -/
def SourceReading.standIn : SourceReading where
  file name required dir := Layer.ofSource ((Source.file name required).settings {} dir)
  toml text := Layer.ofSource ((Source.toml text).settings {} {})
  depthValue value := Setting.readAs Setting.toUnsigned (.mk (some environmentOrigin) (environmentValue value))
  filterValue value := Setting.readAs Setting.toText (.mk (some environmentOrigin) (environmentValue value))

/-- The libraries the tool runs with, but with a settings library that lays key by key. -/
def Libraries.standInKeyByKey : Libraries := Libraries.standIn.keyByKey SourceReading.standIn

/-- The writer the tool runs with writes what its TOML source reads back. -/
theorem Libraries.standIn_tomlInverse : Libraries.standIn.TomlInverse SourceReading.standIn where
  writes c fits := by
    have written : ¬ c.maxDepth ≥ Nat.pow 2 63 := by simp only [Nat.pow_eq]; omega
    exact ⟨_, by simp only [Libraries.standIn, Toml.writeConfig, if_neg written]; rfl⟩
  readsBack c text written := by
    have wrote : Toml.writeConfig c = .ok text := by
      simp only [Libraries.standIn] at written
      cases wrote : Toml.writeConfig c with
      | ok t => rw [wrote] at written; cases written; rfl
      | error e => rw [wrote] at written; cases written
    simp only [SourceReading.standIn, Source.settings, Toml.parse_writeConfig wrote, Layer.ofSource,
      Toml.sourceOf_configEntries, Layer.ofSettings_configSource]

/-! ## The round trip -/

namespace Config

variable {libs : Libraries} {r : SourceReading}

/-- A TOML text whose source sets both keys to a valid configuration's values gives that
configuration. -/
theorem fromToml_of_layer (keyByKey : libs.LaysKeyByKey r) {text : String} {c : Config}
    (read : r.toml text = .ok (Layer.ofConfig c)) (valid : c.validate = .ok ()) :
    fromToml libs text = .ok c := by
  refine finish_eq_ok_iff.mpr ⟨?_, valid⟩
  rw [keyByKey, SourceReading.build_builtIn_pair]
  show (r.toml text).bind (fun l => (l.atop (Layer.ofConfig {})).read) = .ok c
  rw [read]
  show ((Layer.ofConfig c).atop (Layer.ofConfig {})).read = .ok c
  rw [Layer.ofConfig_atop, Layer.read_ofConfig]

/-- A valid configuration whose limit is a TOML integer is written, and whatever is written
of a valid configuration reads back as it. -/
theorem valid_config_written_and_read_back (keyByKey : libs.LaysKeyByKey r)
    (inverse : libs.TomlInverse r) (c : Config) (valid : c.validate = .ok ()) :
    (c.maxDepth < 2 ^ 63 → ∃ text, toToml libs c = .ok text) ∧
      ∀ text, toToml libs c = .ok text → fromToml libs text = .ok c :=
  ⟨inverse.writes c, fun _ written => fromToml_of_layer keyByKey (inverse.readsBack c _ written) valid⟩

theorem config_depth_64_warn_reads_back :
    Libraries.standInKeyByKey.LaysKeyByKey SourceReading.standIn ∧
      Libraries.standInKeyByKey.TomlInverse SourceReading.standIn ∧
      ({ maxDepth := 64, filter := "warn" } : Config).validate = .ok () ∧
      ((({ maxDepth := 64, filter := "warn" } : Config).maxDepth < 2 ^ 63 →
          ∃ text, toToml Libraries.standInKeyByKey { maxDepth := 64, filter := "warn" } = .ok text) ∧
        ∀ text, toToml Libraries.standInKeyByKey { maxDepth := 64, filter := "warn" } = .ok text →
          fromToml Libraries.standInKeyByKey text = .ok { maxDepth := 64, filter := "warn" }) :=
  have keyByKey := Libraries.keyByKey_laysKeyByKey Libraries.standIn SourceReading.standIn
  have inverse := Libraries.standIn_tomlInverse.keyByKey SourceReading.standIn
  have valid : ({ maxDepth := 64, filter := "warn" } : Config).validate = .ok () := by
    simp +decide [validate, Text.isBlankText]
  ⟨keyByKey, inverse, valid, valid_config_written_and_read_back keyByKey inverse _ valid⟩

/-- A valid configuration whose limit is `2^63` is not written. -/
theorem toToml_refuses_depth_two_pow_63 :
    ({ maxDepth := 2 ^ 63, filter := "info" } : Config).validate = .ok () ∧
      toToml Libraries.standIn { maxDepth := 2 ^ 63, filter := "info" } =
        .error "out-of-range value for u64 type" :=
  ⟨by simp +decide [validate, Text.isBlankText], rfl⟩

end Config

end Unwinding
