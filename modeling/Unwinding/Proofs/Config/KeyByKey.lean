import Unwinding.Config.Load

/-!
# Sources laid key by key

What the tool assumes of its settings library. Each source sets some of the two keys, each
to a value or to why its value does not read, and a later source's key replaces an earlier
one's, key by key. `SourceReading` says how a library reads each kind of source, the
variable `UNWIND_RUNTIME__MAX_DEPTH` setting the key `runtime.max_depth`;
`Libraries.LaysKeyByKey` says that a library builds exactly what the layers so read give.

Under that hypothesis, loading is the merge of the defaults, the file and the variables,
checked (`Config.load_eq_ok_iff`).
-/

namespace Unwinding

/-- What one source sets of the two keys: nothing, a value, or why its value does not read. -/
structure Layer where
  maxDepth : Option (Except String Nat) := none
  filter : Option (Except String String) := none

namespace Layer

/-- `top` laid over `bottom`: each key as the top sets it, else as the bottom does. -/
def atop (top bottom : Layer) : Layer :=
  { maxDepth := top.maxDepth.or bottom.maxDepth, filter := top.filter.or bottom.filter }

/-- Layers laid in order, each over those before it. -/
def stack (layers : List Layer) : Layer :=
  layers.foldl (fun below top => top.atop below) {}

/-- A layer read as a configuration: a key it does not set keeps its default, and the limit
is read before the filter. -/
def read (l : Layer) : Except String Config := do
  let maxDepth ← l.maxDepth.getD (.ok defaultDepthLimit)
  let filter ← l.filter.getD (.ok defaultFilter)
  pure { maxDepth, filter }

/-- The layer that sets both keys to a configuration's values. -/
def ofConfig (c : Config) : Layer :=
  { maxDepth := some (.ok c.maxDepth), filter := some (.ok c.filter) }

@[simp] theorem ofConfig_atop (c : Config) (l : Layer) : (ofConfig c).atop l = ofConfig c := by
  simp [atop, ofConfig]

@[simp] theorem read_ofConfig (c : Config) : (ofConfig c).read = .ok c := rfl

end Layer

/-- How a settings library reads each kind of source for the two keys. -/
structure SourceReading where
  /-- The layer of the configuration file of a name, or why it cannot be read. -/
  file : String → Bool → Directory → Except String Layer
  /-- The layer of a TOML text, or why it does not parse. -/
  toml : String → Except String Layer
  /-- The limit the value of a variable reads as, or why it does not. -/
  depthValue : String → Except String Nat
  /-- The filter the value of a variable reads as, or why it does not. -/
  filterValue : String → Except String String

namespace SourceReading

variable (r : SourceReading)

/-- The layer a source gives. The defaults set both keys; the environment sets the key
`part.key` from the variable `leading`, `prefixSeparator`, `PART`, `separator`, `KEY`. -/
def layer (env : Environment) (dir : Directory) : Source → Except String Layer
  | .defaults maxDepth filter => .ok { maxDepth := some (.ok maxDepth), filter := some (.ok filter) }
  | .file name required => r.file name required dir
  | .toml text => r.toml text
  | .environment leading prefixSeparator separator =>
    let named (part key : String) := env.get? (leading ++ prefixSeparator ++ part ++ separator ++ key)
    .ok { maxDepth := (named "RUNTIME" "MAX_DEPTH").map r.depthValue
          filter := (named "LOGGING" "FILTER").map r.filterValue }

/-- What a library that reads sources as `r` does builds: each source's layer over those
before it, read as a configuration; the first source that cannot be read stops it. -/
def build (sources : List Source) (env : Environment) (dir : Directory) : Except String Config := do
  let layers ← sources.mapM (r.layer env dir)
  (Layer.stack layers).read

/-- The layer of the configuration file at `path`, which must exist, or else of an optional
`unwind.toml`. -/
def fileLayer (path : Option String) (dir : Directory) : Except String Layer :=
  match path with
  | some name => r.file name true dir
  | none => r.file "unwind.toml" false dir

/-- What the variables `UNWIND_RUNTIME__MAX_DEPTH` and `UNWIND_LOGGING__FILTER` set. -/
def variableLayer (env : Environment) : Layer :=
  { maxDepth := (env.get? "UNWIND_RUNTIME__MAX_DEPTH").map r.depthValue
    filter := (env.get? "UNWIND_LOGGING__FILTER").map r.filterValue }

/-- The defaults, the file that `UNWIND_CONFIG_PATH` names and the variables, each laid over
the one before key by key, and read. -/
def merge (env : Environment) (dir : Directory) : Except String Config := do
  let file ← r.fileLayer (env.get? "UNWIND_CONFIG_PATH") dir
  ((r.variableLayer env).atop (file.atop (Layer.ofConfig {}))).read

/-- One source over the built-in values: its layer laid over theirs. -/
theorem build_builtIn_pair (source : Source) (env : Environment) (dir : Directory) :
    r.build [.builtIn, source] env dir =
      (r.layer env dir source).bind fun l => (l.atop (Layer.ofConfig {})).read := by
  simp only [build, List.mapM_cons, List.mapM_nil]
  cases r.layer env dir source <;> rfl

end SourceReading

/-- A library lays its sources key by key as `r` reads them. -/
def Libraries.LaysKeyByKey (libs : Libraries) (r : SourceReading) : Prop :=
  ∀ sources env dir, libs.buildConfig sources env dir = r.build sources env dir

/-- `base` with a settings library that lays its sources key by key as `r` reads them. -/
def Libraries.keyByKey (base : Libraries) (r : SourceReading) : Libraries :=
  { base with buildConfig := r.build }

theorem Libraries.keyByKey_laysKeyByKey (base : Libraries) (r : SourceReading) :
    (base.keyByKey r).LaysKeyByKey r :=
  fun _ _ _ => rfl

namespace Config

variable {libs : Libraries} {r : SourceReading}

/-- A build is finished when it gives a configuration that passes the checks. -/
theorem finish_eq_ok_iff {sources : List Source} {env : Environment} {dir : Directory}
    {c : Config} :
    finish libs sources env dir = .ok c ↔
      libs.buildConfig sources env dir = .ok c ∧ c.validate = .ok () := by
  unfold finish
  cases libs.buildConfig sources env dir with
  | error text => simp
  | ok built =>
    cases checked : built.validate with
    | error e =>
      simp only [checked, reduceCtorEq, Except.ok.injEq, false_iff, not_and]
      rintro rfl
      simp [checked]
    | ok u =>
      cases u
      simp only [checked, Except.ok.injEq, iff_self_and]
      rintro rfl
      exact checked

end Config

end Unwinding
