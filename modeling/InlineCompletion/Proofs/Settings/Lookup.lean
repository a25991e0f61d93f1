import InlineCompletion.Proofs.Json.Record
import InlineCompletion.Proofs.Text.Search
import InlineCompletion.Settings.Files

/-!
Which file decides on the settings, and what settings can come of it. Of six paths in a fixed order
the first one that leads to anything decides, with its failure if it has one; what the later paths
lead to has no influence. Settings that are loaded in whatever way can be used.
-/
namespace InlineCompletion
open Json

/-! ### Settings that can be used -/

/-- Settings that can be used. -/
structure Config.Usable (c : Config) : Prop where
  language : c.language ≠ ""
  promptCap : 1 ≤ c.promptCap
  debounce : 1 ≤ c.debounceMs
  template : promptPlaceholder.toList <:+: c.promptTemplate.toList

/-- What is wrong with settings, by the words in which it is reported. -/
inductive Config.Flaw (c : Config) : String → Prop where
  | language (missing : c.language = "") : Flaw c "Language name cannot be empty"
  | promptCap (zero : c.promptCap = 0) : Flaw c "Prompt cap must be at least 1"
  | debounce (zero : c.debounceMs = 0) : Flaw c "Debounce delay must be at least 1ms"
  | template (missing : ¬ promptPlaceholder.toList <:+: c.promptTemplate.toList) :
      Flaw c ("Prompt template must contain " ++ promptPlaceholder)

section
variable {c d : Config} {reason : String} {format : Format} {text : String}

theorem hasPlaceholder_iff {template : String} :
    hasPlaceholder template = true ↔ promptPlaceholder.toList <:+: template.toList :=
  Text.splitAtFirst?_isSome_iff

/-- Settings that can be used have no flaw. -/
theorem Config.Flaw.not_usable (flaw : c.Flaw reason) : ¬ c.Usable := by
  intro usable
  cases flaw with
  | language missing => exact usable.language missing
  | promptCap zero => exact absurd usable.promptCap (by omega)
  | debounce zero => exact absurd usable.debounce (by omega)
  | template missing => exact missing usable.template

/-- Settings without a problem can be used, and a problem is a flaw. -/
theorem Config.problem?_cases (c : Config) :
    (c.problem? = none ∧ c.Usable) ∨ ∃ reason, c.problem? = some reason ∧ c.Flaw reason := by
  rw [Config.problem?]
  split
  next missing => exact .inr ⟨_, rfl, .language (String.isEmpty_iff.mp missing)⟩
  next language =>
    split
    next zero => exact .inr ⟨_, rfl, .promptCap zero⟩
    next promptCap =>
      split
      next zero => exact .inr ⟨_, rfl, .debounce zero⟩
      next debounce =>
        cases found : hasPlaceholder c.promptTemplate with
        | false =>
          have missing : ¬ promptPlaceholder.toList <:+: c.promptTemplate.toList := by
            rw [← hasPlaceholder_iff, found]
            exact Bool.false_ne_true
          exact .inr ⟨_, rfl, .template missing⟩
        | true =>
          refine .inl ⟨rfl, ?_, by omega, by omega, hasPlaceholder_iff.mp found⟩
          exact fun missing => language (String.isEmpty_iff.mpr missing)

theorem Config.validate_of_usable (usable : c.Usable) : c.validate = .ok c := by
  rcases c.problem?_cases with ⟨none, -⟩ | ⟨reason, -, flaw⟩
  · rw [Config.validate, none]
  · exact absurd usable flaw.not_usable

theorem Config.validate_of_not_usable (unusable : ¬ c.Usable) :
    ∃ reason, c.Flaw reason ∧ c.validate = .error (.configError reason) := by
  rcases c.problem?_cases with ⟨-, usable⟩ | ⟨reason, found, flaw⟩
  · exact absurd usable unusable
  · exact ⟨reason, flaw, by rw [Config.validate, found]⟩

/-- What is validated can be used and is not changed. -/
theorem Config.usable_of_validate (valid : c.validate = .ok d) : d.Usable := by
  by_cases usable : c.Usable
  · rw [Config.validate_of_usable usable, Except.ok.injEq] at valid
    exact valid ▸ usable
  · obtain ⟨reason, -, refused⟩ := Config.validate_of_not_usable usable
    rw [refused] at valid
    cases valid

/-! ### Loading -/

theorem Config.load_of_ofText (read : Config.ofText format text = .ok c) :
    Config.load format text = c.validate := by
  rw [Config.load, read]
  rfl

theorem Config.usable_of_load (loaded : Config.load format text = .ok c) : c.Usable := by
  obtain ⟨d, -, valid⟩ := bind_eq_ok_iff.mp loaded
  exact Config.usable_of_validate valid

theorem Config.usable_of_loadFile {place : Option FileEntry}
    (loaded : Config.loadFile format place = .ok c) : c.Usable := by
  unfold Config.loadFile at loaded
  split at loaded
  case h_1 content =>
    split at loaded
    case h_1 text _ => exact Config.usable_of_load loaded
    case h_2 => cases loaded
  case h_2 => cases loaded

theorem Config.usable_standard : Config.standard.Usable := by
  have valid : Config.standard.validate = .ok .standard := by decide +kernel
  exact Config.usable_of_validate valid

end

/-! ### Paths -/

/-- The directories that may hold settings. -/
inductive Home where
  | project
  | user
deriving DecidableEq

/-- A path that may lead to settings. -/
structure SettingsPath where
  home : Home
  name : String
  format : Format
deriving DecidableEq

/-- The paths in the order in which they are tried. -/
def settingsPaths : List SettingsPath :=
  [⟨.project, "completion.yaml", .yaml⟩, ⟨.project, "completion.yml", .yaml⟩,
   ⟨.project, "completion.json", .json⟩, ⟨.user, "completion.yaml", .yaml⟩,
   ⟨.user, "completion.yml", .yaml⟩, ⟨.user, "completion.json", .json⟩]

/-- What is at one of the directories. -/
def Home.place (project user : Option FileEntry) : Home → Option FileEntry
  | .project => project
  | .user => user

/-- What a path leads to. -/
def SettingsPath.target? (project user : Option FileEntry) (path : SettingsPath) :
    Option FileEntry :=
  (path.home.place project user).bind (FileEntry.child? path.name)

/-- A path that leads to an entry while no path before it leads to anything. -/
inductive LeadsFirst (project user : Option FileEntry) : SettingsPath → FileEntry → Prop where
  | intro {before after : List SettingsPath} {path : SettingsPath} {entry : FileEntry}
      (order : settingsPaths = before ++ path :: after)
      (absent : ∀ other ∈ before, other.target? project user = none)
      (found : path.target? project user = some entry) : LeadsFirst project user path entry

/-- The path that leads to anything first, and what it leads to. -/
def firstFound? (project user : Option FileEntry) (paths : List SettingsPath) :
    Option (SettingsPath × FileEntry) :=
  paths.findSome? fun path => (path.target? project user).map fun entry => (path, entry)

section
variable {project user : Option FileEntry} {path : SettingsPath} {entry : FileEntry}

theorem leadsFirst_iff :
    LeadsFirst project user path entry ↔
      firstFound? project user settingsPaths = some (path, entry) := by
  rw [firstFound?, List.findSome?_eq_some_iff]
  constructor
  · rintro ⟨order, absent, found⟩
    exact ⟨_, _, _, order, by rw [found]; rfl, fun other inside => by rw [absent other inside]; rfl⟩
  · rintro ⟨before, first, after, order, leads, absent⟩
    obtain ⟨found, leads, same⟩ := Option.map_eq_some_iff.mp leads
    cases same
    exact .intro order (fun other inside => Option.map_eq_none_iff.mp (absent other inside)) leads

theorem firstFound?_eq_none_iff {paths : List SettingsPath} :
    firstFound? project user paths = none ↔ ∀ path ∈ paths, path.target? project user = none := by
  simp [firstFound?]

theorem firstFound?_append (front others : List SettingsPath) :
    firstFound? project user (front ++ others) =
      (firstFound? project user front).or (firstFound? project user others) :=
  List.findSome?_append

/-- The paths into one directory. -/
def pathsIn (home : Home) (names : List (String × Format)) : List SettingsPath :=
  names.map fun name => ⟨home, name.1, name.2⟩

theorem settingsPaths_eq :
    settingsPaths = pathsIn .project settingsNames ++ pathsIn .user settingsNames := rfl

/-- The settings at the path that leads to anything first. -/
def loadFound (found : Option (SettingsPath × FileEntry)) :
    Except CompletionError (Option Config) :=
  match found with
  | some (path, entry) => (Config.loadFile path.format (some entry)).map some
  | none => .ok none

theorem loadFirst_eq {home : Home} {directory : FileEntry}
    (there : home.place project user = some directory) (names : List (String × Format)) :
    Config.loadFirst directory names =
      loadFound (firstFound? project user (pathsIn home names)) := by
  induction names with
  | nil => rfl
  | cons name rest ih =>
    have leads : SettingsPath.target? project user ⟨home, name.1, name.2⟩ =
        directory.child? name.1 := by
      rw [SettingsPath.target?, there, Option.bind_some]
    rw [Config.loadFirst, pathsIn, List.map_cons, firstFound?, List.findSome?_cons, leads]
    cases directory.child? name.1 with
    | some entry => rfl
    | none => exact ih

/-- A directory is decided on by the first path into it that leads to anything. -/
theorem loadDirectory_eq (home : Home) :
    Config.loadDirectory (home.place project user) =
      loadFound (firstFound? project user (pathsIn home settingsNames)) := by
  have without (childless : ∀ name, (home.place project user).bind (FileEntry.child? name) = none) :
      firstFound? project user (pathsIn home settingsNames) = none := by
    rw [firstFound?_eq_none_iff]
    intro path inside
    obtain ⟨name, -, rfl⟩ := List.mem_map.mp inside
    exact childless name.1
  cases there : home.place project user with
  | none => rw [without (by simp [there])]; rfl
  | some place =>
    cases place with
    | file content => rw [without (by simp [there, FileEntry.child?])]; rfl
    | locked => rw [without (by simp [there, FileEntry.child?])]; rfl
    | directory entries => exact loadFirst_eq there settingsNames

/-- The first path that leads to anything decides. -/
theorem lookUp_eq (project user : Option FileEntry) :
    Config.lookUp project user =
      match firstFound? project user settingsPaths with
      | some (path, entry) => Config.loadFile path.format (some entry)
      | none => .ok .standard := by
  have ofProject : Config.loadDirectory project =
      loadFound (firstFound? project user (pathsIn .project settingsNames)) :=
    loadDirectory_eq .project
  have ofUser : Config.loadDirectory user =
      loadFound (firstFound? project user (pathsIn .user settingsNames)) :=
    loadDirectory_eq .user
  rw [Config.lookUp, ofProject, ofUser, settingsPaths_eq, firstFound?_append]
  cases firstFound? project user (pathsIn .project settingsNames) with
  | some found =>
    dsimp only [loadFound, Option.some_or]
    cases Config.loadFile found.1.format (some found.2) <;> rfl
  | none =>
    rw [Option.none_or]
    cases firstFound? project user (pathsIn .user settingsNames) with
    | some found =>
      dsimp only [loadFound]
      cases Config.loadFile found.1.format (some found.2) <;> rfl
    | none => rfl

theorem lookUp_of_leadsFirst (leads : LeadsFirst project user path entry) :
    Config.lookUp project user = Config.loadFile path.format (some entry) := by
  rw [lookUp_eq, leadsFirst_iff.mp leads]

theorem lookUp_of_absent (absent : ∀ path ∈ settingsPaths, path.target? project user = none) :
    Config.lookUp project user = .ok .standard := by
  rw [lookUp_eq, firstFound?_eq_none_iff.mpr absent]

/-- Where the first paths lead to the same, the same path among them leads to anything first. -/
theorem firstFound?_congr {project' user' : Option FileEntry} {paths : List SettingsPath}
    (same : ∀ path ∈ paths, path.target? project' user' = path.target? project user) :
    firstFound? project' user' paths = firstFound? project user paths := by
  induction paths with
  | nil => rfl
  | cons path rest ih =>
    obtain ⟨first, rest⟩ := List.forall_mem_cons.mp same
    rw [firstFound?, firstFound?, List.findSome?_cons, List.findSome?_cons, first, ← firstFound?,
      ← firstFound?, ih rest]

/-- The paths behind one that leads to something are not looked at. -/
theorem firstFound?_settled {project' user' : Option FileEntry} {front : List SettingsPath}
    (early : front <+: settingsPaths)
    (enough : front = settingsPaths ∨ ∃ path ∈ front, (path.target? project user).isSome)
    (same : ∀ path ∈ front, path.target? project' user' = path.target? project user) :
    firstFound? project' user' settingsPaths = firstFound? project user settingsPaths := by
  have sameFirst := firstFound?_congr same
  rcases enough with rfl | ⟨path, inside, there⟩
  · exact sameFirst
  · have some : (firstFound? project user front).isSome := by
      rw [← Option.ne_none_iff_isSome, ne_eq, firstFound?_eq_none_iff]
      intro absent
      rw [absent path inside] at there
      cases there
    obtain ⟨others, split⟩ := early
    rw [← split, firstFound?_append, firstFound?_append, sameFirst, Option.or_of_isSome some,
      Option.or_of_isSome some]

theorem usable_of_lookUp {c : Config} (found : Config.lookUp project user = .ok c) : c.Usable := by
  rw [lookUp_eq] at found
  split at found
  case h_1 path entry _ => exact Config.usable_of_loadFile found
  case h_2 =>
    cases found
    exact Config.usable_standard

theorem usable_of_loadDirectory {place : Option FileEntry} {c : Config}
    (found : Config.loadDirectory place = .ok (some c)) : c.Usable := by
  have looked : Config.lookUp place none = .ok c := by
    rw [Config.lookUp, found]
    rfl
  exact usable_of_lookUp looked

end

/-! ### The settings of two directories -/

/-- How the settings of two directories are found. -/
structure FoundFirst (project user : Option FileEntry) : Prop where
  decided : ∀ {path entry}, LeadsFirst project user path entry →
    Config.lookUp project user = Config.loadFile path.format (some entry)
  absent : (∀ path ∈ settingsPaths, path.target? project user = none) →
    Config.lookUp project user = .ok .standard
  total : (∃ path entry, LeadsFirst project user path entry) ∨
    ∀ path ∈ settingsPaths, path.target? project user = none
  /-- What lies behind the path that decides, or anywhere else, has no influence. -/
  alone : ∀ {project' user' front}, front <+: settingsPaths →
    front = settingsPaths ∨ (∃ path ∈ front, (path.target? project user).isSome) →
    (∀ path ∈ front, path.target? project' user' = path.target? project user) →
    Config.lookUp project' user' = Config.lookUp project user

/-- What the ways of loading settings give. -/
structure LoadsUsable : Prop where
  ofText : ∀ {format text c}, Config.load format text = .ok c → c.Usable
  ofFile : ∀ {format place c}, Config.loadFile format place = .ok c → c.Usable
  ofDirectory : ∀ {place c}, Config.loadDirectory place = .ok (some c) → c.Usable
  ofDirectories : ∀ {project user c}, Config.lookUp project user = .ok c → c.Usable
  /-- A text with settings that cannot be used is refused for what is wrong with them. -/
  refusedText : ∀ {format text c}, Config.ofText format text = .ok c → ¬ c.Usable →
    ∃ reason, c.Flaw reason ∧ Config.load format text = .error (.configError reason)
  refusedFile : ∀ {format content text c}, String.fromUTF8? content = some text →
    Config.ofText format text = .ok c → ¬ c.Usable →
    ∃ reason, c.Flaw reason ∧
      Config.loadFile format (some (.file content)) = .error (.configError reason)

theorem foundFirst (project user : Option FileEntry) : FoundFirst project user := by
  constructor
  case decided => exact lookUp_of_leadsFirst
  case absent => exact lookUp_of_absent
  case total =>
    cases first : firstFound? project user settingsPaths with
    | some found => exact .inl ⟨found.1, found.2, leadsFirst_iff.mpr first⟩
    | none => exact .inr (firstFound?_eq_none_iff.mp first)
  case alone =>
    intro project' user' front early enough same
    rw [lookUp_eq, lookUp_eq, firstFound?_settled early enough same]

theorem loadsUsable : LoadsUsable := by
  constructor
  case ofText => exact Config.usable_of_load
  case ofFile => exact Config.usable_of_loadFile
  case ofDirectory => exact usable_of_loadDirectory
  case ofDirectories => exact usable_of_lookUp
  case refusedText =>
    intro format text c read unusable
    rw [Config.load_of_ofText read]
    exact Config.validate_of_not_usable unusable
  case refusedFile =>
    intro format content text c decoded read unusable
    have loaded : Config.loadFile format (some (.file content)) = Config.load format text := by
      rw [Config.loadFile, decoded]
    rw [loaded, Config.load_of_ofText read]
    exact Config.validate_of_not_usable unusable

/-- Of the files that may hold settings the first that exists decides alone, and no settings that
cannot be used are loaded. -/
theorem settings_found_first (project user : Option FileEntry) :
    FoundFirst project user ∧ LoadsUsable :=
  ⟨foundFirst project user, loadsUsable⟩

end InlineCompletion
