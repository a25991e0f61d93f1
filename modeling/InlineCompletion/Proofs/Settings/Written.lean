import InlineCompletion.Proofs.Json.RoundTrip
import InlineCompletion.Proofs.Settings.Lookup

/-!
Settings that are written and read back. The text of an object with any of their fields, in any
order, gives the standard settings with just these fields replaced; the text of all fields gives the
settings themselves, as far as they can be used. Values that do not come from a text are read alike.
-/
namespace InlineCompletion
open Json

/-! ### Fields -/

/-- The name of a field. -/
def Field.name : Field → String
  | .language => "language"
  | .debounceMs => "debounce_ms"
  | .promptCap => "prompt_cap"
  | .sentinelMarker => "sentinel_marker"
  | .lengthTagMarker => "length_tag_marker"
  | .plainPathContext => "plain_path_context"
  | .promptTemplate => "prompt_template"
  | .ghostStyle => "ghost_style"

/-- What settings have in a field. -/
def Config.value (c : Config) : Field → Json
  | .language => .string c.language
  | .debounceMs => .integer c.debounceMs
  | .promptCap => .integer c.promptCap
  | .sentinelMarker => .string c.sentinelMarker
  | .lengthTagMarker => .string c.lengthTagMarker
  | .plainPathContext => .string c.plainPathContext
  | .promptTemplate => .string c.promptTemplate
  | .ghostStyle => .string c.ghostStyle.name

/-- The object that holds only some fields of settings, in this order. -/
def Config.part (c : Config) (fields : List Field) : Json :=
  .object (fields.map fun field => (field.name, c.value field))

/-- Settings with some fields taken from others. -/
def Config.overridden (base c : Config) (fields : List Field) : Config where
  language := if .language ∈ fields then c.language else base.language
  debounceMs := if .debounceMs ∈ fields then c.debounceMs else base.debounceMs
  promptCap := if .promptCap ∈ fields then c.promptCap else base.promptCap
  sentinelMarker := if .sentinelMarker ∈ fields then c.sentinelMarker else base.sentinelMarker
  lengthTagMarker := if .lengthTagMarker ∈ fields then c.lengthTagMarker else base.lengthTagMarker
  plainPathContext :=
    if .plainPathContext ∈ fields then c.plainPathContext else base.plainPathContext
  promptTemplate := if .promptTemplate ∈ fields then c.promptTemplate else base.promptTemplate
  ghostStyle := if .ghostStyle ∈ fields then c.ghostStyle else base.ghostStyle

/-- Settings whose numbers have 64 bits. -/
structure Config.Words (c : Config) : Prop where
  debounceMs : c.debounceMs < 2 ^ 64
  promptCap : c.promptCap < 2 ^ 64

section
variable {base c : Config} {field : Field} {fields seen : List Field}

theorem Field.ofName?_name (field : Field) : Field.ofName? field.name = some field := by
  cases field <;> rfl

theorem Field.name_inj {other : Field} : field.name = other.name ↔ field = other := by
  refine ⟨fun same => ?_, congrArg _⟩
  rw [← Option.some.injEq, ← Field.ofName?_name, same, Field.ofName?_name]

theorem GhostStyle.ofName?_name (style : GhostStyle) :
    GhostStyle.ofName? style.name = some style := by
  cases style <;> rfl

/-- All fields make up the settings. -/
theorem part_all (c : Config) : c.part (Field.named.map Prod.snd) = c.toJson := rfl

theorem overridden_all (base c : Config) :
    base.overridden c (Field.named.map Prod.snd) = c := rfl

/-- One field after the other. -/
theorem overridden_cons :
    (base.overridden c [field]).overridden c fields = base.overridden c (field :: fields) := by
  cases field <;> simp [Config.overridden]

/-! ### From a text -/

/-- The tree of what settings have in a field. -/
def Config.tree (c : Config) : Field → Tree
  | .language => .string (some c.language)
  | .debounceMs => .number (.ofInteger c.debounceMs)
  | .promptCap => .number (.ofInteger c.promptCap)
  | .sentinelMarker => .string (some c.sentinelMarker)
  | .lengthTagMarker => .string (some c.lengthTagMarker)
  | .plainPathContext => .string (some c.plainPathContext)
  | .promptTemplate => .string (some c.promptTemplate)
  | .ghostStyle => .string (some c.ghostStyle.name)

theorem holds_value (c : Config) (field : Field) : (c.tree field).Holds (c.value field) := by
  cases field <;> constructor

theorem holds_part (c : Config) (fields : List Field) :
    (Tree.object (fields.map fun field => (some field.name, c.tree field))).Holds
      (c.part fields) := by
  refine .object ?_
  induction fields with
  | nil => exact .nil
  | cons field fields ih => exact .cons (holds_value c field) ih

theorem natural?_ofInteger {n : Nat} (fits : n < 2 ^ 64) :
    Tree.natural? (.number (.ofInteger n)) = some n := by
  rw [Tree.natural?, value?_ofInteger (by omega) (by omega)]
  exact if_neg (by omega)

/-- A field is set to what was written for it. -/
theorem set_tree (words : c.Words) (base : Config) (field : Field) :
    base.set Tree.reader field (c.tree field) = some (base.overridden c [field]) := by
  cases field with
  | debounceMs => exact congrArg (Option.map _) (natural?_ofInteger words.debounceMs)
  | promptCap => exact congrArg (Option.map _) (natural?_ofInteger words.promptCap)
  | ghostStyle => exact congrArg (Option.map _) (GhostStyle.ofName?_name c.ghostStyle)
  | _ => rfl

theorem setAll_written (words : c.Words) (once : fields.Nodup)
    (unseen : ∀ field ∈ fields, field ∉ seen) :
    base.setAll Tree.reader seen (fields.map fun field => (field.name, c.tree field)) =
      some (base.overridden c fields) := by
  induction fields generalizing base seen with
  | nil => rfl
  | cons field fields ih =>
    obtain ⟨absent, once⟩ := List.nodup_cons.mp once
    obtain ⟨first, unseen⟩ := List.forall_mem_cons.mp unseen
    have later : ∀ other ∈ fields, other ∉ field :: seen := fun other inside =>
      List.not_mem_cons_of_ne_of_not_mem (fun same => absent (same ▸ inside)) (unseen other inside)
    rw [List.map_cons, Config.setAll, Field.ofName?_name]
    dsimp only
    rw [if_neg first, set_tree words]
    dsimp only
    rw [ih once later, overridden_cons]

theorem named?_written (c : Config) (fields : List Field) :
    Tree.named? (fields.map fun field => (some field.name, c.tree field)) =
      some (fields.map fun field => (field.name, c.tree field)) := by
  induction fields with
  | nil => rfl
  | cons field fields ih => rw [List.map_cons, Tree.named?, ih]; rfl

/-- The text of some fields gives the standard settings with these fields. -/
theorem ofText_part (words : c.Words) (once : fields.Nodup) :
    Config.ofText .json (render (c.part fields)) = .ok (Config.standard.overridden c fields) := by
  have read : Config.ofJsonText? (render (c.part fields)) =
      some (Config.standard.overridden c fields) := by
    rw [Config.ofJsonText?, parseTree?_render (holds_part c fields)]
    dsimp only
    rw [named?_written]
    exact setAll_written words once fun _ _ => List.not_mem_nil
  rw [Config.ofText, read]

/-! ### From a value -/

theorem member?_part (c : Config) (fields : List Field) (field : Field) :
    (c.part fields).member? field.name =
      if field ∈ fields then some (c.value field) else none := by
  rw [Config.part, member?]
  induction fields with
  | nil => rfl
  | cons first fields ih =>
    rw [List.map_cons, List.find?_cons]
    by_cases same : first = field
    case pos => simp [same]
    case neg =>
      have differs : (first.name == field.name) = false :=
        beq_false_of_ne fun names => same (Field.name_inj.mp names)
      simp only [differs, ih, List.mem_cons, Ne.symm same, false_or]

theorem asNatural_ofNat (expected : String) (n : Nat) :
    asNatural expected (.integer n) = .ok n := by
  rw [asNatural, if_neg (by omega), Int.natAbs_natCast]

theorem asGhostStyle_name (style : GhostStyle) : asGhostStyle (.string style.name) = .ok style := by
  cases style <;> rfl

theorem admits_value (c : Config) (field : Field) :
    Config.shape.Admits (field.name, c.value field) := by
  cases field with
  | debounceMs => exact checking_eq_ok_iff.mpr ⟨_, asNatural_ofNat "u64" c.debounceMs⟩
  | promptCap => exact checking_eq_ok_iff.mpr ⟨_, asNatural_ofNat "usize" c.promptCap⟩
  | ghostStyle => exact checking_eq_ok_iff.mpr ⟨_, asGhostStyle_name c.ghostStyle⟩
  | _ => rfl

/-- A field is read from its member, if it has one. -/
theorem optional_part {α : Type} {place : Nat} {read : Json → Decoded α} {own default : α}
    {missing : Nat → String → DecodeError} (field : Field)
    (reads : read (c.value field) = .ok own) :
    FieldSource.optional ⟨fun _ name => (c.part fields).member? name, missing⟩ place field.name read
      default = .ok (if field ∈ fields then own else default) := by
  rw [FieldSource.optional_eq_ok_iff]
  have found := member?_part c fields field
  by_cases inside : field ∈ fields
  case pos => exact .inr ⟨_, found.trans (if_pos inside), by rw [reads, if_pos inside]⟩
  case neg => exact .inl ⟨found.trans (if_neg inside), if_neg inside⟩

theorem read_part (c : Config) (fields : List Field) :
    Config.read (c.part fields) = .ok (Config.standard.overridden c fields) := by
  rw [Config.read, Config.part, RecordShape.read_object_eq_ok_iff, List.forall_mem_map]
  refine ⟨fun field _ => admits_value c field, ?_⟩
  refine bind_eq_ok_iff.mpr ⟨_, optional_part .language rfl, ?_⟩
  refine bind_eq_ok_iff.mpr ⟨_, optional_part .debounceMs (asNatural_ofNat _ _), ?_⟩
  refine bind_eq_ok_iff.mpr ⟨_, optional_part .promptCap (asNatural_ofNat _ _), ?_⟩
  refine bind_eq_ok_iff.mpr ⟨_, optional_part .sentinelMarker rfl, ?_⟩
  refine bind_eq_ok_iff.mpr ⟨_, optional_part .lengthTagMarker rfl, ?_⟩
  refine bind_eq_ok_iff.mpr ⟨_, optional_part .plainPathContext rfl, ?_⟩
  refine bind_eq_ok_iff.mpr ⟨_, optional_part .promptTemplate rfl, ?_⟩
  refine bind_eq_ok_iff.mpr ⟨_, optional_part .ghostStyle (asGhostStyle_name _), ?_⟩
  rfl

end

/-! ### Written settings -/

/-- What is read where settings or some of their fields were written. -/
structure ReadsBack (c : Config) : Prop where
  validated : Config.load .json (render c.toJson) = c.validate
  usable : c.Usable → Config.load .json (render c.toJson) = .ok c
  refused : ¬ c.Usable → ∃ reason, c.Flaw reason ∧
    Config.load .json (render c.toJson) = .error (.configError reason)
  /-- Some fields, in any order, before anything is validated. -/
  partly : ∀ fields : List Field, fields.Nodup →
    Config.ofText .json (render (c.part fields)) = .ok (Config.standard.overridden c fields)
  /-- The same without a text in between. -/
  partlyRead : ∀ fields : List Field,
    Config.read (c.part fields) = .ok (Config.standard.overridden c fields)

/-- Settings are read back from their text, and a part of them from the text of the part. -/
theorem settings_read_back {c : Config} (words : c.Words) : ReadsBack c := by
  have whole : Config.load .json (render c.toJson) = c.validate := by
    have read : Config.ofText .json (render (c.part (Field.named.map Prod.snd))) =
        .ok (Config.standard.overridden c (Field.named.map Prod.snd)) :=
      ofText_part words (by decide)
    rw [part_all, overridden_all] at read
    exact Config.load_of_ofText read
  constructor
  case validated => exact whole
  case usable => exact fun usable => whole.trans (Config.validate_of_usable usable)
  case refused =>
    intro unusable
    rw [whole]
    exact Config.validate_of_not_usable unusable
  case partly => exact fun fields once => ofText_part words once
  case partlyRead => exact read_part c

/-- Settings with the greatest numbers, and with characters that are written in different ways. -/
def colorful : Config where
  language := "\"\\\x00\x1f\n\x7f"
  debounceMs := 2 ^ 64 - 1
  promptCap := 2 ^ 64 - 1
  sentinelMarker := ""
  lengthTagMarker := "\u2028é"
  plainPathContext := "\t\r/\\u0041"
  promptTemplate := "😀\x7btext\x7d"
  ghostStyle := .dimmed

theorem settings_read_back_colorful :
    colorful.Words ∧ colorful.Usable ∧ Config.load .json (render colorful.toJson) = .ok colorful ∧
      [Field.ghostStyle, .language].Nodup ∧
      Config.ofText .json (render (colorful.part [.ghostStyle, .language])) =
        .ok { Config.standard with language := colorful.language, ghostStyle := .dimmed } := by
  have words : colorful.Words := ⟨by decide, by decide⟩
  have usable : colorful.Usable := Config.usable_of_validate (c := colorful) (by decide +kernel)
  have back := settings_read_back words
  exact ⟨words, usable, back.usable usable, by decide, back.partly _ (by decide)⟩

end InlineCompletion
