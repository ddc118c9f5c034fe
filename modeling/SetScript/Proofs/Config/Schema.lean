import SetScript.Config.Error
import Mathlib.Logic.Function.Basic

/-!
# The schema of settings

A record is decoded field by field, and each field changes one component of the settings.  So
decoding succeeds when every field is known and its value can be decoded, and then each component
is what was given for it, or what it was before.  An array of values is read like the table of
these values under the names of the fields in order.

Settings in JSON are records inside of a record.  What is accepted, and what it means, is said here
about the JSON value alone.
-/

namespace SetScript

/-- The value of a field; of several fields with one name the last one counts. -/
def lastNamed? {V : Type} (name : String) (fields : List (String × V)) : Option V :=
  fields.reverse.lookup name

theorem lastNamed?_cons {V : Type} (name : String) (field : String × V)
    (fields : List (String × V)) :
    lastNamed? name (field :: fields) =
      (lastNamed? name fields).or (if name = field.1 then some field.2 else none) := by
  rw [lastNamed?, List.reverse_cons, List.lookup_append, List.lookup_cons, List.lookup_nil]
  by_cases same : name = field.1
  · rw [if_pos same, beq_iff_eq.mpr same]
    rfl
  · rw [if_neg same, beq_false_of_ne same]
    rfl

namespace Format

/-- The components of some settings: their names, and how they are read and changed. -/
structure Slots (σ ι α : Type) [DecidableEq ι] where
  keys : List ι
  name : ι → String
  get : σ → ι → α
  set : σ → ι → α → σ
  name_injective : Function.Injective name
  get_set : ∀ settings key component other,
    get (set settings key component) other = if other = key then component else get settings other

namespace Slots

variable {V Place σ ι α : Type} [DecidableEq ι] (slots : Slots σ ι α)
  (decode : V → Except (DecodeError Place) α)

/-- The names of the components, in order. -/
def names : List String :=
  slots.keys.map slots.name

/-- The field that sets a component. -/
def field (key : ι) : Field V Place σ :=
  ⟨slots.name key, fun settings value => (decode value).map (slots.set settings key)⟩

/-- The fields that set the components, in order. -/
def fields : List (Field V Place σ) :=
  slots.keys.map (slots.field decode)

/-- All fields are known, and their values can be decoded. -/
def Accepts (given : List (String × V)) : Prop :=
  ∀ field ∈ given, field.1 ∈ slots.names ∧ ∃ component, decode field.2 = .ok component

/-- A component is what was given for it, or what it was before. -/
def TakesAt (key : ι) (given? : Option V) (settings result : σ) : Prop :=
  match given? with
  | some value => decode value = .ok (slots.get result key)
  | none => slots.get result key = slots.get settings key

/-- Each component is what was given for it, or what it was before. -/
def Takes (given : List (String × V)) (settings result : σ) : Prop :=
  ∀ key ∈ slots.keys,
    slots.TakesAt decode key (lastNamed? (slots.name key) given) settings result

variable {slots decode} {key : ι} {settings : σ} {given : List (String × V)}

theorem find?_fields (member : key ∈ slots.keys) :
    (slots.fields decode).find? (·.name == slots.name key) = some (slots.field decode key) := by
  have found : slots.keys.find? (slots.name · == slots.name key) = some key := by
    have isSome : (slots.keys.find? (slots.name · == slots.name key)).isSome :=
      List.find?_isSome.mpr ⟨key, member, beq_self_eq_true _⟩
    rcases Option.isSome_iff_exists.mp isSome with ⟨other, found⟩
    have sameName := List.find?_some found
    rw [found, slots.name_injective (beq_iff_eq.mp sameName)]
  rw [fields, List.find?_map]
  exact congrArg (Option.map (slots.field decode)) found

theorem find?_fields_eq_none {name : String} (unknown : name ∉ slots.names) :
    (slots.fields decode).find? (·.name == name) = none := by
  rw [List.find?_eq_none]
  intro field member same
  rcases List.mem_map.mp member with ⟨key, isKey, rfl⟩
  exact unknown (List.mem_map.mpr ⟨key, isKey, beq_iff_eq.mp same⟩)

/-- A field that is accepted changes its component. -/
theorem decodeNamed_cons {value : V} {component : α} (member : key ∈ slots.keys)
    (decoded : decode value = .ok component) (place : Place)
    (rest : List (String × Place × V)) :
    decodeNamed (slots.fields decode) settings ((slots.name key, place, value) :: rest) =
      decodeNamed (slots.fields decode) (slots.set settings key component) rest := by
  rw [decodeNamed, find?_fields member]
  simp only [field, decoded, Except.map]

/-- A component that was set is given for the first time, or is given again later. -/
theorem Takes.cons {value : V} {component : α} {result : σ}
    (decoded : decode value = .ok component)
    (takes : slots.Takes decode given (slots.set settings key component) result) :
    slots.Takes decode ((slots.name key, value) :: given) settings result := by
  intro other member
  have taken := takes other member
  rw [lastNamed?_cons]
  cases later : lastNamed? (slots.name other) given with
  | some value =>
      rw [later] at taken
      exact taken
  | none =>
      rw [later, TakesAt, slots.get_set] at taken
      by_cases same : other = key
      · rw [if_pos same] at taken
        rw [if_pos (congrArg slots.name same), Option.none_or, TakesAt, taken]
        exact decoded
      · have otherName : slots.name other ≠ slots.name key :=
          fun sameName => same (slots.name_injective sameName)
        rw [if_neg same] at taken
        rw [if_neg otherName]
        exact taken

/-- Whatever is accepted is decoded, and taken over. -/
theorem Accepts.exists_decodeNamed (accepts : slots.Accepts decode given) (settings : σ)
    (place : Place) :
    ∃ result, decodeNamed (slots.fields decode) settings
        (given.map fun field => (field.1, place, field.2)) = .ok result ∧
      slots.Takes decode given settings result := by
  induction given generalizing settings with
  | nil => exact ⟨settings, rfl, fun key _ => rfl⟩
  | cons field given ih =>
      rcases List.forall_mem_cons.mp accepts with ⟨⟨known, component, decoded⟩, others⟩
      rcases List.mem_map.mp known with ⟨key, isKey, name⟩
      rcases ih others (slots.set settings key component) with ⟨result, isResult, takes⟩
      rcases field with ⟨_, value⟩
      subst name
      rw [List.map_cons, decodeNamed_cons isKey decoded]
      exact ⟨result, isResult, takes.cons decoded⟩

/-- Nothing else is decoded. -/
theorem accepts_of_decodeNamed {place : Place} {result : σ}
    (isResult : decodeNamed (slots.fields decode) settings
      (given.map fun field => (field.1, place, field.2)) = .ok result) :
    slots.Accepts decode given := by
  induction given generalizing settings with
  | nil => exact fun field member => nomatch member
  | cons field given ih =>
      rcases field with ⟨name, value⟩
      by_cases known : name ∈ slots.names
      · rcases List.mem_map.mp known with ⟨key, isKey, rfl⟩
        cases decoded : decode value with
        | ok component =>
            rw [List.map_cons, decodeNamed_cons isKey decoded] at isResult
            exact List.forall_mem_cons.mpr ⟨⟨known, component, decoded⟩, ih isResult⟩
        | error problem =>
            rw [List.map_cons, decodeNamed, find?_fields isKey] at isResult
            simp only [field, decoded, Except.map] at isResult
            cases isResult
      · rw [List.map_cons, decodeNamed, find?_fields_eq_none known] at isResult
        cases isResult

/-- An array is read like the table of its items under the names in order. -/
theorem decodeOrdered_eq {keys : List ι} (known : keys ⊆ slots.keys) (settings : σ)
    (items : List V) (place : Place) :
    decodeOrdered settings (keys.map (slots.field decode)) items =
      decodeNamed (slots.fields decode) settings
        (((keys.map slots.name).zip items).map fun field => (field.1, place, field.2)) := by
  induction keys generalizing settings items with
  | nil => rfl
  | cons key keys ih =>
      rcases List.cons_subset.mp known with ⟨isKey, others⟩
      cases items with
      | nil => rfl
      | cons item items =>
          rw [List.map_cons, decodeOrdered, List.map_cons, List.zip_cons_cons, List.map_cons]
          cases decoded : decode item with
          | ok component =>
              rw [decodeNamed_cons isKey decoded, ← ih others]
              simp only [field, decoded, Except.map]
          | error problem =>
              rw [decodeNamed, find?_fields isKey]
              simp only [field, decoded, Except.map]

theorem decodeOrdered_fields (settings : σ) (items : List V) (place : Place) :
    decodeOrdered settings (slots.fields decode) items =
      decodeNamed (slots.fields decode) settings
        ((slots.names.zip items).map fun field => (field.1, place, field.2)) :=
  decodeOrdered_eq (List.Subset.refl slots.keys) settings items place

end Slots

end Format

/-! ## Records in JSON -/

namespace Json

/-- The fields of a record: those of an object, or the items of an array under the names in order.
An array has no more items than there are names. -/
def record? (names : List String) : Json → Option (List (String × Json))
  | object fields => some fields
  | array items => if items.length ≤ names.length then some (names.zip items) else none
  | _ => none

/-- What a record holds under a name. -/
def given? (names : List String) (name : String) (value : Json) : Option Json :=
  (value.record? names).bind (lastNamed? name)

/-- The truth value that a value is. -/
def flag? : Json → Option Bool
  | bool flag => some flag
  | _ => none

theorem decodeBool_eq_ok_iff {value : Json} {flag : Bool} :
    format.decodeBool value = .ok flag ↔ value = bool flag := by
  cases value <;> simp [Format.decodeBool, format, view]

variable {σ ι α : Type} [DecidableEq ι] {slots : Format.Slots σ ι α}
  {decode : Json → Except (DecodeError Unit) α} {name : String} {settings result : σ} {value : Json}

/-- A record is decoded as the table of its fields. -/
theorem decodeRecord_eq_ok_iff :
    format.decodeRecord name (slots.fields decode) settings value = .ok result ↔
      ∃ fields, value.record? slots.names = some fields ∧
        Format.decodeNamed (slots.fields decode) settings
          (fields.map fun field => (field.1, (), field.2)) = .ok result := by
  cases value with
  | object fields => simp [Format.decodeRecord, format, view, record?]
  | array items =>
      have length : (slots.fields decode).length = slots.names.length := by
        rw [Format.Slots.fields, Format.Slots.names, List.length_map, List.length_map]
      simp only [Format.decodeRecord, format, view, record?,
        Format.Slots.decodeOrdered_fields settings items (), length]
      by_cases fits : items.length ≤ slots.names.length
      · cases decoded : Format.decodeNamed (slots.fields decode) settings
            ((slots.names.zip items).map fun field => (field.1, (), field.2)) <;>
          simp [fits, decoded, Nat.not_lt.mpr fits]
      · rw [if_neg fits]
        cases Format.decodeNamed (slots.fields decode) settings
            ((slots.names.zip items).map fun field => (field.1, (), field.2)) <;>
          simp [Nat.not_le.mp fits]
  | null | bool | integer | double | string =>
      simp [Format.decodeRecord, Format.mismatch, format, view, record?]

/-- A record is decoded exactly when its fields are accepted. -/
theorem exists_decodeRecord_iff :
    (∃ result, format.decodeRecord name (slots.fields decode) settings value = .ok result) ↔
      ∃ fields, value.record? slots.names = some fields ∧ slots.Accepts decode fields := by
  simp only [decodeRecord_eq_ok_iff]
  constructor
  · rintro ⟨result, fields, isRecord, isResult⟩
    exact ⟨fields, isRecord, Format.Slots.accepts_of_decodeNamed isResult⟩
  · rintro ⟨fields, isRecord, accepts⟩
    rcases accepts.exists_decodeNamed settings () with ⟨result, isResult, -⟩
    exact ⟨result, fields, isRecord, isResult⟩

/-- Each component of a record that is decoded is what was given for it, or what it was before. -/
theorem component_of_decodeRecord
    (decoded : format.decodeRecord name (slots.fields decode) settings value = .ok result)
    {key : ι} (member : key ∈ slots.keys) :
    slots.TakesAt decode key (value.given? slots.names (slots.name key)) settings result := by
  rcases decodeRecord_eq_ok_iff.mp decoded with ⟨fields, isRecord, isResult⟩
  have accepts := Format.Slots.accepts_of_decodeNamed isResult
  rcases accepts.exists_decodeNamed settings () with ⟨other, isOther, takes⟩
  cases isResult.symm.trans isOther
  rw [given?, isRecord, Option.bind_some]
  exact takes key member

end Json

/-! ## Settings -/

/-- The switches of the diagnostics. -/
inductive Switch
  | enabled
  | unresolvedVariables
  | syntaxErrors
deriving DecidableEq

namespace Switch

/-- All switches, in the order in which an array gives them. -/
def all : List Switch :=
  [enabled, unresolvedVariables, syntaxErrors]

/-- The name of a switch in settings. -/
def name : Switch → String
  | enabled => "enabled"
  | unresolvedVariables => "unresolved_variables"
  | syntaxErrors => "syntax_errors"

/-- The names of all switches. -/
def names : List String :=
  all.map name

theorem mem_all (switch : Switch) : switch ∈ all := by
  cases switch <;> simp [all]

end Switch

namespace Switches

def get (switches : Switches) : Switch → Bool
  | .enabled => switches.enabled
  | .unresolvedVariables => switches.unresolvedVariables
  | .syntaxErrors => switches.syntaxErrors

def set (switches : Switches) (switch : Switch) (flag : Bool) : Switches :=
  match switch with
  | .enabled => { switches with enabled := flag }
  | .unresolvedVariables => { switches with unresolvedVariables := flag }
  | .syntaxErrors => { switches with syntaxErrors := flag }

/-- The switches as components of the diagnostics settings. -/
def slots : Format.Slots Switches Switch Bool where
  keys := Switch.all
  name := Switch.name
  get := get
  set := set
  name_injective first second same := by
    cases first <;> cases second <;> first | rfl | exact absurd same (by decide)
  get_set switches switch flag other := by
    cases switch <;> cases other <;> rfl

end Switches

/-- The diagnostics settings as the only component of the settings. -/
def Config.slots : Format.Slots Config Unit Switches where
  keys := [()]
  name _ := "diagnostics"
  get config _ := config.diagnostics
  set config _ switches := { config with diagnostics := switches }
  name_injective _ _ _ := rfl
  get_set _ _ _ _ := rfl

theorem Format.switchesFields_eq {V Place : Type} (format : Format V Place) :
    format.switchesFields = Switches.slots.fields format.decodeBool :=
  rfl

theorem Format.configFields_eq {V Place : Type} (format : Format V Place) :
    format.configFields = Config.slots.fields format.decodeSwitches :=
  rfl

namespace Json

/-- A value has the form of diagnostics settings: a record of switches that are on or off. -/
def IsSwitches (value : Json) : Prop :=
  ∃ fields, value.record? Switch.names = some fields ∧
    ∀ field ∈ fields, field.1 ∈ Switch.names ∧ ∃ flag, field.2 = bool flag

/-- A value has the form of settings: a record of diagnostics settings. -/
def IsConfig (value : Json) : Prop :=
  ∃ fields, value.record? ["diagnostics"] = some fields ∧
    ∀ field ∈ fields, field.1 = "diagnostics" ∧ IsSwitches field.2

/-- The state of a switch that settings give. -/
def switch? (value : Json) (switch : Switch) : Option Bool :=
  ((value.given? ["diagnostics"] "diagnostics").bind (given? Switch.names switch.name)).bind flag?

theorem exists_decodeSwitches_iff {value : Json} :
    (∃ switches, format.decodeSwitches value = .ok switches) ↔ IsSwitches value := by
  rw [Format.decodeSwitches, Format.switchesFields_eq, exists_decodeRecord_iff]
  simp only [Format.Slots.Accepts, decodeBool_eq_ok_iff]
  rfl

theorem exists_decodeConfig_iff {value : Json} :
    (∃ config, format.decodeConfig value = .ok config) ↔ IsConfig value := by
  rw [Format.decodeConfig, Format.configFields_eq, exists_decodeRecord_iff]
  simp only [Format.Slots.Accepts, exists_decodeSwitches_iff, Format.Slots.names, Config.slots,
    List.map_cons, List.map_nil, List.mem_singleton]
  rfl

/-- A switch is in the state that is given for it, or else on. -/
theorem get_of_decodeSwitches {value : Json} {switches : Switches}
    (decoded : format.decodeSwitches value = .ok switches) (switch : Switch) :
    switches.get switch = ((value.given? Switch.names switch.name).bind flag?).getD true := by
  rw [Format.decodeSwitches, Format.switchesFields_eq] at decoded
  have component : Switches.slots.TakesAt format.decodeBool switch
      (value.given? Switch.names switch.name) {} switches :=
    component_of_decodeRecord decoded switch.mem_all
  cases given : value.given? Switch.names switch.name with
  | none =>
      rw [given] at component
      have default : switches.get switch = ({} : Switches).get switch := component
      rw [default]
      cases switch <;> rfl
  | some state =>
      rw [given] at component
      rw [decodeBool_eq_ok_iff.mp component]
      rfl

theorem get_of_decodeConfig {value : Json} {config : Config}
    (decoded : format.decodeConfig value = .ok config) (switch : Switch) :
    config.diagnostics.get switch = (value.switch? switch).getD true := by
  rw [Format.decodeConfig, Format.configFields_eq] at decoded
  have component : Config.slots.TakesAt format.decodeSwitches ()
      (value.given? ["diagnostics"] "diagnostics") {} config :=
    component_of_decodeRecord decoded (List.mem_singleton_self ())
  rw [switch?]
  cases given : value.given? ["diagnostics"] "diagnostics" with
  | none =>
      rw [given] at component
      have default : config.diagnostics = {} := component
      rw [default]
      cases switch <;> rfl
  | some settings =>
      rw [given] at component
      exact get_of_decodeSwitches component switch

end Json

namespace Config

theorem ofJson_eq (value : Json) :
    ofJson value = (Json.format.decodeConfig value).mapError fun problem =>
      .invalid none problem.cause.message := by
  rw [ofJson, decodeJson]
  cases Json.format.decodeConfig value <;> rfl

theorem ofJson_eq_ok_iff {value : Json} {config : Config} :
    ofJson value = .ok config ↔ Json.format.decodeConfig value = .ok config := by
  rw [ofJson_eq]
  cases Json.format.decodeConfig value with
  | ok other => constructor <;> exact fun same => congrArg Except.ok (Except.ok.inj same)
  | error problem => exact ⟨nofun, nofun⟩

/-- Settings in JSON are accepted exactly when they have the form of settings.  Each switch is then
in the state that is given for it, or else on.  Whatever is refused is refused as invalid, without
naming a file. -/
theorem ofJson_schema (value : Json) :
    ((∃ config, ofJson value = .ok config) ↔ value.IsConfig) ∧
      (∀ config, ofJson value = .ok config →
        ∀ switch, config.diagnostics.get switch = (value.switch? switch).getD true) ∧
      ∀ problem, ofJson value = .error problem → ∃ reason, problem = .invalid none reason := by
  refine ⟨?_, ?_, ?_⟩
  · simp only [ofJson_eq_ok_iff]
    exact Json.exists_decodeConfig_iff
  · intro config accepted
    exact Json.get_of_decodeConfig (ofJson_eq_ok_iff.mp accepted)
  · intro problem refused
    rw [ofJson_eq] at refused
    cases decoded : Json.format.decodeConfig value with
    | ok config =>
        rw [decoded] at refused
        cases refused
    | error cause =>
        rw [decoded] at refused
        cases refused
        exact ⟨cause.cause.message, rfl⟩

example : ofJson (.array [.array [.bool false]]) = .ok ⟨⟨false, true, true⟩⟩ := by
  rfl

end Config

end SetScript
