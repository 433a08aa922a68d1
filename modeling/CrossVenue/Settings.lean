import CrossVenue.Arbitrage.Policy
import CrossVenue.Environment
import CrossVenue.Number.Word
import CrossVenue.Schema.Reader

/-!
# Settings

Settings are given by name, or come from the environment; letter case counts in neither.  Of several
given values for one setting the first counts, and a given value beats the environment's.  Most settings
have a second name in capitals, and issues with them are found under that name unless the value was
given under the first.

* `value?_of_given` : a given value beats the environment's.
-/

set_option autoImplicit false

namespace CrossVenue

open Schema

/-- The settings of the service. -/
structure Settings where
  host : Text
  port : Int
  debug : Bool
  logLevel : Text
  registryPath : Option Text
  defaultMinProfit : Int
  svmComputeBudget : UpTo maxWord64
  mildThreshold : Int
  moderateThreshold : Int
  mildPercent : UpTo 100
  moderatePercent : UpTo 100
  severePercent : UpTo 100
deriving DecidableEq, Repr

/-- Where settings come from. -/
structure SettingSources where
  given : Json.Fields
  environment : Environment

namespace SettingSources

/-- The first value given under a name, whatever its case. -/
def given? (s : SettingSources) (name : Text) : Option Json :=
  (s.given.find? fun p => Text.lower p.1 == Text.lower name).map (·.2)

/-- The value under a name: the one given, or the environment's. -/
def value? (s : SettingSources) (name : Text) : Option Json :=
  match s.given? name with
  | some v => some v
  | none => (s.environment.value? name).map Json.str

/-- The name under which issues with a setting are found that also has a name in capitals. -/
def reportedName (s : SettingSources) (capitals name : Text) : Text :=
  if name ∈ s.given.names ∧ capitals ∉ s.given.names then name else capitals

/-- A setting whose issues are found under the given place. -/
def setting {α : Type} (s : SettingSources) (place name : Text) (usual : α) (r : Reader α) :
    Checked α :=
  match s.value? name with
  | some v => (r v).under (.field place)
  | none => .accepted usual

/-- A setting that has one name. -/
def plain {α : Type} (s : SettingSources) (name : Text) (usual : α) (r : Reader α) : Checked α :=
  s.setting name name usual r

/-- A setting that also has a name in capitals. -/
def aliased {α : Type} (s : SettingSources) (capitals name : Text) (usual : α) (r : Reader α) :
    Checked α :=
  s.setting (s.reportedName capitals name) name usual r

theorem value?_of_given {s : SettingSources} {name : Text} {v : Json}
    (h : s.given? name = some v) : s.value? name = some v := by
  simp [value?, h]

end SettingSources

namespace Settings

theorem usualBudget_le : 10000000 ≤ maxWord64 := by decide

/-- The budget of transactions unless it is set. -/
def usualBudget : UpTo maxWord64 := ⟨10000000, usualBudget_le⟩

/-- A percentage. -/
def percentage : Reader (UpTo 100) := upTo 100 .lessThanEqual

/-- Reads the settings. -/
def load (s : SettingSources) : Checked Settings :=
  ((((((((((((Checked.accepted Settings.mk).and
    (s.plain "host" "0.0.0.0" text)).and
    (s.plain "port" 8000 integer)).and
    (s.plain "debug" false boolean)).and
    (s.aliased "LOG_LEVEL" "log_level" "INFO" text)).and
    (s.aliased "REGISTRY_PATH" "registry_path" none (nullable text))).and
    (s.aliased "DEFAULT_MIN_PROFIT" "default_min_profit" 0 integer)).and
    (s.aliased "SVM_COMPUTE_BUDGET" "svm_compute_budget" usualBudget (upTo maxWord64 .lessThan))).and
    (s.aliased "FEE_CORRECTION_MILD_THRESHOLD" "fee_correction_mild_threshold"
      Policy.default.mildThreshold integer)).and
    (s.aliased "FEE_CORRECTION_MODERATE_THRESHOLD" "fee_correction_moderate_threshold"
      Policy.default.moderateThreshold integer)).and
    (s.aliased "FEE_CORRECTION_MILD_PCT" "fee_correction_mild_pct" ⟨90, by decide⟩ percentage)).and
    (s.aliased "FEE_CORRECTION_MODERATE_PCT" "fee_correction_moderate_pct" ⟨95, by decide⟩
      percentage)).and
    (s.aliased "FEE_CORRECTION_SEVERE_PCT" "fee_correction_severe_pct" ⟨99, by decide⟩ percentage)

/-- The settings as a JSON object. -/
def toJson (s : Settings) : Json :=
  .obj [("host", .str s.host), ("port", .int s.port), ("debug", .bool s.debug),
    ("log_level", .str s.logLevel), ("registry_path", Json.ofText? s.registryPath),
    ("default_min_profit", .int s.defaultMinProfit),
    ("svm_compute_budget", .int s.svmComputeBudget.val),
    ("fee_correction_mild_threshold", .int s.mildThreshold),
    ("fee_correction_moderate_threshold", .int s.moderateThreshold),
    ("fee_correction_mild_pct", .int s.mildPercent.val),
    ("fee_correction_moderate_pct", .int s.moderatePercent.val),
    ("fee_correction_severe_pct", .int s.severePercent.val)]

/-- The fee correction that the settings describe. -/
def policy (s : Settings) : Policy :=
  ⟨s.mildThreshold, s.moderateThreshold, s.mildPercent.val, s.moderatePercent.val,
    s.severePercent.val⟩

end Settings

end CrossVenue
