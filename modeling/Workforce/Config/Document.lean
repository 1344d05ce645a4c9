import Workforce.Config.Basic
import Workforce.Json.Basic
import Workforce.Yaml.Reader

/-!
Configuration documents: a configuration written in YAML. What a document
leaves out keeps its standard value; what it does not know is passed over.
-/

namespace Workforce.Config

open Workforce.Yaml

/-! ## Fields -/

/-- The text of a key. -/
def keyText : Node → Option String
  | .plain s => some s
  | .quoted s => some s
  | _ => none

/-- The fields of a section. A section that was left empty has none. -/
def section? : Node → Option (List (String × Node))
  | .plain s => if s.isEmpty then some [] else none
  | .mapping entries => entries.mapM fun e => do
    return (← keyText e.1, e.2)
  | _ => none

/-- A field read by `decode`, or its standard value where it is missing. A
field that occurs twice cannot be read. -/
def field {α : Type} (fields : List (String × Node)) (name : String)
    (decode : Node → Option α) (standard : α) : Option α :=
  match fields.filter fun f => f.1 == name with
  | [] => some standard
  | [f] => decode f.2
  | _ => none

/-- A field that has to be there, once. -/
def needed {α : Type} (fields : List (String × Node)) (name : String)
    (decode : Node → Option α) : Option α :=
  match fields.filter fun f => f.1 == name with
  | [f] => decode f.2
  | _ => none

/-- A truth value without quotes. -/
def bool? : Node → Option Bool
  | .plain s => Yaml.bool? s
  | _ => none

/-- An integer of 64 bits without quotes. -/
def int? : Node → Option Int
  | .plain s => (Yaml.int? s).filter fun i => minInt64 ≤ i ∧ i ≤ maxInt64
  | _ => none

/-- A decimal, with or without quotes. -/
def decimal? : Node → Option Decimal
  | .plain s => (Yaml.resolve? s).bind Json.decimal?
  | .quoted s => Decimal.ofText? s
  | _ => none

/-! ## Sections -/

/-- The feature flags of a section. -/
def features? (node : Node) : Option FeatureFlags := do
  let fields ← section? node
  let standard := FeatureFlags.allOff
  return {
    tenancy := ← field fields "tenancy" bool? standard.tenancy
    payrollDeductions :=
      ← field fields "payroll_deductions" bool? standard.payrollDeductions
    deductionProfile :=
      ← field fields "deduction_profile" bool? standard.deductionProfile }

/-- The factors of a section, all of which have to be there. -/
def multipliers? (node : Node) : Option Multipliers := do
  let fields ← section? node
  return {
    regular := ← needed fields "regular" decimal?
    overtime := ← needed fields "overtime" decimal?
    night := ← needed fields "night" decimal?
    holiday := ← needed fields "holiday" decimal? }

/-- The terms of pay of a section. -/
def payroll? (node : Node) : Option PayrollDefaults := do
  let fields ← section? node
  let standard := PayrollDefaults.standard
  return {
    hourlyRate :=
      ← field fields "default_hourly_rate_krw" int? standard.hourlyRate
    multipliers :=
      ← field fields "multipliers" multipliers? standard.multipliers }

/-- The terms of leave of a section. -/
def leave? (node : Node) : Option LeaveDefaults := do
  let fields ← section? node
  let standard := LeaveDefaults.standard
  return {
    grantedDays :=
      ← field fields "default_granted_days" int? standard.grantedDays
    annualGrantDays :=
      ← field fields "annual_grant_days" int? standard.annualGrantDays
    carryOverCapDays :=
      ← field fields "carry_over_cap_days" int? standard.carryOverCapDays }

/-- The configuration of a document. -/
def ofNode? (node : Node) : Option Config := do
  let fields ← section? node
  let standard := Config.standard
  return {
    features := ← field fields "features" features? standard.features
    payroll := ← field fields "payroll" payroll? standard.payroll
    leave := ← field fields "leave" leave? standard.leave }

/-! ## Reading -/

/-- The valid configuration that a document holds; `source` names the document
where it cannot be read. A blank document holds the standard one. -/
def ofDocument (source content : String) : Outcome Config := do
  let config ←
    if Text.allBlank content then
      .ok Config.standard
    else
      Outcome.demand ((Yaml.ofText? content).bind ofNode?)
        (.configUnreadable source "not a configuration document")
  config.validate
  return config

/-- The valid configuration of the file at a path; there may be no such
file. -/
def ofFile (path : String) (content : Option String) : Outcome Config :=
  match content with
  | some content => ofDocument path content
  | none => Outcome.refuse (.configMissing path)

end Workforce.Config
