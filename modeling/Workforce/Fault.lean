import Workforce.Decimal.Basic

/-!
Why a call fails: a fault, which is an answer of the rules with a status of
its own, or an amount that no decimal can hold.
-/

namespace Workforce

/-- A refusal, or a failure of what the library stands on. -/
inductive Fault where
  | unauthenticated (message : String)
  | forbidden (message : String)
  | notFound (message : String)
  | conflict (message : String)
  | validation (message : String)
  | configMissing (path : String)
  | configUnreadable (path message : String)
  | storage (message : String)
deriving DecidableEq, Repr

namespace Fault

/-- The one-line text of a fault. -/
def text : Fault → String
  | unauthenticated message => message
  | forbidden message => message
  | notFound message => message
  | conflict message => message
  | validation message => message
  | configMissing path => s!"Configuration file not found: {path}"
  | configUnreadable path message =>
    s!"Failed to parse configuration file '{path}': {message}"
  | storage message => s!"Storage error: {message}"

/-- The status code of a fault in a response. -/
def status : Fault → Nat
  | unauthenticated _ => 401
  | forbidden _ => 403
  | notFound _ => 404
  | conflict _ => 409
  | validation _ => 400
  | configMissing _ => 500
  | configUnreadable _ _ => 500
  | storage _ => 500

/-- Whether a call was refused because of the state it met. -/
def isConflict : Fault → Bool
  | conflict _ => true
  | _ => false

/-- What a response says of a fault. -/
structure Body where
  code : String
  message : String
  details : Option String
deriving DecidableEq, Repr

/-- The body of the response to a fault. Refusals speak for themselves; the
details of any other fault stand apart from its message. -/
def body : Fault → Body
  | unauthenticated message => ⟨"UNAUTHENTICATED", message, none⟩
  | forbidden message => ⟨"FORBIDDEN", message, none⟩
  | notFound message => ⟨"NOT_FOUND", message, none⟩
  | conflict message => ⟨"CONFLICT", message, none⟩
  | validation message => ⟨"VALIDATION_ERROR", message, none⟩
  | configMissing path =>
    ⟨"CONFIG_ERROR", "Configuration error",
      some s!"Configuration file not found: {path}"⟩
  | configUnreadable path message =>
    ⟨"CONFIG_ERROR", "Configuration parse error",
      some s!"Failed to parse {path}: {message}"⟩
  | storage message => ⟨"STORAGE_ERROR", "Storage failure", some message⟩

end Fault

/-- Why a call has no value. -/
inductive Failure where
  | refused (fault : Fault)
  | overflow (cause : Overflow)
deriving DecidableEq, Repr

/-- A value, or why there is none. -/
abbrev Outcome (α : Type) : Type := Except Failure α

namespace Outcome

/-- No value because of a fault. -/
def refuse {α : Type} (fault : Fault) : Outcome α :=
  .error (.refused fault)

/-- Passes if the condition holds and is refused otherwise. -/
def ensure (condition : Prop) [Decidable condition] (fault : Fault) :
    Outcome Unit :=
  if condition then .ok () else refuse fault

/-- The value that is there, or a refusal. -/
def demand {α : Type} (value : Option α) (fault : Fault) : Outcome α :=
  match value with
  | some a => .ok a
  | none => refuse fault

/-- An amount, or its overflow. -/
def ofAmount {α : Type} : Except Overflow α → Outcome α
  | .ok a => .ok a
  | .error cause => .error (.overflow cause)

end Outcome

end Workforce
