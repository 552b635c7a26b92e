import NasaCpp.Bridge.HassBridge
import NasaCpp.Web.Template

/-!
# Entities of the web client

`nasa_web/entities.py` builds an entity from the announcement of the bridge, turns the
payloads of its state topic into what is displayed, and what the user enters into a
command payload.
-/

namespace NasaCpp.Web

open Bridge General

inductive EntityKind where
  | numeric
  | binary
  | enum
  deriving DecidableEq, Repr

structure Entity where
  id : String
  name : String
  platform : String
  stateTopic : String
  commandTopic : Option String := none
  deviceClass : Option String := none
  options : List String := []
  min : Option ℚ := none
  max : Option ℚ := none
  valueTf : Transform := {}
  commandTf : Transform := {}
  deriving DecidableEq, Repr

/-- A Python `float`; the two zeros, which are equal, are one. -/
inductive PyFloat where
  | finite (value : ℚ)
  | infinite (negative : Bool)
  | nan
  deriving DecidableEq, Repr

namespace PyFloat

/-- `==`, under which a NaN equals nothing. -/
def eq (x y : PyFloat) : Bool := decide (x ≠ .nan ∧ x = y)

/-- What SQLite makes of a parameter: a NaN is stored as NULL. -/
def bind (x : PyFloat) : Option PyFloat := if x = .nan then none else some x

end PyFloat

/-- What the user interface hands over: a JSON value.  Of a list or an object only its text
and whether it is empty are told. -/
inductive Value where
  | number (value : ℚ)
  | text (value : String)
  | bool (value : Bool)
  | null
  | other (filled : Bool) (text : String)
  deriving DecidableEq, Repr

namespace Value

def truthy : Value → Bool
  | .number value => value ≠ 0
  | .text value => value ≠ ""
  | .bool value => value
  | .null => false
  | .other filled _ => filled

/-- `str(value)`, for the text `float` of a number. -/
def str (float : ℚ → String) : Value → String
  | .number value => float value
  | .text value => value
  | .bool value => if value then "True" else "False"
  | .null => "None"
  | .other _ shown => shown

/-- `float(value)`; `none` is a `ValueError` or `TypeError`. -/
def float : Value → Option ℚ
  | .number value => some value
  | .text value => floatOf value.toList
  | .bool value => some (if value then 1 else 0)
  | .null | .other _ _ => none

/-- `float(value)` is a `TypeError`. -/
def mistyped : Value → Bool
  | .null | .other _ _ => true
  | .number _ | .text _ | .bool _ => false

end Value

/-- The `identifiers` of a device: one text or a list of them. -/
inductive Identifiers where
  | one (identifier : String)
  | many (identifiers : List String)
  deriving DecidableEq, Repr

/-- The object of a config message, as far as it is read: any key may be missing. -/
structure EntityConfig where
  identifiers : Option Identifiers := none
  name : Option String := none
  stateTopic : Option String := none
  commandTopic : Option String := none
  deviceClass : Option String := none
  options : Option Options := none
  min : Option ℚ := none
  max : Option ℚ := none
  valueTemplate : Option String := none
  commandTemplate : Option String := none

/-- The announcement in the object, with its state topic; an entity without a name is
called by its object id. -/
def EntityConfig.discovery (cfg : EntityConfig) (objectId stateTopic : String) : Discovery where
  name := cfg.name.getD objectId
  stateTopic := stateTopic
  commandTopic := cfg.commandTopic
  deviceClass := cfg.deviceClass
  options := cfg.options
  min := cfg.min
  max := cfg.max
  valueTemplate := cfg.valueTemplate
  commandTemplate := cfg.commandTemplate

/-- The list `options` of an entity: the names, or the keys of the object. -/
def optionNames : Option Options → List String
  | none => []
  | some (.names names) => names
  | some (.table items) => items.map Prod.fst

/-- `entity_from_discovery`; `none` is an exception in one of the templates. -/
def entityFromDiscovery (objectId platform : String) (cfg : Discovery) : Option Entity := do
  let valueTf ← Transform.parse cfg.valueTemplate
  let commandTf ← Transform.parse cfg.commandTemplate
  return {
    id := objectId
    name := cfg.name
    platform
    stateTopic := cfg.stateTopic
    commandTopic := cfg.commandTopic
    deviceClass := cfg.deviceClass
    options := optionNames cfg.options
    min := cfg.min
    max := cfg.max
    valueTf
    commandTf }

/-- The entity of a whole object; without a state topic there is none. -/
def EntityConfig.entity (cfg : EntityConfig) (objectId platform : String) : Option Entity := do
  let stateTopic ← cfg.stateTopic
  entityFromDiscovery objectId platform (cfg.discovery objectId stateTopic)

namespace Entity

def kind (entity : Entity) : EntityKind :=
  if entity.platform = "switch" ∨ entity.platform = "binary_sensor" then .binary
  else if entity.platform = "select" ∨ entity.deviceClass = some "enum" then .enum
  else .numeric

/-- `str.upper`, as far as comparing with ASCII text goes. -/
def upper (text : String) : String := text.map Char.toUpper

def parseState (entity : Entity) (payload : String) : Option ℚ × Option String :=
  let payload := String.ofList (strip payload.toList)
  if payload = "" then (none, none)
  else
    match entity.kind with
    | .binary =>
        if upper payload = "ON" then (some 1, some "ON") else (some 0, some "OFF")
    | .enum =>
        (if payload ∈ entity.options then some (entity.options.idxOf payload : ℚ) else none,
          some payload)
    | .numeric =>
        match floatOf payload.toList with
        | some value => (some (entity.valueTf.apply value), none)
        | none => (none, some payload)

/-- `number < self.min` or `number > self.max`. -/
def outside (entity : Entity) (number : ℚ) : Bool :=
  entity.min.any (number < ·) || entity.max.any (number > ·)

/-- `build_command`; `none` is an exception.  `str` is the text Python prints for a float. -/
def buildCommand (str : ℚ → String) (entity : Entity) (value : Value) : Option String :=
  match entity.kind with
  | .binary =>
      match value with
      | .text text => some (if upper text ∈ ["ON", "1", "TRUE"] then "ON" else "OFF")
      | value => some (if value.truthy then "ON" else "OFF")
  | .enum =>
      if value.str str ∈ entity.options then some (value.str str) else none
  | .numeric => do
      let number ← value.float
      if entity.outside number then none
      else some (toString (Rounding.roundHalfEven (entity.commandTf.apply number)))

end Entity

end NasaCpp.Web
