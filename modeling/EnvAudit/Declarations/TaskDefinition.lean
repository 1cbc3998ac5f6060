import EnvAudit.Json.Typed
import EnvAudit.Variables

/-!
# EnvAudit.Declarations.TaskDefinition

Variables declared by a task definition: a JSON object whose member `containerDefinitions` lists
containers, each with a list `environment` of names and values and a list `secrets` of names and
references. The first container counts, and a secret takes the place of an environment entry of its
name.
-/

namespace EnvAudit

/-- The text of a JSON value: a text as it is, nothing for null, and all else as JSON. -/
def Json.asText : Json → String
  | .text s => s
  | .null => ""
  | v => v.compact

/-- A name and its value, as an environment entry gives them. -/
structure EnvironmentEntry where
  name : String := ""
  value : Option Json := none
deriving Repr, Inhabited

/-- A name and a reference to its value. -/
structure SecretEntry where
  name : String := ""
  valueFrom : Option String := none
deriving Repr, DecidableEq, Inhabited

/-- What a container declares. -/
structure ContainerDefinition where
  environment : List EnvironmentEntry := []
  secrets : List SecretEntry := []
deriving Repr, Inhabited

/-- The containers of a task. -/
structure TaskDefinition where
  containers : List ContainerDefinition := []
deriving Repr, Inhabited

namespace EnvironmentEntry

/-- The text of the value. -/
def text (e : EnvironmentEntry) : String := e.value.elim "" Json.asText

/-- An entry from a JSON value. -/
def ofJson? : Json → Json.Typed EnvironmentEntry :=
  Json.record? "EnvironmentEntry" [
    ⟨"name", true, fun e v => v.text?.map fun s => { e with name := s }⟩,
    ⟨"value", false, fun e v => .ok { e with value := some v }⟩] {}

end EnvironmentEntry

namespace SecretEntry

/-- The reference, empty if there is none. -/
def text (e : SecretEntry) : String := e.valueFrom.getD ""

/-- An entry from a JSON value. -/
def ofJson? : Json → Json.Typed SecretEntry :=
  Json.record? "SecretEntry" [
    ⟨"name", true, fun e v => v.text?.map fun s => { e with name := s }⟩,
    ⟨"valueFrom", false, fun e v => v.optionalText?.map fun s => { e with valueFrom := s }⟩] {}

end SecretEntry

namespace ContainerDefinition

/-- A container from a JSON value. -/
def ofJson? : Json → Json.Typed ContainerDefinition :=
  Json.record? "ContainerDefinition" [
    ⟨"environment", false, fun c v =>
      (v.list? EnvironmentEntry.ofJson?).map fun es => { c with environment := es }⟩,
    ⟨"secrets", false, fun c v =>
      (v.list? SecretEntry.ofJson?).map fun es => { c with secrets := es }⟩] {}

/-- The names with their values, those of secrets last. -/
def pairs (c : ContainerDefinition) : List (String × String) :=
  c.environment.map (fun e => (e.name, e.text)) ++ c.secrets.map fun e => (e.name, e.text)

end ContainerDefinition

namespace TaskDefinition

/-- A task definition from a JSON value. -/
def ofJson? : Json → Json.Typed TaskDefinition :=
  Json.record? "TaskDefinition" [
    ⟨"containerDefinitions", false, fun t v =>
      (v.list? ContainerDefinition.ofJson?).map fun cs => { t with containers := cs }⟩] {}

/-- The first container of a JSON value whose member `containerDefinitions` is a list. -/
def firstContainer? (v : Json) : Json.Typed (Option ContainerDefinition) :=
  match v.member? "containerDefinitions" with
  | some (.array _) => (ofJson? v).map fun t => t.containers.head?
  | _ => .ok none

end TaskDefinition

end EnvAudit
