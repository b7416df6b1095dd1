import ApiMock.Registry
import ApiMock.Schema.Definition
import ApiMock.Yaml.Document

/-!
# Loading definitions into a registry

A map from names of services to definitions replaces the definitions of these services. Either all
definitions are loaded or the registry stays as it is.
-/

set_option autoImplicit false

namespace ApiMock

inductive LoadFault where
  | malformedYaml (fault : Yaml.Fault)
  | servicesNotMap
  | unknownService (name : String)
  | definition (service : String) (fault : Schema.Fault)

def LoadFault.report : LoadFault → Report
  | malformedYaml fault => [.words "at path $: invalid YAML: ", .fault (.yaml fault)]
  | servicesNotMap => .ofWords "at path $: mocks must map service names to definitions"
  | unknownService name => .ofWords ("service mock not defined: " ++ name)
  | definition service fault =>
    .words ("unable to load definition for " ++ service ++ ": ") :: fault.report

namespace Registry

def loadDefinitions (registry : Registry) (files : Files) :
    List (String × Value) → Except LoadFault (List (String × Definition))
  | [] => .ok []
  | (name, raw) :: rest =>
    match registry.service? name with
    | none => .error (.unknownService name)
    | some _ => do
      let definition ← (Schema.loadDefinition files "$" raw).mapError (.definition name)
      return (name, definition) :: (← loadDefinitions registry files rest)

def install (registry : Registry) (definitions : List (String × Definition)) : Registry :=
  definitions.foldl
    (fun registry (name, definition) =>
      registry.modify name fun service => service.setDefinition definition)
    registry

def load (registry : Registry) (files : Files) (raw : Value) : Registry × Option LoadFault :=
  match raw with
  | .object members =>
    match registry.loadDefinitions files members with
    | .ok definitions => (registry.install definitions, none)
    | .error fault => (registry, some fault)
  | _ => (registry, some .servicesNotMap)

def loadYaml (registry : Registry) (files : Files) (source : String) :
    Registry × Option LoadFault :=
  match Yaml.read source with
  | .ok raw => registry.load files raw
  | .error fault => (registry, some (.malformedYaml fault))

end Registry

end ApiMock
