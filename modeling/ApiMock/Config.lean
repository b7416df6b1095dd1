import ApiMock.Config.Fault
import ApiMock.Files
import ApiMock.IpAddress
import ApiMock.Yaml.Document

/-!
# Configurations of servers

A configuration names services with their ports and gives definitions to some of them. It is written
as a YAML document, a map from fields to their values. There is at least one service, and every
definition belongs to one.
-/

set_option autoImplicit false

namespace ApiMock

structure Config where
  host : IpAddress := .v4 .loopback
  shutdownTimeoutMs : Nat := 5000
  services : List (String × UInt16)
  mocks : List (String × Value) := []

namespace Config

def listenAddresses (config : Config) : List (String × SocketAddress) :=
  config.services.map fun (name, port) => (name, ⟨config.host, port⟩)

/-- What a configuration violates: it has no service, or a definition belongs to none. -/
def violation? (config : Config) : Option Fault :=
  if config.services.isEmpty then some .noServices
  else
    (config.mocks.find? fun (name, _) => (config.services.lookup name).isNone).map fun (name, _) =>
      .unmatchedMock name

/-! ## Values of fields -/

abbrev Reading (α : Type) := StateT Nat (Except Yaml.Fault) α

/-- Reads an integer below a bound. It is written plain, or with its tag as a block. -/
def readNatural (document : Yaml.Document) (bound : Nat) (node : Yaml.Node) : Reading Nat := do
  match ← (document.resolve · node : Reading _) with
  | .scalar properties style text =>
    let isTagged := properties.tag = some "tag:yaml.org,2002:int"
    match Yaml.natural? text with
    | some value =>
      if (style = .plain ∨ style = .literal ∧ isTagged) ∧ value < bound then return value
      else throw .notNatural
    | none => throw .notNatural
  | _ => throw .notNatural

def readHost (document : Yaml.Document) (node : Yaml.Node) : Reading IpAddress := do
  let text ← (document.text · node : Reading _)
  match IpAddress.read? text with
  | some host => return host
  | none => throw (.invalidAddress text)

def readMap {α : Type} (document : Yaml.Document) (readValue : Yaml.Node → Reading α)
    (node : Yaml.Node) : Reading (List (String × α)) := do
  match ← (document.resolve · node : Reading _) with
  | .mapping _ entries =>
    entries.foldlM
      (fun map (key, value) => do
        let key ← (document.text · key : Reading _)
        return Keyed.insert key (← readValue value) map)
      []
  | .scalar _ .plain "" => return []
  | _ => throw .notMap

def readServices (document : Yaml.Document) : Yaml.Node → Reading (List (String × UInt16)) :=
  readMap document fun node => UInt16.ofNat <$> readNatural document UInt16.size node

/-- Reads definitions by the names of services. They lie two levels below the document. -/
def readMocks (document : Yaml.Document) : Yaml.Node → Reading (List (String × Value)) :=
  readMap document fun node =>
    fun jumps => document.value (Yaml.Document.maximalDepth - 2) jumps node

/-! ## Fields -/

inductive Field where
  | host
  | shutdownTimeoutMs
  | services
  | mocks
deriving DecidableEq

def Field.name : Field → String
  | host => "host"
  | shutdownTimeoutMs => "shutdownTimeoutMs"
  | services => "services"
  | mocks => "mocks"

def Field.all : List Field := [.host, .shutdownTimeoutMs, .services, .mocks]

structure Fields where
  host : Option IpAddress := none
  shutdownTimeoutMs : Option Nat := none
  services : Option (List (String × UInt16)) := none
  mocks : Option (List (String × Value)) := none

namespace Fields

def read (document : Yaml.Document) (fields : Fields) (field : Field) (node : Yaml.Node) :
    Reading Fields :=
  match field with
  | .host => do
    if fields.host.isSome then throw .repeatedField
    return { fields with host := ← readHost document node }
  | .shutdownTimeoutMs => do
    if fields.shutdownTimeoutMs.isSome then throw .repeatedField
    return { fields with shutdownTimeoutMs := ← readNatural document UInt64.size node }
  | .services => do
    if fields.services.isSome then throw .repeatedField
    return { fields with services := ← readServices document node }
  | .mocks => do
    if fields.mocks.isSome then throw .repeatedField
    return { fields with mocks := ← readMocks document node }

def ofDocument (document : Yaml.Document) : Reading Fields := do
  match ← (document.resolve · document.root : Reading _) with
  | .mapping _ entries =>
    entries.foldlM
      (fun fields (key, value) => do
        let name ← (document.text · key : Reading _)
        match Field.all.find? (·.name = name) with
        | some field => fields.read document field value
        | none => throw (.unknownField name))
      {}
  | _ => throw .notMap

/-- The configuration with these fields. Those that are not given have defaults, services apart. -/
def toConfig (fields : Fields) : Except Yaml.Fault Config :=
  match fields.services with
  | none => .error (.missingField Field.services.name)
  | some services =>
    .ok {
      host := fields.host.getD (.v4 .loopback)
      shutdownTimeoutMs := fields.shutdownTimeoutMs.getD 5000
      services
      mocks := fields.mocks.getD [] }

end Fields

/-! ## Configurations -/

def ofYaml (source : String) : Except Yaml.Fault Config := do
  match ← Yaml.readDocument source with
  | none => throw .missingDocument
  | some node =>
    let (fields, _) ← (Fields.ofDocument (.ofNode node)).run 0
    fields.toConfig

def read (source : String) : Except Fault Config := do
  let config ← (ofYaml source).mapError Fault.malformedYaml
  match config.violation? with
  | none => return config
  | some fault => throw fault

def ofFile (files : Files) (path : String) : Except Fault Config := do
  let content ← (files.read path).mapError Fault.unreadableFile
  match Utf8.decode? content with
  | some source => read source
  | none => throw .notUtf8

end Config

end ApiMock
