import ApiMock.Report

/-!
# Faults of configurations of servers
-/

set_option autoImplicit false

namespace ApiMock.Config

inductive Fault where
  | unreadableFile (words : String)
  | notUtf8
  | malformedYaml (fault : Yaml.Fault)
  | noServices
  | unmatchedMock (name : String)
deriving DecidableEq

def Fault.report : Fault → Report
  | unreadableFile words => .ofWords words
  | notUtf8 => .ofWords "stream did not contain valid UTF-8"
  | malformedYaml fault => [.fault (.yaml fault)]
  | noServices => .ofWords "At least one service must be declared under 'services'"
  | unmatchedMock name =>
    .ofWords ("Mock definition for '" ++ name ++ "' has no matching entry under 'services'")

end ApiMock.Config
