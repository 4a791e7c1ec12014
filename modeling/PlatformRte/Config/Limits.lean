import Mathlib.Tactic.Basic

/-! The limits of a redundancy configuration. -/
namespace PlatformRte.Config

def maxRoleNameLen : Nat := 16
def maxReplicas : Nat := 5
def maxFileSize : Nat := 8192
def maxChannels : Nat := 32
def maxNameLen : Nat := 32
def maxHostLen : Nat := 64

end PlatformRte.Config
