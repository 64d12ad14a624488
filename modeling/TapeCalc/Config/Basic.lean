import Std.Data.TreeMap
import TapeCalc.Engine

/-!
What can be configured: the register whose text is the first tape, and texts that replace the
preset ones. Names are kept as they were given and checked when an engine is built, so that the
first bad one in name order is reported.
-/

namespace TapeCalc

inductive ConfigError
  | unreadable (path reason : Text)
  | malformed
  | notRegister (name : Text)
deriving DecidableEq

namespace ConfigError

def message : ConfigError → String
  | unreadable path reason =>
    "failed to read config " ++ String.ofList path ++ ": " ++ String.ofList reason
  | malformed => "failed to parse config: not a configuration"
  | notRegister name =>
    "'" ++ String.ofList name ++ "' is not a register (expected a single letter A-Z or a-z)"

end ConfigError

def Register.named (name : Text) : Except ConfigError Register :=
  match Register.ofText? name with
  | some r => .ok r
  | none => .error (.notRegister name)

structure Config where
  boot : Text := [Preset.bootRegister.letter]
  overrides : Std.TreeMap Text Text := ∅

namespace Config

/-- The file read when no other is named. -/
def defaultPath : Text :=
  "postfix.toml".toList

def withRegister (config : Config) (name program : Text) : Config :=
  { config with overrides := config.overrides.insert name program }

def withBoot (config : Config) (name : Text) : Config :=
  { config with boot := name }

def isDefault (config : Config) : Bool :=
  config.boot = [Preset.bootRegister.letter] && config.overrides.isEmpty

def bootRegister (config : Config) : Except ConfigError Register :=
  Register.named config.boot

def override (bank : Bank) (entry : Text × Text) : Except ConfigError Bank := do
  let r ← Register.named entry.1
  match bank.store? r.letter (.text entry.2) with
  | some bank => return bank
  | none => throw (.notRegister [r.letter])

def bank (config : Config) : Except ConfigError Bank :=
  config.overrides.toList.foldlM override Preset.bank

/-- The boot register is checked first, then the overridden ones in name order. -/
def check (config : Config) : Except ConfigError Unit := do
  let _ ← config.bootRegister
  config.overrides.keys.forM fun name => discard (Register.named name)

end Config

def Engine.ofConfig {κ : Type} (config : Config) (console : κ) :
    Except ConfigError (Engine κ) := do
  let bank ← config.bank
  let r ← config.bootRegister
  return Engine.boot bank r.letter console

end TapeCalc
