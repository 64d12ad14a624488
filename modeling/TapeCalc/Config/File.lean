import TapeCalc.Config.Toml
import TapeCalc.Files

/-!
Where a configuration comes from: the file that was named, or else the default file if there is
one.
-/

namespace TapeCalc

namespace Config

def ofNamed (path : Text) : Except FileFault Text → Except ConfigError Config
  | .ok content => ofToml content
  | .error fault => .error (.unreadable path fault.reason)

/-- The configuration in the default file, which counts only if it is a file. -/
def ofDefault : Except FileFault Text → Except ConfigError Config
  | .ok content => ofToml content
  | .error (.other reason) => .error (.unreadable defaultPath reason)
  | .error _ => .ok {}

def discover {m : Type → Type} [Monad m] (read : Text → m (Except FileFault Text)) :
    Option Text → m (Except ConfigError Config)
  | some path => return ofNamed path (← read path)
  | none => return ofDefault (← read defaultPath)

end Config

end TapeCalc
