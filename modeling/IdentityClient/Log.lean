/-!
# Log records
-/

namespace IdentityClient

inductive LogLevel where
  | debug
  | info
  | warn
  deriving DecidableEq, Repr

def LogLevel.name : LogLevel → String
  | .debug => "DEBUG"
  | .info => "INFO"
  | .warn => "WARN"

structure LogRecord where
  level : LogLevel
  text : String
  deriving DecidableEq, Repr

namespace LogRecord

def debug (text : String) : LogRecord := ⟨.debug, text⟩
def info (text : String) : LogRecord := ⟨.info, text⟩
def warn (text : String) : LogRecord := ⟨.warn, text⟩

def render (r : LogRecord) : String := r.level.name ++ " " ++ r.text

end LogRecord

end IdentityClient
