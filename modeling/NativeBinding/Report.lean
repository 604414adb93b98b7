namespace NativeBinding

inductive Level
  | debug | info | warning | error
deriving DecidableEq,Repr

def Level.word : Level → String
  | .debug => "DEBUG"
  | .info => "INFO"
  | .warning => "WARNING"
  | .error => "ERROR"

def Level.rank : Level → Nat
  | .debug => 0
  | .info => 1
  | .warning => 2
  | .error => 3

structure Report where
  level : Level
  text : String
deriving DecidableEq,Repr

def Report.line (report : Report) : String := report.level.word ++ " " ++ report.text

end NativeBinding
