/-!
Log records: a level, the name of the logger and a message. Loggers are named by dotted paths.
-/

namespace TypeLaws.Log

inductive Level where
  | debug
  | info
  | warning
  | error
  | critical
  deriving DecidableEq

namespace Level

/-- Higher levels are more urgent; zero is the level of a logger that has none. -/
def number : Level → Nat
  | .debug => 10
  | .info => 20
  | .warning => 30
  | .error => 40
  | .critical => 50

def word : Level → String
  | .debug => "DEBUG"
  | .info => "INFO"
  | .warning => "WARNING"
  | .error => "ERROR"
  | .critical => "CRITICAL"

def all : List Level := [.debug, .info, .warning, .error, .critical]

end Level

structure Record where
  level : Level
  logger : String
  message : String
  deriving DecidableEq

def libraryLogger : String := "typeoracle"

def assertionLogger : String := "typeoracle.assertions.subject"

def reporterLogger : String := "typeoracle.reporting.reporters"

def exportLogger : String := "typeoracle.reporting.junit"

end TypeLaws.Log
