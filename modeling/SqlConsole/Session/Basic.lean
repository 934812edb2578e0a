import SqlConsole.Session.Settings
import SqlConsole.World.Stream

/-! A session: its settings, and where its text goes. -/
namespace SqlConsole

structure Session where
  settings : Settings := {}
  output : Sink := .stdout
  /-- Where statements are written as they are run. -/
  trace : Option Sink := none
  log : Option Sink := none
  deriving DecidableEq, Repr

structure Connection where
  filename : String
  /-- The connection tells the console which statements it runs. -/
  traced : Bool := false
  deriving DecidableEq, Repr

end SqlConsole
