import DrawingPlan.Text.Basic

set_option autoImplicit false

namespace DrawingPlan

inductive Level where
  | debug
  | warning
deriving DecidableEq, Repr

def Level.name : Level → String
  | .debug => "DEBUG"
  | .warning => "WARNING"

def Level.number : Level → Int
  | .debug => 10
  | .warning => 30

inductive Channel where
  | decoding
  | drawing
  | blocks
  | execution
  | commands
deriving DecidableEq, Repr

def Channel.name : Channel → String
  | .decoding => "cadagent.decoder"
  | .drawing => "cadagent.space"
  | .blocks => "cadagent.tools.blocks"
  | .execution => "cadagent.executor"
  | .commands => "cadagent.commands"

structure Note where
  channel : Channel
  level : Level
  text : Text
deriving DecidableEq, Repr

end DrawingPlan
