/-
# Commands

A command is what a script asks for, with its arguments already checked, and the lexeme of its
word:

| command | calls of the plotter |
| --- | --- |
| set the mode | for interactive mode, entering it and then asking for the mode |
| set options | one for each setting, in order, and then the commit |
| pen, motion, drawing, waiting | one |
| get the position, get the pen | one, and a message to the user |
| set the plot | one, when the drawing is at hand |
| plot | one |

These are the commands of the language specification, §4.2, as a closed sum type, which §9 asks
for; `Action.name` is how diagnostics call them.
-/

import PlotScript.Fault
import PlotScript.Plotter.Call

namespace PlotScript

/-- What a command does. -/
inductive Action where
  | setMode (m : Mode)
  | setOptions (b : Block) (settings : List (Setting × Value))
  | connect
  | disconnect
  | penUp
  | penDown
  | penToggle
  | home
  | goTo (x y : Number)
  | goToRelative (x y : Number)
  | draw (path : List Point)
  | wait (time : Number)
  | getPosition
  | getPen
  | setPlot (source : String)
  | plot
  deriving DecidableEq

/-- A command of a script. -/
structure Command where
  anchor : Lexeme
  action : Action
  deriving DecidableEq

namespace Action

/-- A command as the log names it. -/
def name : Action → String
  | setMode _ => "SetMode"
  | setOptions _ _ => "SetOptions"
  | connect => "Connect"
  | disconnect => "Disconnect"
  | penUp => "PenUp"
  | penDown => "PenDown"
  | penToggle => "PenToggle"
  | home => "Home"
  | goTo _ _ => "GoTo"
  | goToRelative _ _ => "GoToRelative"
  | draw _ => "Draw"
  | wait _ => "Wait"
  | getPosition => "GetPosition"
  | getPen => "GetPen"
  | setPlot _ => "SetPlot"
  | plot => "Plot"

/-- The command of a word that takes no arguments in interactive mode. -/
def ofWord? : Kind → Option Action
  | .connect => some connect
  | .disconnect => some disconnect
  | .penUp => some penUp
  | .penDown => some penDown
  | .penToggle => some penToggle
  | .home => some home
  | .getPosition => some getPosition
  | .getPen => some getPen
  | _ => none

end Action
end PlotScript
