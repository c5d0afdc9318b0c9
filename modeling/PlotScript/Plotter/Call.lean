/-
# What a plotter is asked

A `Call` is one request to a plotter, whatever plotter it is, and `Call.Answer` is the type of
its answer.  Most calls are answered by nothing but their return.

A `Call` is a method of the Driver interface, language specification, §6; a `MachineCall` is one of
the interface behind the AxiDraw driver, §14.
-/

import PlotScript.Number
import PlotScript.Setting

namespace PlotScript

/-- A point of the drawing area. -/
abbrev Point := Number × Number

/-- A request to a plotter. -/
inductive Call where
  /-- Begin to work interactively. -/
  | enterInteractive
  /-- Give a setting a value, to be applied by the next `commitOptions`. -/
  | set (s : Setting) (v : Value)
  | commitOptions
  | connect
  | disconnect
  | penUp
  | penDown
  | penToggle
  | home
  /-- Move to a point with the pen up. -/
  | goTo (x y : Number)
  /-- Move by a distance with the pen up. -/
  | goToRelative (x y : Number)
  /-- Move to the first point, then draw through the others. -/
  | drawPath (points : List Point)
  /-- Wait for some milliseconds. -/
  | wait (time : Number)
  | getPosition
  | getPenDown
  | currentMode
  /-- Load a drawing. -/
  | setupPlot (path : String)
  /-- Plot the loaded drawing. -/
  | runPlot
  deriving DecidableEq

/-- What a call is answered by. -/
@[reducible] def Call.Answer : Call → Type
  | getPosition => Point
  | getPenDown => Bool
  | currentMode => Option Mode
  | enterInteractive | set _ _ | commitOptions | connect | disconnect | penUp | penDown
  | penToggle | home | goTo _ _ | goToRelative _ _ | drawPath _ | wait _ | setupPlot _
  | runPlot => Unit

/-- A request to the machine behind a plotter's interface. -/
inductive MachineCall where
  | interactive
  | connect
  | disconnect
  | penUp
  | penDown
  | currentPen
  | moveTo (x y : Number)
  | move (x y : Number)
  | lineTo (x y : Number)
  | delay (time : Number)
  | currentPosition
  | update
  | plotSetup (path : String)
  | plotRun
  deriving DecidableEq

/-- What a machine call is answered by: whether the connection stands, whether the pen is up, the
position, the warnings of a plot, or nothing. -/
@[reducible] def MachineCall.Answer : MachineCall → Type
  | connect => Bool
  | currentPen => Bool
  | currentPosition => Point
  | plotRun => List String
  | interactive | disconnect | penUp | penDown | moveTo _ _ | move _ _ | lineTo _ _ | delay _
  | update | plotSetup _ => Unit

end PlotScript
