/-
# Modes, option blocks and settings

A script works in one of two modes: *interactive*, where commands move the pen, and *plot*, where
whole drawings are plotted.  Settings of the plotter are given in blocks:

| block | words | where |
| --- | --- | --- |
| options | `OPTS` … `END_OPTS` | either mode |
| update | `UOPTS` … `END_UOPTS` | interactive mode |

A block holds pairs of a setting's keyword and its value:

| keyword | option of the plotter | value |
| --- | --- | --- |
| `ACCEL` | `accel` | number |
| `PENU_POS`, `PEND_POS` | `pen_pos_up`, `pen_pos_down` | number |
| `PENU_DELAY`, `PEND_DELAY` | `pen_delay_up`, `pen_delay_down` | number |
| `PENU_SPEED`, `PEND_SPEED` | `speed_penup`, `speed_pendown` | number |
| `PENU_RATE`, `PEND_RATE` | `pen_rate_raise`, `pen_rate_lower` | number |
| `MODEL` | `model` | number from 1 to 7 |
| `PORT` | `port` | text |
| `UNITS` | `units` | number from 0 to 2, interactive mode only |

The table of options is that of the language specification, §6, and the limits are those of §14.
-/

namespace PlotScript

/-- What a script does with the plotter. -/
inductive Mode where
  | interactive
  | plot
  deriving DecidableEq, Repr

/-- A mode as messages name it. -/
def Mode.name : Mode → String
  | interactive => "interactive"
  | plot => "plot"

/-- The two kinds of option block. -/
inductive Block where
  | options
  | update
  deriving DecidableEq, Repr

namespace Block

/-- The word that opens a block. -/
def opening : Block → String
  | options => "OPTS"
  | update => "UOPTS"

/-- The word that closes a block. -/
def closing : Block → String
  | options => "END_OPTS"
  | update => "END_UOPTS"

end Block

/-- The settings of a plotter. -/
inductive Setting where
  | acceleration
  | penUpPosition
  | penDownPosition
  | penUpDelay
  | penDownDelay
  | penUpSpeed
  | penDownSpeed
  | penUpRate
  | penDownRate
  | model
  | port
  | units
  deriving DecidableEq, Repr

namespace Setting

/-- All settings, in the order in which messages list them. -/
def all : List Setting :=
  [acceleration, penUpPosition, penDownPosition, penUpDelay, penDownDelay, penUpSpeed,
    penDownSpeed, penUpRate, penDownRate, model, port, units]

/-- The word that names a setting in a block. -/
def keyword : Setting → String
  | acceleration => "ACCEL"
  | penUpPosition => "PENU_POS"
  | penDownPosition => "PEND_POS"
  | penUpDelay => "PENU_DELAY"
  | penDownDelay => "PEND_DELAY"
  | penUpSpeed => "PENU_SPEED"
  | penDownSpeed => "PEND_SPEED"
  | penUpRate => "PENU_RATE"
  | penDownRate => "PEND_RATE"
  | model => "MODEL"
  | port => "PORT"
  | units => "UNITS"

/-- A setting as messages describe it. -/
def description : Setting → String
  | acceleration => "acceleration"
  | penUpPosition => "raised pen position"
  | penDownPosition => "lowered pen position"
  | penUpDelay => "pen raise delay"
  | penDownDelay => "pen lower delay"
  | penUpSpeed => "pen raise speed"
  | penDownSpeed => "pen lower speed"
  | penUpRate => "pen raise rate"
  | penDownRate => "pen lower rate"
  | model => "model"
  | port => "port"
  | units => "units"

/-- The option of the plotter that a setting is. -/
def option : Setting → String
  | acceleration => "accel"
  | penUpPosition => "pen_pos_up"
  | penDownPosition => "pen_pos_down"
  | penUpDelay => "pen_delay_up"
  | penDownDelay => "pen_delay_down"
  | penUpSpeed => "speed_penup"
  | penDownSpeed => "speed_pendown"
  | penUpRate => "pen_rate_raise"
  | penDownRate => "pen_rate_lower"
  | model => "model"
  | port => "port"
  | units => "units"

/-- A setting that takes a text; the others take a number. -/
def takesText : Setting → Bool
  | port => true
  | _ => false

/-- A setting that can be given in interactive mode only. -/
def interactiveOnly : Setting → Bool
  | units => true
  | _ => false

/-- The least and the greatest value, where they are limited. -/
def range : Setting → Option (Nat × Nat)
  | model => some (1, 7)
  | units => some (0, 2)
  | _ => none

/-- How a setting is written. -/
def usage (s : Setting) : String :=
  if s.takesText then s.keyword ++ " \"<VALUE>\"" else s.keyword ++ " <VALUE>"

/-- A setting that can be given in a mode. -/
def allowedIn (interactive : Bool) (s : Setting) : Bool := interactive || !s.interactiveOnly

/-- The keywords of the settings that can be given, as messages list them. -/
def keywordList (interactive : Bool) : String :=
  String.intercalate ", " ((all.filter (allowedIn interactive)).map keyword)

end Setting
end PlotScript
