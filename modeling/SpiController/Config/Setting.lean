import SpiController.Config.Basic

/-!
# Settings

A configuration is built from another one by settings, each of which replaces one field, or clock
polarity and phase together.
-/

namespace SpiController

/-- A new value for a part of a configuration. -/
inductive Setting where
  | direction (value : Direction)
  | role (value : Role)
  | frameLength (value : FrameLength)
  | polarity (value : Polarity)
  | phase (value : Phase)
  | mode (value : Mode)
  | select (value : SelectSource)
  | divider (value : Divider)
  | bitOrder (value : BitOrder)
  | crcPolynomial (value : Word)
  deriving DecidableEq, Repr

namespace Config

/-- The configuration with one setting changed. -/
def set (c : Config) : Setting → Config
  | .direction value => { c with direction := value }
  | .role value => { c with role := value }
  | .frameLength value => { c with frameLength := value }
  | .polarity value => { c with polarity := value }
  | .phase value => { c with phase := value }
  | .mode value => { c with polarity := value.polarity, phase := value.phase }
  | .select value => { c with select := value }
  | .divider value => { c with divider := value }
  | .bitOrder value => { c with bitOrder := value }
  | .crcPolynomial value => { c with crcPolynomial := value }

/-- The configurations after each of the settings in turn. -/
def history (c : Config) : List Setting → List Config
  | [] => []
  | setting :: rest => c.set setting :: (c.set setting).history rest

/-- The configuration after all of the settings. -/
def setAll (c : Config) (settings : List Setting) : Config :=
  settings.foldl set c

@[simp]
theorem mode_set_mode (c : Config) (mode : Mode) : (c.set (.mode mode)).mode = mode := rfl

theorem set_mode (c : Config) (mode : Mode) :
    c.set (.mode mode) = (c.set (.polarity mode.polarity)).set (.phase mode.phase) := rfl

@[simp]
theorem setAll_cons (c : Config) (setting : Setting) (rest : List Setting) :
    c.setAll (setting :: rest) = (c.set setting).setAll rest := rfl

/-- The last configuration of the history is the one after all settings. -/
theorem history_getLast? (c : Config) (settings : List Setting) :
    (c.history settings).getLast?.getD c = c.setAll settings := by
  induction settings generalizing c with
  | nil => rfl
  | cons setting rest ih =>
      rw [setAll_cons, ← ih]
      cases rest with
      | nil => rfl
      | cons next rest => simp [history, List.getLast?_cons]

end Config

end SpiController
