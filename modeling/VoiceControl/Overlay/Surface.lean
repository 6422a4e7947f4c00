import VoiceControl.Overlay.Frame

/-!
# Surfaces

A surface holds what is drawn over the screen. Drawing and clearing may fail; a failed attempt
leaves the surface as it was.
-/

namespace VoiceControl

/-- A drawing surface, with a plan of the attempts that fail, counted from 0. -/
structure Surface where
  failsDraw : Nat → Bool := fun _ => false
  failsClear : Nat → Bool := fun _ => false
  drawAttempts : Nat := 0
  clearAttempts : Nat := 0
  /-- All frames drawn so far, oldest first. -/
  frames : List Frame := []
  clears : Nat := 0
  /-- The frame on the screen. -/
  shown : Option Frame := none

namespace Surface

/-- Draws a frame; says whether it worked. -/
def draw (s : Surface) (f : Frame) : Bool × Surface :=
  if s.failsDraw s.drawAttempts then (false, { s with drawAttempts := s.drawAttempts + 1 })
  else
    (true, { s with
      drawAttempts := s.drawAttempts + 1, frames := s.frames ++ [f], shown := some f })

/-- Takes the frame off the screen; says whether it worked. -/
def clear (s : Surface) : Bool × Surface :=
  if s.failsClear s.clearAttempts then (false, { s with clearAttempts := s.clearAttempts + 1 })
  else
    (true, { s with
      clearAttempts := s.clearAttempts + 1, clears := s.clears + 1, shown := none })

end Surface

end VoiceControl
