import RelicRace.Trophy.Circle

/-!
`AnalogJoystick`: a touch that starts on the stick tracks the finger, within the
radius of the substrate, until it ends or the joystick is disabled. The tracking
handler runs at every refresh of the display while it tracks.
-/

namespace RelicRace
open SquareRoot

section Joystick
variable {K : Type} [Field K] [LinearOrder K]

/-- `radius` is the substrate's; `velocity` is that of `data`. -/
structure AnalogJoystick (K : Type) where
  radius : K
  disabled : Bool
  tracking : Bool
  velocity : CGPoint K

namespace AnalogJoystick

/-- The stick before it is touched. -/
def make (radius : K) : AnalogJoystick K := ⟨radius, false, false, ⟨0, 0⟩⟩

/-- `init(diameter: 150)`, and what `spawnJoystick` adds to the substrate's diameter. -/
def spawnRadius : K := ((150 + 175 : Nat) : K) * (((1 : Nat) : K) / ((2 : Nat) : K))

/-- A node that is disabled gets no touches. -/
def touchesBegan (onStick : Bool) (joystick : AnalogJoystick K) : AnalogJoystick K :=
  if joystick.disabled = false ∧ onStick = true then { joystick with tracking := true }
  else joystick

/-- `resetStick` up to the handler that it calls. -/
def resetStick (joystick : AnalogJoystick K) : AnalogJoystick K :=
  { joystick with tracking := false, velocity := ⟨0, 0⟩ }

/-- What holds of the stick at every moment: it rests unless it tracks, it does
    not track while it is disabled, and it stays on the substrate. -/
structure Sound (joystick : AnalogJoystick K) : Prop where
  rests : joystick.tracking = false → joystick.velocity = ⟨0, 0⟩
  enabled : joystick.disabled = true → joystick.tracking = false
  held : joystick.velocity.x * joystick.velocity.x + joystick.velocity.y * joystick.velocity.y ≤
    joystick.radius * joystick.radius
  wide : 0 ≤ joystick.radius

theorem began_sound (onStick : Bool) (joystick : AnalogJoystick K) (sound : joystick.Sound) :
    (joystick.touchesBegan onStick).Sound := by
  rw [touchesBegan]
  split
  · rename_i touched
    exact ⟨fun idle => by simp at idle, fun off => by simp [touched.1] at off, sound.held,
      sound.wide⟩
  · exact sound

/-- Taking the lock off leaves a stick at rest. -/
theorem enable_sound (joystick : AnalogJoystick K) (sound : joystick.Sound) :
    { joystick with disabled := false }.Sound :=
  ⟨sound.rests, fun off => by simp at off, sound.held, sound.wide⟩

section Tracked
variable [SquareRoot K]

def needPosition (maxDistantion : K) (location : CGPoint K) : CGPoint K :=
  let realDistantion := sqrt (location.x * location.x + location.y * location.y)
  if realDistantion ≤ maxDistantion then location
  else ⟨location.x / realDistantion * maxDistantion, location.y / realDistantion * maxDistantion⟩

/-- One touch after the other; a stick that does not track returns. -/
def touchesMoved (locations : List (CGPoint K)) (joystick : AnalogJoystick K) :
    AnalogJoystick K :=
  locations.foldl (fun joystick location =>
    if joystick.tracking then
      { joystick with velocity := needPosition joystick.radius location }
    else joystick) joystick

theorem moved_keeps (locations : List (CGPoint K)) (joystick : AnalogJoystick K) :
    (joystick.touchesMoved locations).tracking = joystick.tracking ∧
      (joystick.touchesMoved locations).disabled = joystick.disabled ∧
      (joystick.touchesMoved locations).radius = joystick.radius := by
  induction locations generalizing joystick with
  | nil => exact ⟨rfl, rfl, rfl⟩
  | cons location rest ih =>
      rw [touchesMoved, List.foldl_cons]
      by_cases tracks : joystick.tracking = true
      · rw [if_pos tracks]
        exact ih _
      · rw [if_neg tracks]
        exact ih _

end Tracked

variable [IsStrictOrderedRing K]

theorem reset_sound (joystick : AnalogJoystick K) (disabled : Bool) (sound : joystick.Sound) :
    { joystick.resetStick with disabled }.Sound :=
  ⟨fun _ => rfl, fun _ => rfl, by simpa [resetStick] using mul_self_nonneg joystick.radius,
    sound.wide⟩

theorem make_sound (radius : K) (wide : 0 ≤ radius) : (make radius).Sound :=
  ⟨fun _ => rfl, fun _ => rfl, by simpa [make] using mul_self_nonneg radius, wide⟩

variable [SquareRoot K]

theorem need_position_held (radius : K) (wide : 0 ≤ radius) (location : CGPoint K) :
    (needPosition radius location).x * (needPosition radius location).x +
      (needPosition radius location).y * (needPosition radius location).y ≤ radius * radius := by
  have square := SquareRoot.square (location.x * location.x + location.y * location.y)
    (add_nonneg (mul_self_nonneg _) (mul_self_nonneg _))
  have positive := SquareRoot.nonneg (location.x * location.x + location.y * location.y)
  simp only [needPosition]
  generalize sqrt (location.x * location.x + location.y * location.y) = distance at *
  split
  · rename_i near
    rw [← square]
    exact mul_self_le_mul_self positive near
  · rename_i far
    have apart : distance ≠ 0 := (lt_of_le_of_lt wide (not_le.mp far)).ne'
    apply le_of_eq
    field_simp
    linear_combination (-(radius ^ 2)) * square

theorem moved_sound (locations : List (CGPoint K)) (joystick : AnalogJoystick K)
    (sound : joystick.Sound) : (joystick.touchesMoved locations).Sound := by
  induction locations generalizing joystick with
  | nil => exact sound
  | cons location rest ih =>
      rw [touchesMoved, List.foldl_cons]
      by_cases tracks : joystick.tracking = true
      · rw [if_pos tracks]
        apply ih
        exact ⟨fun idle => by simp [tracks] at idle, sound.enabled,
          need_position_held joystick.radius sound.wide location, sound.wide⟩
      · rw [if_neg tracks]
        exact ih joystick sound

end AnalogJoystick
end Joystick
end RelicRace
