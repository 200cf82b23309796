import SpiDisk.Bus.Line

/-!
# `SpiDisk.Bus.Arbiter` — what the devices on one controller share

The arbiter has one token, held by the device that owns the bus, and a register of the lines that
are bound to a device.
-/

namespace SpiDisk

/-- The number of lines that can be bound at once. -/
def maxAttached : Nat := 2

/-- The token and the register of bound lines of one controller. -/
structure Arbiter where
  /-- Whether some device owns the bus. -/
  held : Bool := false
  /-- The bound lines, in the order of their binding. -/
  attached : List Line := []

namespace Arbiter

/-- Bind a line that is free, if there is room. -/
def attach (bus : Arbiter) (line : Line) : Except BusError Arbiter :=
  if line ∈ bus.attached then .error (.channelInUse line.mask)
  else if bus.attached.length < maxAttached then
    .ok { bus with attached := bus.attached ++ [line] }
  else .error .registryFull

/-- Free a line. -/
def detach (bus : Arbiter) (line : Line) : Arbiter :=
  { bus with attached := bus.attached.filter (· ≠ line) }

theorem mem_attached_detach (bus : Arbiter) (line other : Line) :
    other ∈ (bus.detach line).attached ↔ other ∈ bus.attached ∧ other ≠ line := by
  simp [detach]

/-- Binding a line leaves the token alone. -/
theorem eq_of_attach {bus next : Arbiter} {line : Line} (h : bus.attach line = .ok next) :
    next = { bus with attached := next.attached } := by
  unfold attach at h
  split at h
  · simp at h
  · split at h
    · cases h
      rfl
    · simp at h

end Arbiter

end SpiDisk
