import SpiDisk.Bench.Script
import SpiDisk.Proofs.Card.Completion
import SpiDisk.Proofs.Lockstep

/-!
# `SpiDisk.Proofs.Card.Termination` — operations that terminate

With too little patience an operation is given up, and counts as one that never comes back. It
terminates if it is not given up from some patience on, and then it has one outcome, because a larger
patience changes nothing about it. The patience that suffices bounds every loop in it, the polling for a
ready card among them.
-/

namespace SpiDisk

open SessionM

/-- The operation comes to one and the same outcome, whatever the patience, before any of its loops
    has taken more than so many rounds. -/
def Terminates {D C α : Type} (rounds : Nat) (action : Nat → SessionM D C α) (s : Session D C) : Prop :=
  ∃ outcome, ∀ patience, rounds ≤ patience → action patience s = some outcome

theorem terminates_of_returns {D C α : Type} {rounds : Nat} {action : Nat → SessionM D C α}
    {s : Session D C} (h : Returns (action rounds) s)
    (hmore : ∀ patience, rounds ≤ patience → Follows Eq (action rounds) (action patience)) :
    Terminates rounds action s := by
  obtain ⟨a, s', hrun⟩ := h
  exact ⟨(a, s'), fun patience hle => (hmore patience hle).outcome hrun⟩

namespace Card

open ChannelM

variable {H : Type} [Host H] {s : Session (Card H) Counter}

/-- **Every operation of a card terminates,** whatever the board does, on a counter that moves one tick
    with every reading: reading and writing at any rate, in loops of no more rounds than a deadline can
    lie ahead, and bringing up at the default rate, in loops of no more than thirty. So the card is
    polled thirty times at most before it is given up. -/
theorem terminates (halone : Alone (s.at Card.channel)) (hstep : s.env.clock.step = 1) :
    (∀ lba buffer, Terminates horizon.toNat (fun patience => read patience lba buffer) s) ∧
      (∀ lba bytes, Terminates horizon.toNat (fun patience => write patience lba bytes) s) ∧
      (s.env.clock.rate = defaultFrequency → Terminates 30 bringUp s) := by
  have hunhindered : Unhindered (s.at Card.channel) := ⟨halone, hstep⟩
  have henduring := hunhindered.enduring (Nat.le_refl horizon.toNat)
  refine ⟨fun lba buffer => ?_, fun lba bytes => ?_, fun hrate => ?_⟩
  · exact terminates_of_returns (returns_read henduring lba buffer)
      fun _ hle => follows_read kindred_eq hle lba buffer
  · exact terminates_of_returns (returns_write henduring lba bytes)
      fun _ hle => follows_write kindred_eq hle lba bytes
  · exact terminates_of_returns (returns_bringUp_of_thirty (Nat.le_refl 30) ⟨hunhindered, hrate⟩)
      fun _ hle => follows_bringUp kindred_eq hle

/-- A line that is stuck low, on a counter that is about to wrap. -/
theorem terminates_stuck :
    let stuck : Card Script := { channel := { host := { idle := 0x00 } } }
    let clock : Counter := { value := 250 }
    Terminates 128 (fun patience => read patience 7 (List.replicate 1024 0xAA)) ⟨stuck, { clock }⟩ ∧
      Terminates 30 bringUp ⟨stuck, { clock }⟩ := by
  intro stuck clock
  have halone : Alone (Session.at ⟨stuck, { clock }⟩ Card.channel) := rfl
  have hstep : clock.step = 1 := rfl
  have hrate : clock.rate = defaultFrequency := rfl
  obtain ⟨hread, -, hup⟩ := terminates (s := ⟨stuck, { clock }⟩) halone hstep
  exact ⟨hread 7 _, hup hrate⟩

end Card

end SpiDisk
