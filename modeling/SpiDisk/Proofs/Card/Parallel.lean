import SpiDisk.Card.Transfer
import SpiDisk.Proofs.Bus.Parallel

/-!
# `SpiDisk.Proofs.Card.Parallel` — the card engine in two sessions

A relation between sessions of channels that nothing done on the bus breaks is not broken by the engine: a
command, a block, an identification and a transfer do the same in both sessions, call by call.

## Contents
- **Commands and blocks.** One rule for each operation, with patience that may be larger in the second run.
- **Identification.** Rules for courses, up to `mirrors_identify`.
- **Transfers.** Up to `mirrors_readSectors` and `mirrors_writeSectors`.
-/

namespace SpiDisk

namespace ChannelM

open SessionM CardEngine

variable {H H' C C' α β : Type} [Host H] [Host H'] [TickSource C] [TickSource C']
  {R : Session (Channel H) C → Session (Channel H') C' → Prop} {lead : UInt8}
  {patience patience' : Nat} (hR : Parallel lead R) (hpatience : patience ≤ patience')

/-! ## Commands and blocks -/

section Commands

include hR

theorem mirrors_awaitResponse (polls : Nat) :
    Mirrors R (awaitResponse polls) (awaitResponse polls) := by
  induction polls with
  | zero => exact mirrors_pure idleByte
  | succ polls ih =>
    refine (mirrors_readByte hR).bind fun byte => ?_
    split
    · exact mirrors_pure byte
    · split
      · exact mirrors_pure byte
      · exact ih

theorem mirrors_exchangeFrame (index : UInt8) (argument : UInt32) :
    Mirrors R (exchangeFrame index argument) (exchangeFrame index argument) := by
  refine (mirrors_report hR.toAbreast _).bind fun _ => (hR.write _).bind fun _ => ?_
  split
  · exact (mirrors_readByte hR).bind fun _ => mirrors_awaitResponse hR _
  · exact mirrors_awaitResponse hR _

theorem mirrors_failureOf (r1 : UInt8) : Mirrors R (failureOf r1) (failureOf r1) := by
  unfold failureOf
  split
  · exact (mirrors_report hR.toAbreast _).bind fun _ => mirrors_pure _
  · exact mirrors_pure _

include hpatience

theorem mirrors_waitReady : Mirrors R (waitReady patience) (waitReady patience') := by
  refine mirrors_startDeadline hR.toAbreast _ fun deadline => ?_
  refine (mirrors_pollUntil hR.toAbreast hpatience deadline ?_).bind fun ready => mirrors_pure _
  exact (mirrors_readByte hR).bind fun byte => mirrors_pure _

theorem mirrors_selectCard : Mirrors R (selectCard patience) (selectCard patience') := by
  refine hR.obtain.bind fun _ => (mirrors_select hR).bind fun _ => ?_
  refine (mirrors_readByte hR).bind fun _ => (mirrors_waitReady hR hpatience).bind fun ready => ?_
  split
  · exact mirrors_pure true
  · refine (mirrors_report hR.toAbreast _).bind fun _ => ?_
    exact (mirrors_shutdown hR).bind fun _ => mirrors_pure false

theorem mirrors_sendPlain (index : UInt8) (argument : UInt32) :
    Mirrors R (sendPlain patience index argument) (sendPlain patience' index argument) := by
  unfold sendPlain
  split
  · exact mirrors_exchangeFrame hR index argument
  · refine (mirrors_shutdown hR).bind fun _ => (mirrors_selectCard hR hpatience).bind fun ready => ?_
    split
    · exact mirrors_exchangeFrame hR index argument
    · exact mirrors_pure idleByte

theorem mirrors_send (command : Command) (argument : UInt32) :
    Mirrors R (send patience command argument) (send patience' command argument) := by
  unfold send
  split
  · refine (mirrors_sendPlain hR hpatience _ 0).bind fun r1 => ?_
    split
    · exact mirrors_pure r1
    · exact mirrors_sendPlain hR hpatience _ argument
  · exact mirrors_sendPlain hR hpatience _ argument

theorem mirrors_receiveBlock (count : Nat) :
    Mirrors R (receiveBlock patience count) (receiveBlock patience' count) := by
  refine mirrors_startDeadline hR.toAbreast _ fun deadline => ?_
  refine (mirrors_pollUntil hR.toAbreast hpatience deadline ?_).bind ?_
  · exact (mirrors_readByte hR).bind fun byte => mirrors_pure _
  rintro (_ | token)
  · exact (mirrors_report hR.toAbreast _).bind fun _ => mirrors_pure _
  · dsimp only
    split
    · exact (hR.read count).bind fun bytes => (hR.read 2).bind fun _ => mirrors_pure _
    · exact (mirrors_report hR.toAbreast _).bind fun _ => mirrors_pure _

theorem mirrors_readyFor (token : UInt8) :
    Mirrors R (readyFor patience token) (readyFor patience' token) := by
  refine (mirrors_waitReady hR hpatience).bind fun ready => ?_
  split
  · exact mirrors_pure true
  · exact (mirrors_report hR.toAbreast _).bind fun _ => mirrors_pure false

theorem mirrors_transmitBlock (token : UInt8) (bytes : List UInt8) :
    Mirrors R (transmitBlock patience token bytes) (transmitBlock patience' token bytes) := by
  refine (mirrors_readyFor hR hpatience token).bind fun ready => ?_
  split
  · refine (hR.write _).bind fun _ => (hR.write _).bind fun _ => ?_
    refine (hR.write _).bind fun _ => (mirrors_readByte hR).bind fun response => ?_
    split
    · exact mirrors_pure _
    · exact (mirrors_report hR.toAbreast _).bind fun _ => mirrors_pure _
  · exact mirrors_pure _

theorem mirrors_transmitStop : Mirrors R (transmitStop patience) (transmitStop patience') := by
  refine (mirrors_readyFor hR hpatience _).bind fun ready => ?_
  split
  · exact (hR.write _).bind fun _ => mirrors_pure _
  · exact mirrors_pure _

end Commands

/-! ## Identification -/

section Courses

omit [Host H] [Host H'] [TickSource C] [TickSource C'] in
theorem mirrors_course_bind {first : CardM H C α} {first' : CardM H' C' α}
    {next : α → CardM H C β} {next' : α → CardM H' C' β} (h : Mirrors R first.run first'.run)
    (hnext : ∀ a, Mirrors R (next a).run (next' a).run) :
    Mirrors R (first >>= next).run (first' >>= next').run := by
  refine Mirrors.bind h ?_
  rintro (error | a)
  · exact mirrors_pure (Except.error error)
  · exact hnext a

omit [Host H] [Host H'] [TickSource C] [TickSource C'] in
theorem mirrors_step {action : ChannelM H C α} {other : ChannelM H' C' α}
    (h : Mirrors R action other) : Mirrors R (step action).run (step other).run :=
  Mirrors.bind h fun a => mirrors_pure (Except.ok a)

include hR

theorem mirrors_course_startDeadline (ms : UInt32) {next : Deadline → CardM H C β}
    {next' : Deadline → CardM H' C' β}
    (hnext : ∀ deadline, Mirrors R (next deadline).run (next' (deadline.delayed lead)).run) :
    Mirrors R (step (startDeadline ms) >>= next).run (step (startDeadline ms) >>= next').run := by
  have hrun : Mirrors R (startDeadline ms >>= fun deadline => (next deadline).run)
      (startDeadline ms >>= fun deadline => (next' deadline).run) :=
    mirrors_startDeadline hR.toAbreast ms hnext
  exact hrun

theorem mirrors_requireReady (index r1 : UInt8) :
    Mirrors R (requireReady index r1) (requireReady index r1) := by
  unfold requireReady
  split
  · exact mirrors_pure _
  · refine (mirrors_report hR.toAbreast _).bind fun _ => ?_
    exact (mirrors_failureOf hR r1).bind fun _ => mirrors_pure _

theorem mirrors_requireSize (size : Except Csd.SizeFault α) :
    Mirrors R (requireSize size) (requireSize size) := by
  cases size with
  | ok value => exact mirrors_pure _
  | error fault => exact (mirrors_report hR.toAbreast _).bind fun _ => mirrors_pure _

include hpatience

theorem mirrors_powerUp : Mirrors R (powerUp patience) (powerUp patience') := by
  refine hR.obtain.bind fun _ => (mirrors_deselect hR).bind fun _ => ?_
  exact (hR.write _).bind fun _ => mirrors_waitMillis hR.toAbreast hpatience _

theorem mirrors_resetCard : Mirrors R (resetCard patience) (resetCard patience') := by
  refine (mirrors_powerUp hR hpatience).bind fun _ => (mirrors_report hR.toAbreast _).bind fun _ => ?_
  refine (mirrors_send hR hpatience _ 0).bind fun r1 => ?_
  split
  · exact mirrors_pure _
  · exact (mirrors_report hR.toAbreast _).bind fun _ => mirrors_pure _

theorem mirrors_pollReady (command : Command) (argument : UInt32) (deadline : Deadline) :
    Mirrors R (pollReady patience command argument deadline)
      (pollReady patience' command argument (deadline.delayed lead)) := by
  refine (mirrors_pollUntil hR.toAbreast hpatience deadline ?_).bind ?_
  · exact (mirrors_send hR hpatience command argument).bind fun r1 => mirrors_pure _
  rintro (_ | _)
  · exact (mirrors_report hR.toAbreast _).bind fun _ => mirrors_pure _
  · exact mirrors_pure _

theorem mirrors_readRegister (command : Command) :
    Mirrors R (readRegister patience command).run (readRegister patience' command).run := by
  refine mirrors_course_bind (mirrors_step (mirrors_send hR hpatience command 0)) fun r1 => ?_
  refine mirrors_course_bind (mirrors_requireReady hR _ r1) fun _ => ?_
  refine mirrors_course_bind (mirrors_receiveBlock hR hpatience _) fun bytes => ?_
  exact mirrors_course_bind (mirrors_step (mirrors_report hR.toAbreast _)) fun _ => mirrors_pure _

theorem mirrors_echoesInterface :
    Mirrors R (echoesInterface patience) (echoesInterface patience') := by
  refine (mirrors_send hR hpatience _ _).bind fun r1 => ?_
  split
  · exact (mirrors_readWord hR).bind fun word => mirrors_pure _
  · exact mirrors_pure _

theorem mirrors_identifyVersion2 (deadline : Deadline) :
    Mirrors R (identifyVersion2 patience deadline).run
      (identifyVersion2 patience' (deadline.delayed lead)).run := by
  refine mirrors_course_bind (mirrors_step (mirrors_report hR.toAbreast _)) fun _ => ?_
  refine mirrors_course_bind (mirrors_pollReady hR hpatience _ _ deadline) fun _ => ?_
  refine mirrors_course_bind (mirrors_step (mirrors_send hR hpatience _ 0)) fun r1 => ?_
  refine mirrors_course_bind (mirrors_requireReady hR _ r1) fun _ => ?_
  refine mirrors_course_bind (mirrors_step (mirrors_readWord hR)) fun ocr => ?_
  exact mirrors_course_bind (mirrors_step (mirrors_report hR.toAbreast _)) fun _ => mirrors_pure _

theorem mirrors_identifyLegacy (deadline : Deadline) :
    Mirrors R (identifyLegacy patience deadline).run
      (identifyLegacy patience' (deadline.delayed lead)).run := by
  refine mirrors_course_bind (mirrors_step (mirrors_send hR hpatience _ 0)) fun probe => ?_
  refine mirrors_course_bind (mirrors_step (mirrors_report hR.toAbreast _)) fun _ => ?_
  refine mirrors_course_bind (mirrors_pollReady hR hpatience _ _ deadline) fun _ => ?_
  refine mirrors_course_bind (mirrors_step (mirrors_send hR hpatience _ _)) fun r1 => ?_
  exact mirrors_course_bind (mirrors_requireReady hR _ r1) fun _ => mirrors_pure _

theorem mirrors_identifyFamily :
    Mirrors R (identifyFamily patience).run (identifyFamily patience').run := by
  refine mirrors_course_startDeadline hR _ fun deadline => ?_
  refine mirrors_course_bind (mirrors_step (mirrors_report hR.toAbreast _)) fun _ => ?_
  refine mirrors_course_bind (mirrors_step (mirrors_echoesInterface hR hpatience)) fun echoes => ?_
  cases echoes with
  | true =>
    refine mirrors_course_bind (mirrors_step (mirrors_report hR.toAbreast _)) fun _ => ?_
    exact mirrors_identifyVersion2 hR hpatience deadline
  | false => exact mirrors_identifyLegacy hR hpatience deadline

theorem mirrors_identify : Mirrors R (identify patience).run (identify patience').run := by
  refine mirrors_course_bind (mirrors_resetCard hR hpatience) fun _ => ?_
  refine mirrors_course_bind (mirrors_identifyFamily hR hpatience) fun family => ?_
  refine mirrors_course_bind (mirrors_step (mirrors_report hR.toAbreast _)) fun _ => ?_
  refine mirrors_course_bind (mirrors_readRegister hR hpatience _) fun cid => ?_
  refine mirrors_course_bind (mirrors_readRegister hR hpatience _) fun csd => ?_
  refine mirrors_course_bind (mirrors_requireSize hR _) fun total => ?_
  exact mirrors_course_bind (mirrors_requireSize hR _) fun blockLog => mirrors_pure _

end Courses

/-! ## Transfers -/

section Transfers

include hR

theorem mirrors_conclude {N : Type} [Diagnostic N] (note : CardError → N)
    (outcome : Except CardError Unit) :
    Mirrors R (conclude note outcome) (conclude note outcome) := by
  refine (mirrors_shutdown hR).bind fun _ => ?_
  cases outcome with
  | ok _ => exact mirrors_pure ()
  | error error => exact mirrors_report hR.toAbreast _

include hpatience

theorem mirrors_receiveBlocks (count : Nat) :
    Mirrors R (receiveBlocks patience count :
      ChannelM H C (List (List UInt8) × Except CardError Unit)) (receiveBlocks patience' count) := by
  induction count with
  | zero => exact mirrors_pure _
  | succ count ih =>
    refine (mirrors_receiveBlock hR hpatience sectorSize).bind ?_
    rintro (error | block)
    · exact mirrors_pure _
    · exact ih.bind fun _ => mirrors_pure _

theorem mirrors_readRun (address : UInt32) (count : Nat) :
    Mirrors R (readRun patience address count :
      ChannelM H C (List (List UInt8) × Except CardError Unit)) (readRun patience' address count) := by
  refine (mirrors_send hR hpatience _ address).bind fun r1 => ?_
  split
  · exact (mirrors_failureOf hR r1).bind fun _ => mirrors_pure _
  · refine (mirrors_receiveBlocks hR hpatience count).bind fun received => ?_
    split
    · exact (mirrors_send hR hpatience _ 0).bind fun _ => mirrors_pure _
    · exact mirrors_pure _

theorem mirrors_readSectors (info : CardInfo) (lba : UInt32) (buffer : List UInt8) :
    Mirrors R (readSectors patience info lba buffer :
      ChannelM H C (Except CardError Unit × List UInt8)) (readSectors patience' info lba buffer) := by
  unfold readSectors
  dsimp only
  split
  · exact mirrors_pure _
  split
  · exact mirrors_pure _
  refine Mirrors.bind ?_ fun received => (mirrors_conclude hR _ _).bind fun _ => mirrors_pure _
  unfold fetchRun
  split
  · exact mirrors_pure _
  · exact mirrors_readRun hR hpatience _ _

theorem mirrors_transmitBlocks (blocks : List (List UInt8)) :
    Mirrors R (transmitBlocks patience blocks) (transmitBlocks patience' blocks) := by
  induction blocks with
  | nil => exact mirrors_pure _
  | cons block rest ih =>
    refine (mirrors_transmitBlock hR hpatience _ block).bind ?_
    rintro (error | _)
    · exact mirrors_pure _
    · exact ih

theorem mirrors_announceCount (family : Family) (count : Nat) :
    Mirrors R (announceCount patience family count) (announceCount patience' family count) := by
  unfold announceCount
  split
  · refine (mirrors_send hR hpatience _ _).bind fun r1 => ?_
    split
    · exact mirrors_report hR.toAbreast _
    · exact mirrors_pure ()
  · exact mirrors_pure ()

theorem mirrors_writeOne (address : UInt32) (block : List UInt8) :
    Mirrors R (writeOne patience address block) (writeOne patience' address block) := by
  refine (mirrors_send hR hpatience _ address).bind fun r1 => ?_
  split
  · exact (mirrors_failureOf hR r1).bind fun _ => mirrors_pure _
  · exact mirrors_transmitBlock hR hpatience _ block

theorem mirrors_writeMany (family : Family) (address : UInt32) (blocks : List (List UInt8)) :
    Mirrors R (writeMany patience family address blocks)
      (writeMany patience' family address blocks) := by
  refine (mirrors_announceCount hR hpatience family _).bind fun _ => ?_
  refine (mirrors_send hR hpatience _ address).bind fun r1 => ?_
  split
  · exact (mirrors_failureOf hR r1).bind fun _ => mirrors_pure _
  refine (mirrors_transmitBlocks hR hpatience blocks).bind fun outcome => ?_
  refine (mirrors_transmitStop hR hpatience).bind fun stop => ?_
  cases outcome with
  | error error => exact mirrors_pure _
  | ok _ => exact mirrors_pure _

theorem mirrors_writeSectors (info : CardInfo) (lba : UInt32) (bytes : List UInt8) :
    Mirrors R (writeSectors patience info lba bytes) (writeSectors patience' info lba bytes) := by
  unfold writeSectors
  dsimp only
  split
  · exact mirrors_pure _
  split
  · exact mirrors_pure _
  refine Mirrors.bind ?_ fun outcome => (mirrors_conclude hR _ _).bind fun _ => mirrors_pure _
  unfold storeRun
  split
  · exact mirrors_pure _
  unfold writeRun
  split
  · exact mirrors_writeOne hR hpatience _ _
  · exact mirrors_writeMany hR hpatience _ _ _

end Transfers

end ChannelM

end SpiDisk
