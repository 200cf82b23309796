import SpiDisk.Card.Command
import SpiDisk.Card.Info
import SpiDisk.Log.Logger

/-!
# `SpiDisk.Card.Note` — what the card engine reports
-/

namespace SpiDisk

/-- What the card engine reports. -/
inductive CardNote where
  /-- Identification is done. -/
  | identified (info : CardInfo)
  | identificationFailed (error : CardError)
  | resetting
  | resetAnswered (r1 : UInt8)
  | checkingInterface
  | version2Found
  | familyFound (family : Family)
  | startingOpCond
  | pollingLegacy (family : Family) (index : UInt8)
  | initTimedOut
  | commandFailed (index r1 : UInt8)
  | conditions (ocr : UInt32)
  | registerRead (index : UInt8) (bytes : List UInt8)
  | status (r1 : UInt8)
  | notReady
  | frame (index : UInt8) (bytes : List UInt8)
  | tokenTimedOut
  | errorToken (token : UInt8)
  | busyBefore (token : UInt8)
  | blockRefused (response : UInt8)
  | eraseCountRefused (r1 : UInt8)
  | readFailed (count : Nat) (lba : UInt32) (error : CardError)
  | writeFailed (count : Nat) (lba : UInt32) (error : CardError)

instance : Diagnostic CardNote where
  level
    | .identificationFailed _ | .initTimedOut | .commandFailed .. | .readFailed .. | .writeFailed .. =>
      .error
    | .eraseCountRefused _ => .warn
    | .identified _ => .info
    | .frame .. | .registerRead .. => .trace
    | _ => .debug
  target _ := "sdspi::drivers::sd"
  text
    | .identified info => "SD: " ++ info.describe
    | .identificationFailed error => "SD: card initialization failed: " ++ error.message
    | .resetting => "SD: Sending CMD0 (GO_IDLE_STATE)"
    | .resetAnswered r1 => "SD: CMD0 answered " ++ Text.hexMarked 2 r1.toNat ++ ", no card"
    | .checkingInterface => "SD: Sending CMD8 (SEND_IF_COND)"
    | .version2Found => "SD: SD 2.0+ card detected"
    | .familyFound family => "SD: card type " ++ family.name
    | .startingOpCond => "SD: Starting ACMD41 loop (HCS)"
    | .pollingLegacy family index => "SD: " ++ family.name ++ " card, polling CMD" ++ toString index
    | .initTimedOut => "SD: Card initialization timeout"
    | .commandFailed index r1 =>
      "SD: CMD" ++ toString index ++ " failed: " ++ Text.hexMarked 2 r1.toNat
    | .conditions ocr => "SD: OCR=" ++ Text.hexMarked 8 ocr.toNat
    | .registerRead index bytes => "SD: CMD" ++ toString index ++ " register " ++ Text.listing bytes
    | .status r1 => "SD: R1 " ++ R1.names.render r1.toNat
    | .notReady => "SD: card not ready on select"
    | .frame index bytes => "SD: CMD" ++ toString index ++ " frame " ++ Text.listing bytes
    | .tokenTimedOut => "SD: data token timeout"
    | .errorToken token => "SD: data error token " ++ Text.hexMarked 2 token.toNat
    | .busyBefore token => "SD: card busy before token " ++ Text.hexMarked 2 token.toNat
    | .blockRefused response => "SD: data response " ++ Text.hexMarked 2 response.toNat
    | .eraseCountRefused r1 => "SD: ACMD23 rejected: " ++ Text.hexMarked 2 r1.toNat
    | .readFailed count lba error =>
      "SD: read of " ++ toString count ++ " sectors at LBA " ++ toString lba ++ " failed: " ++ error.message
    | .writeFailed count lba error =>
      "SD: write of " ++ toString count ++ " sectors at LBA " ++ toString lba ++ " failed: " ++ error.message

/-- The sizes in the specific-data register are not supported. -/
instance : Diagnostic Csd.SizeFault where
  level _ := .warn
  target _ := "sdspi::drivers::sd::card_info"
  text
    | .lengthMismatch read write =>
      "SD: CSD read/write block length mismatch (" ++ toString read ++ " vs " ++ toString write ++ ")"
    | .lengthUnsupported log => "SD: CSD block length 2^" ++ toString log ++ " not supported"
    | .tooLarge => "SD: card too large for 32-bit sector numbers"

end SpiDisk
