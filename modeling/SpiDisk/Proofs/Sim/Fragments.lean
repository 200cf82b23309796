import SpiDisk.Proofs.Sim.Sectors

/-!
# `SpiDisk.Proofs.Sim.Fragments` — what a card makes of a block of which bytes were lost

A card that waits for a block takes whatever comes in for tokens, data or even commands, so bytes that
follow a lost token may set off anything that the card can do. Two facts bound the harm. A block is
stored only behind a token and all of its bytes, which no shorter run of bytes makes up; and whatever
the card says in answer to other things, its first byte is not the one that tells of a block accepted.

## Contents
- **Mute cards.** `Mute`, a card that is not going to say that it accepted a block, and what keeps it
  so: `Mute.execute`, `Mute.accept`.
- **Starved cards.** `Starved`, a card that was fed too little for a block, and `Starved.foldl`.
- **Fragments.** `not_accepts_fragment`.
-/

namespace SpiDisk

namespace SimCard

/-! ## Mute cards -/

/-- The first byte of what the card is going to say does not tell of a block accepted, and a card
    with nothing to say is out of its idle state. -/
structure Mute (card : SimCard) : Prop where
  first : ∀ byte ∈ card.out.head?, Token.accepts byte = false
  ready : card.out = [] → card.idle = false

/-- A card is mute by what it is going to say and by its idle state alone. -/
theorem Mute.of_same {card other : SimCard} (h : card.Mute) (hout : other.out = card.out)
    (hidle : other.idle = card.idle) : other.Mute where
  first byte hbyte := h.first byte (by rwa [hout] at hbyte)
  ready hnothing := hidle.trans (h.ready (hout.symm.trans hnothing))

/-- A mute card that is read from says nothing that tells of a block accepted. -/
theorem Mute.next {card : SimCard} (h : card.Mute) : Token.accepts card.next.1 = false := by
  have hidle : Token.accepts idleByte = false := by decide
  have hbusy : Token.accepts 0x00 = false := by decide
  unfold SimCard.next
  split
  · cases hout : card.out with
    | cons byte rest =>
      simpa [transmit, hout] using h.first byte (by simp [hout])
    | nil =>
      -- with nothing pending the line is low while the card is busy, and idle otherwise
      unfold transmit
      rw [hout]
      split
      · contradiction
      · split
        · exact hbusy
        · exact hbusy
        · split
          · exact hidle
          · exact hidle
  · exact hidle

/-- An answer goes behind what is pending, and behind the gap. -/
theorem Mute.respond {card other : SimCard} (h : card.Mute) (hsame : other.out = card.out)
    {r1 : UInt8} {rest : List UInt8}
    (hr1 : card.out = [] → Token.accepts r1 = false) :
    (other.respond (r1 :: rest)).Mute := by
  have hpending : (other.respond (r1 :: rest)).out =
      card.out ++ List.replicate other.knobs.responseGap idleByte ++ (r1 :: rest) := by
    rw [← hsame]
    rfl
  constructor
  · intro byte hbyte
    rw [hpending] at hbyte
    cases hout : card.out with
    | cons first more => exact h.first byte (by simpa [hout] using hbyte)
    | nil =>
      -- with nothing pending it is the gap that comes first, if there is one
      rw [hout] at hbyte
      cases hgap : other.knobs.responseGap with
      | zero =>
        have hfirst : r1 = byte := by simpa [hgap] using hbyte
        exact hfirst ▸ hr1 hout
      | succ gap =>
        have hfirst : idleByte = byte := by simpa [hgap, List.replicate_succ] using hbyte
        rw [← hfirst]
        decide
  · intro hnothing
    simp [hpending] at hnothing

/-- What is appended to an answer does not come first. -/
theorem Mute.emit {card : SimCard} (h : card.Mute) (hout : card.out ≠ []) (bytes : List UInt8) :
    (card.emit bytes).Mute := by
  have hpending : (card.emit bytes).out = card.out ++ bytes := rfl
  constructor
  · intro byte hbyte
    rw [hpending, List.head?_append] at hbyte
    cases hsaid : card.out with
    | nil => exact absurd hsaid hout
    | cons first more => exact h.first byte (by simpa [hsaid] using hbyte)
  · intro hnothing
    rw [hpending] at hnothing
    exact absurd (List.append_eq_nil_iff.mp hnothing).1 hout

theorem out_respond_ne (card : SimCard) (r1 : UInt8) (rest : List UInt8) :
    (card.respond (r1 :: rest)).out ≠ [] := by
  simp [respond]

/-- The status of a mute card with nothing to say does not tell of a block accepted. -/
theorem Mute.accepts_status {card : SimCard} (h : card.Mute) (hout : card.out = []) :
    Token.accepts card.status = false ∧ Token.accepts card.illegal = false ∧
      Token.accepts (card.status ||| 0x08) = false := by
  have hready : card.status = R1.ready := by simp [status, h.ready hout]
  unfold illegal
  rw [hready]
  decide

theorem Mute.pollInit {card : SimCard} (h : card.Mute) : card.pollInit.Mute := by
  unfold SimCard.pollInit
  split
  · exact h.respond (by rfl) (fun _ => by decide)
  · exact h.respond (by rfl) (fun _ => by decide)

theorem Mute.respondRegister {card : SimCard} (h : card.Mute) (register : List UInt8) :
    (card.respondRegister register).Mute :=
  (h.respond (by rfl) (fun _ => by decide) : (card.respond [R1.ready]).Mute).emit
    (out_respond_ne card R1.ready []) _

/-- **No command** makes a mute card say that it accepted a block: what is pending stays in front, and
    the stop command puts a byte there that means nothing. -/
theorem Mute.execute {card : SimCard} (h : card.Mute) (index : UInt8) (argument : UInt32)
    (app : Bool) : (card.execute index argument app).Mute := by
  have hready : Token.accepts R1.ready = false := by decide
  have hidle : Token.accepts R1.idle = false := by decide
  have hillegal : (card.respond [card.illegal]).Mute :=
    h.respond (by rfl) (fun hout => (h.accepts_status hout).2.1)
  have hstatus : ∀ rest, (card.respond (card.status :: rest)).Mute := fun rest =>
    h.respond (by rfl) (fun hout => (h.accepts_status hout).1)
  -- one case for each command that the card knows, and one for all others
  unfold SimCard.execute
  split
  · exact h.respond (by rfl) (fun _ => hidle)
  · split
    · exact hstatus _
    · exact hillegal
  · split
    · exact hillegal
    · exact h.respond (by rfl) (fun hout => (h.accepts_status hout).1)
  · split
    · exact h.pollInit
    · exact hillegal
  · split
    · exact h.pollInit
    · exact hillegal
  · split
    · exact hillegal
    · exact hstatus _
  · refine h.respond (by rfl) (fun _ => ?_)
    split
    · decide
    · decide
  · exact h.respondRegister _
  · exact h.respondRegister _
  · exact ⟨by simp; decide, by simp⟩
  · exact (h.respond (by rfl) fun _ => hready : (card.respond [R1.ready]).Mute).emit
      (out_respond_ne card R1.ready []) _
  · exact h.respond (by rfl) (fun _ => hready)
  · split
    · exact h.respond (by rfl) (fun _ => hready)
    · exact hillegal
  · exact h.respond (by rfl) (fun _ => hready)
  · exact h.respond (by rfl) (fun _ => hready)
  · exact hillegal

theorem Mute.accept {card : SimCard} (h : card.Mute) (frame : List UInt8) :
    (card.accept frame).Mute := by
  unfold SimCard.accept
  dsimp only
  split
  · exact h.of_same rfl rfl
  split
  · refine Mute.execute ?_ _ _ _
    exact h.of_same rfl rfl
  · exact h.respond (by rfl) (fun hout => (h.accepts_status hout).2.2)

/-- A command that came in whole does not put the card into the middle of a block. -/
theorem phase_accept (card : SimCard) (frame : List UInt8) :
    (card.accept frame).phase = card.phase ∨
      ∃ lba multi, (card.accept frame).phase = .token lba multi := by
  unfold SimCard.accept
  dsimp only
  split
  · exact .inl rfl
  split
  · exact phase_execute_cases _ _ _ _
  · exact .inl rfl

/-! ## Starved cards -/

/-- A card in a write that was fed so many bytes, too few for a token and a block: it is mute, and has
    still room for a block that it may be taking in. -/
structure Starved (fed : Nat) (card : SimCard) : Prop where
  mute : card.Mute
  room : ∀ lba multi data, card.phase = .block lba multi data → data.length < fed

/-- A card that takes what comes for a command or a token is not in the middle of a block. -/
theorem Mute.starved {card : SimCard} (h : card.Mute) (fed : Nat)
    (hphase : ∀ lba multi data, card.phase ≠ .block lba multi data) : Starved fed card :=
  ⟨h, fun lba multi data hblock => absurd hblock (hphase lba multi data)⟩

/-- **One byte more** leaves a card starved as long as they do not make up a block. -/
theorem Starved.receive {fed : Nat} {card : SimCard} (h : Starved fed card)
    (hfew : fed < blockLength) (byte : UInt8) : Starved (fed + 1) (card.receive byte) := by
  unfold SimCard.receive
  cases hphase : card.phase with
  | command frame =>
    dsimp only
    split
    · refine h.mute.starved _ ?_
      simp [hphase]
    split
    · -- whatever command came in whole, it does not put the card into the middle of a block
      have hasked : Mute { card with phase := .command [] } := h.mute.of_same rfl rfl
      refine (hasked.accept _).starved _ ?_
      intro lba multi data hblock
      rcases phase_accept { card with phase := .command [] } (frame ++ [byte]) with
        hsame | ⟨other, many, htoken⟩
      · rw [hsame] at hblock
        cases hblock
      · rw [htoken] at hblock
        cases hblock
    · exact ⟨h.mute.of_same rfl rfl, fun _ _ _ => nofun⟩
  | token lba multi =>
    dsimp only
    by_cases htoken : byte = (if multi then Token.startMultiWrite else Token.startBlock)
    · rw [if_pos htoken]
      refine ⟨h.mute.of_same rfl rfl, ?_⟩
      rintro _ _ data hblock
      cases hblock
      exact Nat.succ_pos fed
    rw [if_neg htoken]
    split
    · exact ⟨h.mute.of_same rfl rfl, fun _ _ _ => nofun⟩
    · refine h.mute.starved _ ?_
      simp [hphase]
  | block lba multi data =>
    have hroom : data.length < fed := h.room lba multi data hphase
    have hmore : (byte :: data).length < blockLength := by
      rw [List.length_cons]
      omega
    dsimp only
    rw [if_pos hmore]
    refine ⟨h.mute.of_same rfl rfl, ?_⟩
    rintro _ _ _ hblock
    cases hblock
    rw [List.length_cons]
    omega

/-- Fewer bytes than a token and a block leave a card starved. -/
theorem Starved.foldl {fed : Nat} {card : SimCard} (h : Starved fed card) (bytes : List UInt8)
    (hfew : fed + bytes.length ≤ blockLength) :
    Starved (fed + bytes.length) (bytes.foldl SimCard.receive card) := by
  induction bytes generalizing fed card with
  | nil => exact h
  | cons byte rest ih =>
    rw [List.length_cons] at hfew ⊢
    have hrest := ih (h.receive (by omega) byte) (by omega)
    rw [Nat.add_assoc, Nat.add_comm 1] at hrest
    exact hrest

/-! ## Fragments -/

/-- **A fragment of a block** is never taken for the whole: a card that was ready for a block, and to
    which only some bytes of token, block and checksum came, does not say that it accepted one. -/
theorem not_accepts_fragment {card : SimCard} (hout : card.out = []) (hidle : card.idle = false)
    {lba : UInt32} {multi : Bool} (hphase : card.phase = .token lba multi) (bytes : List UInt8)
    (hfew : bytes.length ≤ blockLength) :
    Token.accepts (card.receiveMany bytes).next.1 = false := by
  have hmute : card.Mute := ⟨by simp [hout], fun _ => hidle⟩
  unfold receiveMany
  split
  · have hstarved : Starved 0 card := hmute.starved 0 (by simp [hphase])
    exact (hstarved.foldl bytes (by omega)).mute.next
  · exact hmute.next

end SimCard

end SpiDisk
