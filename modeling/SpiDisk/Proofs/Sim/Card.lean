import SpiDisk.Bench.SimCard

/-!
# `SpiDisk.Proofs.Sim.Card` — the simulated card, byte by byte

What a simulated card notes about its dealings never decides what it does, so its behaviour is
described by its `core`. Bytes that are pending come out as they are, and a frame that comes in whole
is executed as the command it stands for.

## Contents
- **Output.** `next`, one byte out, and what pending bytes and a busy card come to.
- **Answers.** `poll`, the card's side of waiting for an answer.
- **Commands.** `receiveMany_frame` and `accept_frame`, from six bytes to the command executed.
-/

namespace SpiDisk

/-- What is left of being busy after so many bytes. -/
def Busy.less : Busy → Nat → Busy
  | .bytes count, done => .bytes (count - done)
  | .forever, _ => .forever

namespace SimCard

/-- A card without what it noted. -/
def core (card : SimCard) : SimCard :=
  { card with log := {} }

/-! ## Output -/

/-- The byte that is read next; a card that is not selected leaves the line idle. -/
def next (card : SimCard) : UInt8 × SimCard :=
  if card.selected then card.transmit else (idleByte, card)

theorem transmitMany_succ (card : SimCard) (count : Nat) :
    card.transmitMany (count + 1) =
      (card.next.1 :: (card.next.2.transmitMany count).1, (card.next.2.transmitMany count).2) :=
  rfl

/-- The card with other notes about its dealings. -/
def relog (card : SimCard) (log : SimLog) : SimCard :=
  { card with log }

/-- Output does not depend on what was noted, and nothing is noted about it. -/
theorem transmit_relog (card : SimCard) (log : SimLog) :
    (card.relog log).transmit = (card.transmit.1, card.transmit.2.relog log) := by
  unfold transmit
  rw [show (card.relog log).out = card.out from rfl,
    show (card.relog log).busy = card.busy from rfl,
    show (card.relog log).stream = card.stream from rfl]
  cases card.out with
  | cons byte rest => rfl
  | nil =>
    cases card.busy with
    | forever => rfl
    | bytes count =>
      cases count with
      | succ count => rfl
      | zero =>
        cases card.stream with
        | some lba => rfl
        | none => rfl

theorem next_relog (card : SimCard) (log : SimLog) :
    (card.relog log).next = (card.next.1, card.next.2.relog log) := by
  unfold next
  rw [show (card.relog log).selected = card.selected from rfl]
  cases card.selected with
  | false => rfl
  | true => exact transmit_relog card log

theorem transmitMany_relog (card : SimCard) (log : SimLog) (count : Nat) :
    (card.relog log).transmitMany count =
      ((card.transmitMany count).1, (card.transmitMany count).2.relog log) := by
  induction count generalizing card with
  | zero => rfl
  | succ count ih => rw [transmitMany_succ, transmitMany_succ, next_relog, ih]

theorem next_core (card : SimCard) : card.core.next = (card.next.1, card.next.2.core) :=
  next_relog card {}

theorem transmitMany_core (card : SimCard) (count : Nat) :
    card.core.transmitMany count =
      ((card.transmitMany count).1, (card.transmitMany count).2.core) :=
  transmitMany_relog card {} count

theorem next_of_unselected {card : SimCard} (h : card.selected = false) :
    card.next = (idleByte, card) := by
  rw [next, h]
  rfl

theorem transmitMany_of_unselected {card : SimCard} (h : card.selected = false) (count : Nat) :
    card.transmitMany count = (List.replicate count idleByte, card) := by
  induction count with
  | zero => rfl
  | succ count ih => rw [transmitMany_succ, next_of_unselected h, ih, List.replicate_succ]

/-- The card with other output pending. -/
def saying (card : SimCard) (out : List UInt8) : SimCard :=
  { card with out }

/-- What is pending comes out first. -/
theorem next_of_out {card : SimCard} (h : card.selected = true) {byte : UInt8} {rest : List UInt8}
    (hout : card.out = byte :: rest) : card.next = (byte, card.saying rest) := by
  rw [next, if_pos h, transmit, hout, saying]

theorem transmitMany_of_out {card : SimCard} (h : card.selected = true) {bytes rest : List UInt8}
    (hout : card.out = bytes ++ rest) :
    card.transmitMany bytes.length = (bytes, card.saying rest) := by
  induction bytes generalizing card with
  | nil =>
    rw [List.nil_append] at hout
    rw [← hout]
    rfl
  | cons byte bytes ih =>
    rw [List.cons_append] at hout
    have hrest : (card.saying (bytes ++ rest)).transmitMany bytes.length =
        (bytes, card.saying rest) := ih h rfl
    rw [List.length_cons, transmitMany_succ, next_of_out h hout, hrest]

theorem next_saying {card : SimCard} (h : card.selected = true) (byte : UInt8)
    (rest : List UInt8) : (card.saying (byte :: rest)).next = (byte, card.saying rest) := by
  have h : (card.saying (byte :: rest)).selected = true := h
  exact next_of_out h rfl

theorem transmitMany_saying {card : SimCard} (h : card.selected = true) (bytes rest : List UInt8) :
    (card.saying (bytes ++ rest)).transmitMany bytes.length = (bytes, card.saying rest) := by
  have h : (card.saying (bytes ++ rest)).selected = true := h
  exact transmitMany_of_out h rfl

/-- A card with nothing to say leaves the line idle. -/
theorem next_of_silent {card : SimCard} (hout : card.out = []) (hbusy : card.busy = .bytes 0)
    (hstream : card.stream = none) : card.next = (idleByte, card) := by
  unfold next transmit
  rw [hout, hbusy, hstream]
  split
  · rfl
  · rfl

/-- A busy card pulls the line low, for one byte less each time. -/
theorem next_of_busy {card : SimCard} (h : card.selected = true) (hout : card.out = [])
    {count : Nat} (hbusy : card.busy = .bytes (count + 1)) :
    card.next = (0x00, { card with busy := .bytes count }) := by
  rw [next, if_pos h, transmit, hout, hbusy]

/-- A running read goes on with the next sector behind an idle byte. -/
theorem next_of_stream {card : SimCard} (h : card.selected = true) (hout : card.out = [])
    (hbusy : card.busy = .bytes 0) {lba : UInt32} (hstream : card.stream = some lba) :
    card.next = (idleByte, { card with stream := some (lba + 1), out := card.blockBytes lba }) := by
  rw [next, if_pos h, transmit, hout, hbusy, hstream]

/-- The card after so many bytes were read. -/
def after (card : SimCard) (count : Nat) : SimCard :=
  (card.transmitMany count).2

/-- The byte that is read after so many others. -/
def heard (card : SimCard) (count : Nat) : UInt8 :=
  (card.after count).next.1

theorem after_succ (card : SimCard) (count : Nat) :
    card.after (count + 1) = (card.after count).next.2 := by
  induction count generalizing card with
  | zero => rfl
  | succ count ih => exact ih card.next.2

theorem heard_succ (card : SimCard) (count : Nat) :
    card.heard (count + 1) = card.next.2.heard count :=
  rfl

/-- A card that says nothing, and has nothing to say. -/
structure Silent (card : SimCard) : Prop where
  out : card.out = []
  busy : card.busy = .bytes 0
  stream : card.stream = none

theorem Silent.next {card : SimCard} (h : card.Silent) : card.next = (idleByte, card) :=
  next_of_silent h.out h.busy h.stream

/-- The card being busy for another time. -/
def waiting (card : SimCard) (busy : Busy) : SimCard :=
  { card with busy }

theorem Silent.waiting {card : SimCard} (h : card.Silent) (done : Nat) :
    card.waiting (card.busy.less done) = card := by
  have hless : card.busy.less done = card.busy := by simp [h.busy, Busy.less]
  rw [hless]
  rfl

/-- A byte of a card that is only busy: low while it is, idle when it is no longer. -/
theorem next_of_waiting {card : SimCard} (h : card.selected = true) (hout : card.out = [])
    (hstream : card.stream = none) :
    card.next = (if card.busy = .bytes 0 then idleByte else 0x00, card.waiting (card.busy.less 1)) := by
  cases hbusy : card.busy with
  | forever =>
    have hsame : card.waiting .forever = card := by rw [waiting, ← hbusy]
    rw [Busy.less, hsame, next, if_pos h, transmit, hout, hbusy]
    rfl
  | bytes count =>
    cases count with
    | zero =>
      have hsame : card.waiting (.bytes 0) = card := by rw [waiting, ← hbusy]
      rw [Busy.less, hsame, next_of_silent hout hbusy hstream]
      rfl
    | succ count =>
      rw [next_of_busy h hout hbusy]
      rfl

theorem less_less (busy : Busy) (m n : Nat) : (busy.less m).less n = busy.less (m + n) := by
  cases busy with
  | forever => rfl
  | bytes count => simp [Busy.less, Nat.sub_sub]

/-- A card that is only busy does nothing but become less so. -/
theorem after_of_waiting {card : SimCard} (h : card.selected = true) (hout : card.out = [])
    (hstream : card.stream = none) (count : Nat) :
    card.after count = card.waiting (card.busy.less count) := by
  induction count with
  | zero =>
    have hsame : card.busy.less 0 = card.busy := by cases card.busy <;> rfl
    rw [hsame]
    rfl
  | succ count ih =>
    have hnext : (card.waiting (card.busy.less count)).next = _ := next_of_waiting h hout hstream
    rw [after_succ, ih, hnext, ← less_less]
    rfl

/-- The first idle byte tells that the card is no longer busy. -/
theorem heard_of_waiting {card : SimCard} (h : card.selected = true) (hout : card.out = [])
    (hstream : card.stream = none) (count : Nat) :
    card.heard count = idleByte ↔ card.busy.less count = .bytes 0 := by
  have hnext : (card.waiting (card.busy.less count)).next = _ := next_of_waiting h hout hstream
  rw [heard, after_of_waiting h hout hstream, hnext]
  show (if card.busy.less count = .bytes 0 then idleByte else 0x00) = idleByte ↔ _
  split
  · exact ⟨fun _ => ‹_›, fun _ => rfl⟩
  · exact ⟨fun hno => absurd hno (by decide), fun hno => absurd hno ‹_›⟩

/-! ## Answers -/

theorem not_isAnswer_idleByte : ¬ R1.isAnswer idleByte = true := by decide

/-- Read until a byte is an answer, but no more than `polls` bytes. -/
def poll : Nat → SimCard → UInt8 × SimCard
  | 0, card => (idleByte, card)
  | polls + 1, card =>
    if R1.isAnswer card.next.1 then card.next
    else if polls = 0 then card.next
    else poll polls card.next.2

/-- An answer behind a gap that is short enough is found. -/
theorem poll_of_gap {polls gap : Nat} (hgap : gap < polls) {card : SimCard}
    (h : card.selected = true) {r1 : UInt8} {rest : List UInt8} (hanswer : R1.isAnswer r1 = true)
    (hout : card.out = List.replicate gap idleByte ++ r1 :: rest) :
    card.poll polls = (r1, card.saying rest) := by
  induction gap generalizing polls card with
  | zero =>
    obtain ⟨polls, rfl⟩ : ∃ more, polls = more + 1 := ⟨polls - 1, by omega⟩
    rw [poll, next_of_out h hout, if_pos hanswer]
  | succ gap ih =>
    obtain ⟨polls, rfl⟩ : ∃ more, polls = more + 1 := ⟨polls - 1, by omega⟩
    rw [List.replicate_succ, List.cons_append] at hout
    have hrest : (card.saying (List.replicate gap idleByte ++ r1 :: rest)).poll polls =
        (r1, card.saying rest) := ih (by omega) h rfl
    rw [poll, next_of_out h hout, if_neg not_isAnswer_idleByte, if_neg (by omega), hrest]

/-- An answer behind a longer gap is not found. -/
theorem poll_of_long_gap {polls gap : Nat} (hpolls : polls ≤ gap) {card : SimCard}
    (h : card.selected = true) {rest : List UInt8}
    (hout : card.out = List.replicate gap idleByte ++ rest) : (card.poll polls).1 = idleByte := by
  induction polls generalizing gap card with
  | zero => rfl
  | succ polls ih =>
    obtain ⟨gap, rfl⟩ : ∃ more, gap = more + 1 := ⟨gap - 1, by omega⟩
    rw [List.replicate_succ, List.cons_append] at hout
    rw [poll, next_of_out h hout, if_neg not_isAnswer_idleByte]
    split
    · rfl
    · exact ih (Nat.le_of_succ_le_succ hpolls) (show (card.saying _).selected = true from h) rfl

theorem poll_of_silent {card : SimCard} (hout : card.out = []) (hbusy : card.busy = .bytes 0)
    (hstream : card.stream = none) (polls : Nat) : card.poll polls = (idleByte, card) := by
  induction polls with
  | zero => rfl
  | succ polls ih =>
    rw [poll, next_of_silent hout hbusy hstream, if_neg not_isAnswer_idleByte]
    split
    · rfl
    · exact ih

/-! ## Commands -/

theorem pollInit_relog (card : SimCard) (log : SimLog) :
    (card.relog log).pollInit = card.pollInit.relog log := by
  unfold pollInit
  rw [show (card.relog log).pollsLeft = card.pollsLeft from rfl]
  cases card.pollsLeft with
  | zero => rfl
  | succ polls => rfl

/-- No command looks at what was noted, or notes anything itself. -/
theorem execute_relog (card : SimCard) (log : SimLog) (index : UInt8) (argument : UInt32)
    (app : Bool) :
    (card.relog log).execute index argument app = (card.execute index argument app).relog log := by
  unfold execute
  rw [show (card.relog log).isVersion2 = card.isVersion2 from rfl,
    show (card.relog log).knobs = card.knobs from rfl,
    show (card.relog log).kind = card.kind from rfl]
  split
  all_goals first
    | rfl
    | split
      · first | rfl | exact pollInit_relog card log
      · rfl

theorem core_execute (card : SimCard) (index : UInt8) (argument : UInt32) (app : Bool) :
    (card.execute index argument app).core = (card.core.execute index argument app).core :=
  (congrArg core (execute_relog card {} index argument app)).symm

theorem execute_congr {card other : SimCard} (h : card.core = other.core) (index : UInt8)
    (argument : UInt32) (app : Bool) :
    (card.execute index argument app).core = (other.execute index argument app).core := by
  rw [core_execute, h, ← core_execute]

/-- What a card is made of and what was written to it: all but the state of its dealings. -/
def media (card : SimCard) : SimCard where
  kind := card.kind
  cid := card.cid
  csd := card.csd
  knobs := card.knobs
  writeAttempts := card.writeAttempts
  storage := card.storage

theorem kind_of_media {card other : SimCard} (h : card.media = other.media) :
    card.kind = other.kind :=
  show card.media.kind = other.media.kind from congrArg kind h

theorem knobs_of_media {card other : SimCard} (h : card.media = other.media) :
    card.knobs = other.knobs :=
  show card.media.knobs = other.media.knobs from congrArg knobs h

theorem cid_of_media {card other : SimCard} (h : card.media = other.media) : card.cid = other.cid :=
  show card.media.cid = other.media.cid from congrArg cid h

theorem csd_of_media {card other : SimCard} (h : card.media = other.media) : card.csd = other.csd :=
  show card.media.csd = other.media.csd from congrArg csd h

theorem isVersion2_of_media {card other : SimCard} (h : card.media = other.media) :
    card.isVersion2 = other.isVersion2 := by
  unfold isVersion2
  rw [kind_of_media h]

/-- No command writes anything by itself, selects the card or keeps it busy. -/
theorem execute_kept (card : SimCard) (index : UInt8) (argument : UInt32) (app : Bool) :
    (card.execute index argument app).media = card.media ∧
      (card.execute index argument app).selected = card.selected ∧
      (card.execute index argument app).busy = card.busy := by
  unfold execute pollInit
  split
  all_goals first
    | exact ⟨rfl, rfl, rfl⟩
    | split
      · first
        | exact ⟨rfl, rfl, rfl⟩
        | split <;> exact ⟨rfl, rfl, rfl⟩
      · exact ⟨rfl, rfl, rfl⟩

/-- Behind every command but a write the card waits for the next one. -/
theorem phase_execute (card : SimCard) {index : UInt8} (hone : index ≠ 24) (hmany : index ≠ 25)
    (argument : UInt32) (app : Bool) :
    (card.execute index argument app).phase = card.phase := by
  have hone' : index.toNat ≠ 24 := fun h => hone (UInt8.toNat_inj.mp h)
  have hmany' : index.toNat ≠ 25 := fun h => hmany (UInt8.toNat_inj.mp h)
  unfold execute pollInit
  split
  all_goals first
    | rfl
    | split
      · first
        | rfl
        | split <;> rfl
      · rfl
    | contradiction

/-- Behind every command the card takes what comes for what it did before, or for a token. -/
theorem phase_execute_cases (card : SimCard) (index : UInt8) (argument : UInt32) (app : Bool) :
    (card.execute index argument app).phase = card.phase ∨
      ∃ lba multi, (card.execute index argument app).phase = .token lba multi := by
  by_cases hone : index = 24
  · subst hone
    exact .inr ⟨_, _, rfl⟩
  by_cases hmany : index = 25
  · subst hmany
    exact .inr ⟨_, _, rfl⟩
  · exact .inl (phase_execute card hone hmany argument app)

theorem core_accept (card : SimCard) (frame : List UInt8) :
    (card.accept frame).core = (card.core.accept frame).core := by
  unfold accept
  dsimp only
  rw [show card.core.knobs = card.knobs from rfl]
  split
  · rfl
  · split
    · refine execute_congr ?_ _ _ _
      rfl
    · rfl

theorem accept_congr {card other : SimCard} (h : card.core = other.core) (frame : List UInt8) :
    (card.accept frame).core = (other.accept frame).core := by
  rw [core_accept, h, ← core_accept]

theorem accept_kept (card : SimCard) (frame : List UInt8) :
    (card.accept frame).media = card.media ∧ (card.accept frame).selected = card.selected ∧
      (card.accept frame).busy = card.busy := by
  unfold accept
  dsimp only
  split
  · exact ⟨rfl, rfl, rfl⟩
  · split
    · exact execute_kept _ _ _ _
    · exact ⟨rfl, rfl, rfl⟩

/-- The card taking the next byte for something else. -/
def taking (card : SimCard) (phase : Phase) : SimCard :=
  { card with phase }

theorem core_receive (card : SimCard) (byte : UInt8) :
    (card.receive byte).core = (card.core.receive byte).core := by
  unfold receive
  rw [show card.core.phase = card.phase from rfl]
  cases card.phase with
  | command frame =>
    dsimp only
    split
    · rfl
    · split
      · refine accept_congr ?_ _
        rfl
      · rfl
  | token lba multi =>
    dsimp only
    generalize (if multi = true then Token.startMultiWrite else Token.startBlock) = start
    split
    · rfl
    · split
      · rfl
      · rfl
  | block lba multi data =>
    dsimp only
    split
    · rfl
    · unfold store
      dsimp only
      rw [show card.core.knobs = card.knobs from rfl,
        show card.core.writeAttempts = card.writeAttempts from rfl]
      split
      · rfl
      · rfl

theorem receive_congr {card other : SimCard} (h : card.core = other.core) (byte : UInt8) :
    (card.receive byte).core = (other.receive byte).core := by
  rw [core_receive, h, ← core_receive]

theorem core_foldl_receive (bytes : List UInt8) {card other : SimCard}
    (h : card.core = other.core) :
    (bytes.foldl receive card).core = (bytes.foldl receive other).core := by
  induction bytes generalizing card other with
  | nil => exact h
  | cons byte rest ih => exact ih (receive_congr h byte)

theorem selected_receive (card : SimCard) (byte : UInt8) :
    (card.receive byte).selected = card.selected := by
  unfold receive
  cases card.phase with
  | command frame =>
    dsimp only
    split
    · rfl
    · split
      · exact (accept_kept _ _).2.1
      · rfl
  | token lba multi =>
    dsimp only
    generalize (if multi = true then Token.startMultiWrite else Token.startBlock) = start
    split
    · rfl
    · split
      · rfl
      · rfl
  | block lba multi data =>
    dsimp only
    split
    · rfl
    · unfold store
      dsimp only
      split
      · rfl
      · rfl

theorem receiveMany_nil (card : SimCard) : card.receiveMany [] = card := by
  unfold receiveMany
  split
  · rfl
  · rfl

/-- Bytes that come one by one are taken as if they came together. -/
theorem receiveMany_cons (card : SimCard) (byte : UInt8) (rest : List UInt8) :
    card.receiveMany (byte :: rest) = (card.receiveMany [byte]).receiveMany rest := by
  unfold receiveMany
  cases h : card.selected with
  | false => simp [h]
  | true => simp [selected_receive, h]

theorem receiveMany_congr {card other : SimCard} (h : card.core = other.core)
    (bytes : List UInt8) : (card.receiveMany bytes).core = (other.receiveMany bytes).core := by
  have hselected : card.selected = other.selected :=
    show card.core.selected = other.core.selected from congrArg selected h
  unfold receiveMany
  rw [hselected]
  split
  · exact core_foldl_receive bytes h
  · exact h

theorem core_receiveMany (card : SimCard) (bytes : List UInt8) :
    (card.core.receiveMany bytes).core = (card.receiveMany bytes).core :=
  receiveMany_congr (show card.core.core = card.core from rfl) bytes

theorem receiveMany_of_selected {card : SimCard} (h : card.selected = true) (bytes : List UInt8) :
    card.receiveMany bytes = bytes.foldl receive card :=
  if_pos h

theorem receiveMany_of_unselected {card : SimCard} (h : card.selected = false)
    (bytes : List UInt8) : card.receiveMany bytes = card := by
  rw [receiveMany, h]
  rfl

theorem receive_first {card : SimCard} (hphase : card.phase = .command []) {byte : UInt8}
    (hstart : byte &&& 0xC0 = 0x40) : card.receive byte = card.taking (.command [byte]) := by
  unfold receive
  rw [hphase]
  simp [hstart, taking]

theorem foldl_receive_inner (card : SimCard) {frame : List UInt8} (hfirst : frame ≠ [])
    (bytes : List UInt8) (hlength : frame.length + bytes.length ≤ 5) :
    bytes.foldl receive (card.taking (.command frame)) = card.taking (.command (frame ++ bytes)) := by
  induction bytes generalizing frame with
  | nil => rw [List.foldl_nil, List.append_nil]
  | cons byte bytes ih =>
    rw [List.length_cons] at hlength
    have hnext : (card.taking (.command frame)).receive byte =
        card.taking (.command (frame ++ [byte])) := by
      have hshort : frame.length ≠ 5 := by omega
      simp [receive, taking, hfirst, hshort]
    have hmore : (frame ++ [byte]).length + bytes.length ≤ 5 := by
      rw [List.length_append, List.length_singleton]
      omega
    rw [List.foldl_cons, hnext, ih (by simp) hmore, List.append_assoc, List.singleton_append]

theorem receive_last (card : SimCard) {frame : List UInt8} (hlength : frame.length = 5)
    (byte : UInt8) :
    (card.taking (.command frame)).receive byte =
      (card.taking (.command [])).accept (frame ++ [byte]) := by
  have hfirst : frame ≠ [] := by
    intro hnil
    rw [hnil] at hlength
    cases hlength
  simp [receive, taking, hfirst, hlength]

/-- Six bytes that begin like a command are taken for one. -/
theorem receiveMany_frame {card : SimCard} (h : card.selected = true)
    (hphase : card.phase = .command []) {index : UInt8} (hindex : (0x40 ||| index) &&& 0xC0 = 0x40)
    (argument : UInt32) :
    card.receiveMany (Command.frame index argument) = card.accept (Command.frame index argument) := by
  have hsame : card.taking (.command []) = card := by rw [taking, ← hphase]
  have hframe : Command.frame index argument =
      (0x40 ||| index) :: (Command.argumentBytes argument ++ [Command.checksum index]) := rfl
  have hinner : [0x40 ||| index].length + (Command.argumentBytes argument).length ≤ 5 := Nat.le_refl 5
  rw [receiveMany_of_selected h, hframe, List.foldl_cons, receive_first hphase hindex,
    List.foldl_append, foldl_receive_inner card (by simp) _ hinner, List.foldl_cons,
    List.foldl_nil, receive_last card rfl, hsame]
  rfl

theorem argumentOf_argumentBytes (argument : UInt32) :
    argumentOf (Command.argumentBytes argument) = argument := by
  apply UInt32.toBitVec_inj.mp
  simp only [argumentOf, Command.argumentBytes, List.foldl_cons, List.foldl_nil]
  ext i hi
  simp only [UInt32.toBitVec_or, UInt32.toBitVec_shiftLeft, UInt8.toBitVec_toUInt32,
    UInt32.toBitVec_toUInt8, UInt32.toBitVec_shiftRight]
  simp
  rw [← BitVec.getLsbD_eq_getElem]
  by_cases h8 : i < 8
  · simp [h8]
  by_cases h16 : i - 8 < 8
  · simp [h8, h16, show 8 + (i - 8) = i by omega]
  by_cases h24 : i - 8 - 8 < 8
  · simp [h8, h16, h24, show 16 + (i - 8 - 8) = i by omega]
  · simp [h8, h16, h24, show i - 8 - 8 - 8 < 8 by omega, show 24 + (i - 8 - 8 - 8) = i by omega]

/-- A card that is there executes the command that a frame stands for; an announced application
    command is one no longer after the next command. -/
theorem accept_frame {card : SimCard} (hpresent : card.knobs.present = true) {index : UInt8}
    (hindex : (0x40 ||| index) &&& 0x3F = index) (argument : UInt32) :
    (card.accept (Command.frame index argument)).core =
      (execute { card with appPending := false } index argument card.appPending).core := by
  have hargument : ((Command.frame index argument).drop 1).take 4 =
      Command.argumentBytes argument := rfl
  have hfirst : (Command.frame index argument).headD 0 &&& 0x3F = index := hindex
  have hlast : (Command.frame index argument).getD 5 0 = Command.checksum index := rfl
  have hcrc : checksumOk index (Command.checksum index) = true := by
    unfold checksumOk Command.checksum
    split
    · rfl
    · split
      · rfl
      · rfl
  unfold accept
  simp only [hargument, argumentOf_argumentBytes, hfirst, hlast, hcrc, hpresent, Bool.not_true,
    Bool.false_eq_true, if_false, if_true]
  refine execute_congr ?_ _ _ _
  rfl

/-- A slot without a card says nothing. -/
theorem accept_absent {card : SimCard} (habsent : card.knobs.present = false)
    (frame : List UInt8) : (card.accept frame).core = { card.core with appPending := false } := by
  unfold accept
  simp only [habsent, Bool.not_false, if_true]
  rfl

/-! ## Selecting -/

/-- The card after it was de-selected: every transaction is at its end. -/
def rested (card : SimCard) : SimCard :=
  { card with selected := false, out := [], phase := .command [], stream := none }

/-- The card selected and found ready. -/
def listening (card : SimCard) : SimCard :=
  { card with selected := true, busy := .bytes 0 }

theorem core_pause (card : SimCard) : card.pause.core = card.core := rfl

theorem core_select {mask : UInt8} (h : mask ≠ 0) (card : SimCard) :
    (card.select mask).core = { card.core with selected := true } := by
  unfold select
  dsimp only
  rw [if_neg h]
  rfl

end SimCard

end SpiDisk
