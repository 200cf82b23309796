import SpiDisk.Card.Identification

/-!
# `SpiDisk.Proofs.Outcome` — what is known of an operation's outcome

An operation either comes back with a result and a changed session, or never comes back. `Ensures`
says something of every outcome and is silent on an operation that does not come back; `Returns`
says that it does. The two are proved apart: what holds of an outcome by following the operation,
that there is one by a bound on its loops. `Throughout` says something of both kinds of run, also of
where one stands that does not come back; as the patience may be any, that is where a run stands after
any number of rounds of the loop that it does not get out of.

## Contents
- **Runs.** `bind_eq` and `within_eq`, by which a run is followed step by step.
- **Outcomes.** `Ensures` with one rule for each way in which operations are put together.
- **Coming back.** `Returns` and its rules; `Immediate`, what always comes back.
- **On the way.** `Throughout` and its rules, and from them those of `Ensures` for what may not come back:
  waits and the polling loop.
- **Courses.** `throughout_course_bind` and `ensures_course_bind`, the rules for exchanges that end at the
  first failure, `throughout_pollReady` for the wait for a card, and what it takes to get past the check
  of a size.
-/

namespace SpiDisk

namespace SessionM

variable {D E C α β : Type}

/-! ## Runs -/

theorem ext_advance {action action' : SessionM D C α}
    (h : ∀ s, action.advance s = action'.advance s) : action = action' :=
  congrArg SessionM.mk (funext h)

instance : LawfulMonad (SessionM D C) := by
  refine LawfulMonad.mk' _ (fun action => ?_) (fun _ _ => rfl) fun first next last => ?_
  · refine ext_advance fun s => ?_
    show (match action.advance s with
      | (some a, s') => (some a, s')
      | (none, s') => (none, s')) = _
    rcases action.advance s with ⟨_ | a, s'⟩
    · rfl
    · rfl
  · refine ext_advance fun s => ?_
    simp only [Bind.bind]
    rcases first.advance s with ⟨_ | a, s'⟩
    · rfl
    · rfl

/-- A run goes on behind its first part. -/
theorem bind_apply (first : SessionM D C α) (next : α → SessionM D C β) (s : Session D C) :
    (first >>= next) s = (first s).bind fun after => next after.1 after.2 := by
  simp only [outcome, bind]
  cases first.advance s with
  | mk result s' =>
    cases result with
    | none => rfl
    | some a => rfl

/-- A run that comes back has come back from both of its parts. -/
theorem bind_eq_some_iff {first : SessionM D C α} {next : α → SessionM D C β} {s : Session D C}
    {after : β × Session D C} : (first >>= next) s = some after ↔
      ∃ a s', first s = some (a, s') ∧ next a s' = some after := by
  rw [bind_apply, Option.bind_eq_some_iff, Prod.exists]

theorem bind_eq {first : SessionM D C α} {next : α → SessionM D C β} {s s' : Session D C} {a : α}
    (h : first s = some (a, s')) : (first >>= next) s = next a s' := by
  rw [bind_apply, h]
  rfl

theorem within_apply (part : D → E) (replace : D → E → D) (action : SessionM E C α)
    (s : Session D C) : within part replace action s =
      (action ⟨part s.device, s.env⟩).map fun after =>
        (after.1, ⟨replace s.device after.2.device, after.2.env⟩) := by
  cases hrun : action.advance ⟨part s.device, s.env⟩ with
  | mk result inner =>
    cases result with
    | none => simp [outcome, within, hrun]
    | some a => simp [outcome, within, hrun]

theorem within_eq {part : D → E} {replace : D → E → D} {action : SessionM E C α} {s : Session D C}
    {inner : Session E C} {a : α} (h : action ⟨part s.device, s.env⟩ = some (a, inner)) :
    within part replace action s = some (a, ⟨replace s.device inner.device, inner.env⟩) := by
  rw [within_apply, h]
  rfl

theorem act_apply (change : Session D C → α × Session D C) (s : Session D C) :
    act change s = some (change s) :=
  rfl

theorem waitMillis_apply [TickSource C] (patience : Nat) (ms : UInt32) (s : Session D C) :
    waitMillis patience ms s = (wait patience s.env.clock ms).map fun clock =>
      ((), { s with env.clock := clock }) := by
  simp only [outcome, waitMillis]
  cases wait patience s.env.clock ms with
  | none => rfl
  | some clock => rfl

/-! ## Outcomes -/

/-- Every outcome of `action`, begun in `s`, is as `post` says. -/
def Ensures (action : SessionM D C α) (s : Session D C) (post : α → Session D C → Prop) : Prop :=
  ∀ a s', action s = some (a, s') → post a s'

theorem ensures_pure {a : α} {s : Session D C} {post : α → Session D C → Prop} (h : post a s) :
    Ensures (pure a) s post := by
  intro b s' hrun
  cases hrun
  exact h

/-- **Sequence.** What comes second starts in an outcome of what came first. -/
theorem ensures_bind {first : SessionM D C α} {next : α → SessionM D C β} {s : Session D C}
    {post : β → Session D C → Prop}
    (h : Ensures first s fun a s' => Ensures (next a) s' post) :
    Ensures (first >>= next) s post := by
  intro b s'' hrun
  obtain ⟨a, s', hfirst, hnext⟩ := bind_eq_some_iff.mp hrun
  exact h a s' hfirst b s'' hnext

theorem Ensures.mono {action : SessionM D C α} {s : Session D C}
    {post post' : α → Session D C → Prop} (h : Ensures action s post)
    (himp : ∀ a s', post a s' → post' a s') : Ensures action s post' :=
  fun a s' hrun => himp a s' (h a s' hrun)

theorem Ensures.and {action : SessionM D C α} {s : Session D C}
    {post post' : α → Session D C → Prop} (h : Ensures action s post)
    (h' : Ensures action s post') : Ensures action s fun a s' => post a s' ∧ post' a s' :=
  fun a s' hrun => ⟨h a s' hrun, h' a s' hrun⟩

/-- Sequence, with what is known of the first part at hand. -/
theorem Ensures.bind {first : SessionM D C α} {next : α → SessionM D C β} {s : Session D C}
    {mid : α → Session D C → Prop} {post : β → Session D C → Prop} (h : Ensures first s mid)
    (hnext : ∀ a s', mid a s' → Ensures (next a) s' post) : Ensures (first >>= next) s post :=
  ensures_bind (h.mono hnext)

/-- Nothing need be known of an operation where any outcome will do. -/
theorem ensures_any {action : SessionM D C α} {s : Session D C}
    {post : α → Session D C → Prop} (h : ∀ a s', post a s') : Ensures action s post :=
  fun a s' _ => h a s'

/-- What has no outcome does not come back. -/
theorem eq_none_of_ensures {action : SessionM D C α} {s : Session D C}
    (h : Ensures action s fun _ _ => False) : action s = none :=
  Option.eq_none_iff_forall_ne_some.mpr fun after hrun => h after.1 after.2 hrun

theorem ensures_never {s : Session D C} {post : α → Session D C → Prop} :
    Ensures never s post := by
  intro a s' hrun
  cases hrun

theorem ensures_device {s : Session D C} {post : D → Session D C → Prop} (h : post s.device s) :
    Ensures device s post := by
  intro a s' hrun
  cases hrun
  exact h

theorem ensures_onDevice {change : D → α × D} {s : Session D C} {post : α → Session D C → Prop}
    (h : post (change s.device).1 { s with device := (change s.device).2 }) :
    Ensures (onDevice change) s post := by
  intro a s' hrun
  cases hrun
  exact h

theorem ensures_report {N : Type} [Diagnostic N] {event : N} {s : Session D C}
    {post : Unit → Session D C → Prop}
    (h : post () { s with env.log := s.env.log.report event }) : Ensures (report event) s post := by
  intro a s' hrun
  cases hrun
  exact h

/-- An operation of a part is judged on that part. -/
theorem ensures_within {part : D → E} {replace : D → E → D} {action : SessionM E C α}
    {s : Session D C} {post : α → Session D C → Prop}
    (h : Ensures action ⟨part s.device, s.env⟩
      fun a inner => post a ⟨replace s.device inner.device, inner.env⟩) :
    Ensures (within part replace action) s post := by
  intro a s' hrun
  rw [within_apply] at hrun
  obtain ⟨⟨b, inner⟩, hinner, heq⟩ := Option.map_eq_some_iff.mp hrun
  cases heq
  exact h _ _ hinner

section Clock

variable [TickSource C]

theorem ensures_startDeadline {ms : UInt32} {s : Session D C}
    {post : Deadline → Session D C → Prop}
    (h : post (Deadline.start s.env.clock ms).1
      { s with env.clock := (TickSource.now s.env.clock).2 }) :
    Ensures (startDeadline ms) s post := by
  intro a s' hrun
  cases hrun
  exact h

theorem ensures_hasPassed {deadline : Deadline} {s : Session D C}
    {post : Bool → Session D C → Prop}
    (h : post (deadline.reachedAt (TickSource.now s.env.clock).1)
      { s with env.clock := (TickSource.now s.env.clock).2 }) :
    Ensures (hasPassed deadline) s post := by
  intro a s' hrun
  cases hrun
  exact h

/-- A clock after so many readings. -/
def ticked : Nat → C → C
  | 0, clock => clock
  | readings + 1, clock => (TickSource.now (ticked readings clock)).2

theorem ticked_add (m n : Nat) (clock : C) : ticked (m + n) clock = ticked n (ticked m clock) := by
  induction n with
  | zero => rfl
  | succ n ih => rw [← Nat.add_assoc, ticked, ticked, ih]

/-- What one reading of the clock keeps, a wait keeps. -/
theorem waitFrom_induct {P : C → Prop} (hnow : ∀ clock, P clock → P (TickSource.now clock).2)
    {start ticks : UInt8} {patience : Nat} {clock clock' : C} (h : P clock)
    (hrun : waitFrom start ticks patience clock = some clock') : P clock' := by
  induction patience generalizing clock with
  | zero => cases hrun
  | succ patience ih =>
    simp only [waitFrom] at hrun
    split at hrun
    · exact ih (hnow _ h) hrun
    · cases hrun
      exact hnow _ h

end Clock

/-! ## Coming back -/

/-- `action`, begun in `s`, comes back. -/
def Returns (action : SessionM D C α) (s : Session D C) : Prop :=
  ∃ a s', action s = some (a, s')

theorem returns_pure {a : α} {s : Session D C} : Returns (pure a) s :=
  ⟨a, s, rfl⟩

theorem Returns.bind {first : SessionM D C α} {next : α → SessionM D C β} {s : Session D C}
    (h : Returns first s) (hnext : Ensures first s fun a s' => Returns (next a) s') :
    Returns (first >>= next) s := by
  obtain ⟨a, s', hfirst⟩ := h
  obtain ⟨b, s'', hrest⟩ := hnext a s' hfirst
  exact ⟨b, s'', bind_eq_some_iff.mpr ⟨a, s', hfirst, hrest⟩⟩

/-- Behind a part that comes back, come what may, the rest decides. -/
theorem Returns.then {first : SessionM D C α} {next : α → SessionM D C β} {s : Session D C}
    (h : Returns first s) (hnext : ∀ a s', Returns (next a) s') : Returns (first >>= next) s :=
  h.bind (ensures_any hnext)

theorem returns_device {s : Session D C} : Returns device s :=
  ⟨s.device, s, rfl⟩

theorem returns_onDevice {change : D → α × D} {s : Session D C} : Returns (onDevice change) s :=
  ⟨_, _, rfl⟩

theorem returns_report {N : Type} [Diagnostic N] {event : N} {s : Session D C} :
    Returns (report event) s :=
  ⟨_, _, rfl⟩

theorem returns_startDeadline [TickSource C] {ms : UInt32} {s : Session D C} :
    Returns (startDeadline ms) s :=
  ⟨_, _, rfl⟩

theorem returns_hasPassed [TickSource C] {deadline : Deadline} {s : Session D C} :
    Returns (hasPassed deadline) s :=
  ⟨_, _, rfl⟩

theorem returns_within {part : D → E} {replace : D → E → D} {action : SessionM E C α}
    {s : Session D C} (h : Returns action ⟨part s.device, s.env⟩) :
    Returns (within part replace action) s := by
  obtain ⟨a, inner, hinner⟩ := h
  exact ⟨a, _, within_eq hinner⟩

/-- Operations that always come back. -/
class Immediate (action : SessionM D C α) : Prop where
  returns : ∀ s, Returns action s

instance (a : α) : Immediate (pure a : SessionM D C α) :=
  ⟨fun _ => returns_pure⟩

instance : Immediate (device : SessionM D C D) :=
  ⟨fun _ => returns_device⟩

instance {N : Type} [Diagnostic N] (event : N) : Immediate (report event : SessionM D C Unit) :=
  ⟨fun _ => returns_report⟩

instance [TickSource C] (ms : UInt32) : Immediate (startDeadline ms : SessionM D C Deadline) :=
  ⟨fun _ => returns_startDeadline⟩

instance [TickSource C] (deadline : Deadline) : Immediate (hasPassed deadline : SessionM D C Bool) :=
  ⟨fun _ => returns_hasPassed⟩

/-! ## On the way -/

/-- Every outcome of `action`, begun in `s`, is as `post` says; and if it does not come back, `J` holds
    where it stands. -/
structure Throughout (J : Session D C → Prop) (action : SessionM D C α) (s : Session D C)
    (post : α → Session D C → Prop) : Prop where
  back : Ensures action s post
  stands : ∀ t, action.advance s = (none, t) → J t

variable {J : Session D C → Prop}

theorem outcome_eq_some_iff {action : SessionM D C α} {s s' : Session D C} {a : α} :
    action s = some (a, s') ↔ action.advance s = (some a, s') := by
  rw [outcome]
  cases action.advance s with
  | mk result t =>
    cases result with
    | none => simp
    | some b => simp

/-- What comes back stands nowhere else. -/
theorem Returns.throughout {action : SessionM D C α} {s : Session D C}
    {post : α → Session D C → Prop} (h : Returns action s) (hback : Ensures action s post) :
    Throughout J action s post where
  back := hback
  stands := by
    intro t hstands
    obtain ⟨a, s', hrun⟩ := h
    rw [outcome_eq_some_iff.mp hrun] at hstands
    cases hstands

theorem Ensures.whole {action : SessionM D C α} [h : Immediate action] {s : Session D C}
    {post : α → Session D C → Prop} (hback : Ensures action s post) :
    Throughout J action s post :=
  (h.returns s).throughout hback

/-- Of an operation that does not come back nothing need hold. -/
theorem Ensures.anyhow {action : SessionM D C α} {s : Session D C} {post : α → Session D C → Prop}
    (h : Ensures action s post) : Throughout (fun _ => True) action s post where
  back := h
  stands _ _ := trivial

theorem Throughout.weaken {J' : Session D C → Prop} {action : SessionM D C α} {s : Session D C}
    {post : α → Session D C → Prop} (h : Throughout J action s post) (himp : ∀ t, J t → J' t) :
    Throughout J' action s post where
  back := h.back
  stands t hstands := himp t (h.stands t hstands)

theorem Throughout.mono {action : SessionM D C α} {s : Session D C}
    {post post' : α → Session D C → Prop} (h : Throughout J action s post)
    (himp : ∀ a s', post a s' → post' a s') : Throughout J action s post' where
  back := h.back.mono himp
  stands := h.stands

theorem throughout_pure {a : α} {s : Session D C} {post : α → Session D C → Prop} (h : post a s) :
    Throughout J (pure a) s post :=
  (ensures_pure h).whole

theorem throughout_never {s : Session D C} {post : α → Session D C → Prop} (h : J s) :
    Throughout J never s post where
  back := ensures_never
  stands := by
    rintro t ⟨⟩
    exact h

/-- **Sequence.** A run that does not come back stands in its first part, or in what comes second. -/
theorem Throughout.bind {first : SessionM D C α} {next : α → SessionM D C β} {s : Session D C}
    {mid : α → Session D C → Prop} {post : β → Session D C → Prop} (h : Throughout J first s mid)
    (hnext : ∀ a s', mid a s' → Throughout J (next a) s' post) :
    Throughout J (first >>= next) s post where
  back := h.back.bind fun a s' hs' => (hnext a s' hs').back
  stands := by
    intro t hstands
    simp only [Bind.bind] at hstands
    cases hfirst : first.advance s with
    | mk result s' =>
      rw [hfirst] at hstands
      cases result with
      | none =>
        cases hstands
        exact h.stands _ hfirst
      | some a =>
        have hmid : mid a s' := h.back a s' (outcome_eq_some_iff.mpr hfirst)
        exact (hnext a s' hmid).stands t hstands

/-- Sequence, where the first part always comes back. -/
theorem throughout_bind {first : SessionM D C α} [Immediate first] {next : α → SessionM D C β}
    {s : Session D C} {post : β → Session D C → Prop}
    (h : Ensures first s fun a s' => Throughout J (next a) s' post) :
    Throughout J (first >>= next) s post :=
  h.whole.bind fun _ _ hs' => hs'

/-- An operation of a part is judged on that part. -/
theorem throughout_within {part : D → E} {replace : D → E → D} {action : SessionM E C α}
    {s : Session D C} {post : α → Session D C → Prop}
    (h : Throughout (fun inner => J ⟨replace s.device inner.device, inner.env⟩) action
      ⟨part s.device, s.env⟩ fun a inner => post a ⟨replace s.device inner.device, inner.env⟩) :
    Throughout J (within part replace action) s post where
  back := ensures_within h.back
  stands := by
    intro t hstands
    cases hinner : action.advance ⟨part s.device, s.env⟩ with
    | mk result inner =>
      simp only [within, hinner] at hstands
      cases hstands
      exact h.stands inner hinner

section Clock

variable [TickSource C]

/-- A wait that does not come back has left everything as it was. -/
theorem throughout_waitMillis {P : C → Prop}
    (hnow : ∀ clock, P clock → P (TickSource.now clock).2) {patience : Nat} {ms : UInt32}
    {s : Session D C} {post : Unit → Session D C → Prop} (hclock : P s.env.clock)
    (h : ∀ clock, P clock → post () { s with env.clock := clock }) (hJ : J s) :
    Throughout J (waitMillis patience ms) s post where
  back := by
    intro a s' hrun
    rw [waitMillis_apply] at hrun
    obtain ⟨clock, hwait, heq⟩ := Option.map_eq_some_iff.mp hrun
    cases heq
    exact h clock (waitFrom_induct hnow (hnow _ hclock) hwait)
  stands := by
    intro t hstands
    simp only [waitMillis] at hstands
    split at hstands
    · cases hstands
    · cases hstands
      exact hJ

theorem ensures_waitMillis {P : C → Prop} (hnow : ∀ clock, P clock → P (TickSource.now clock).2)
    {patience : Nat} {ms : UInt32} {s : Session D C} {post : Unit → Session D C → Prop}
    (hclock : P s.env.clock) (h : ∀ clock, P clock → post () { s with env.clock := clock }) :
    Ensures (waitMillis patience ms) s post :=
  (throughout_waitMillis (J := fun _ => True) hnow hclock h trivial).back

/-- **Polling.** `P` is what holds before every attempt. An attempt that yields a value ends the
    loop with it. Behind one that yields none the deadline decides: if it has passed the loop gives up,
    and if not it goes on. A loop that does not come back stands in an attempt or before one. -/
theorem throughout_pollUntil {deadline : Deadline} {attempt : SessionM D C (Option α)}
    {P : Session D C → Prop} {Q : Option α → Session D C → Prop} (hstands : ∀ s, P s → J s)
    (hattempt : ∀ s, P s → Throughout J attempt s fun
      | some a, s' => Q (some a) s'
      | none, s' =>
        if deadline.reachedAt (TickSource.now s'.env.clock).1 then
          Q none { s' with env.clock := (TickSource.now s'.env.clock).2 }
        else P { s' with env.clock := (TickSource.now s'.env.clock).2 })
    (patience : Nat) {s : Session D C} (h : P s) :
    Throughout J (pollUntil deadline attempt patience) s Q := by
  induction patience generalizing s with
  | zero => exact throughout_never (hstands s h)
  | succ patience ih =>
    refine (hattempt s h).bind ?_
    rintro (_ | a) s' hs'
    · refine throughout_bind (ensures_hasPassed ?_)
      dsimp only at hs'
      cases hpassed : deadline.reachedAt (TickSource.now s'.env.clock).1 with
      | true =>
        rw [if_pos hpassed] at hs'
        exact throughout_pure hs'
      | false =>
        rw [if_neg (by simp [hpassed])] at hs'
        exact ih hs'
    · exact throughout_pure hs'

theorem ensures_pollUntil {deadline : Deadline} {attempt : SessionM D C (Option α)}
    {P : Session D C → Prop} {Q : Option α → Session D C → Prop}
    (hattempt : ∀ s, P s → Ensures attempt s fun
      | some a, s' => Q (some a) s'
      | none, s' =>
        if deadline.reachedAt (TickSource.now s'.env.clock).1 then
          Q none { s' with env.clock := (TickSource.now s'.env.clock).2 }
        else P { s' with env.clock := (TickSource.now s'.env.clock).2 })
    (patience : Nat) {s : Session D C} (h : P s) :
    Ensures (pollUntil deadline attempt patience) s Q :=
  (throughout_pollUntil (fun _ _ => trivial) (fun s hs => (hattempt s hs).anyhow) patience h).back

end Clock

end SessionM

namespace CardEngine

open SessionM

variable {H C α β : Type} {J : Session (Channel H) C → Prop}

/-- **Courses.** The next exchange of a course is begun only where the last one succeeded. -/
theorem throughout_course_bind {first : CardM H C α} {next : α → CardM H C β}
    {s : Session (Channel H) C} {post : Except CardError β → Session (Channel H) C → Prop}
    (h : Throughout J first.run s fun
      | .ok a, s' => Throughout J (next a).run s' post
      | .error error, s' => post (.error error) s') :
    Throughout J (first >>= next).run s post := by
  refine Throughout.bind h ?_
  rintro (error | a) s' hs'
  · exact throughout_pure hs'
  · exact hs'

theorem ensures_course_bind {first : CardM H C α} {next : α → CardM H C β}
    {s : Session (Channel H) C} {post : Except CardError β → Session (Channel H) C → Prop}
    (h : Ensures first.run s fun
      | .ok a, s' => Ensures (next a).run s' post
      | .error error, s' => post (.error error) s') :
    Ensures (first >>= next).run s post := by
  refine Ensures.bind h ?_
  rintro (error | a) s' hs'
  · exact ensures_pure hs'
  · exact hs'

theorem throughout_course_pure {a : α} {s : Session (Channel H) C}
    {post : Except CardError α → Session (Channel H) C → Prop} (h : post (.ok a) s) :
    Throughout J (pure a : CardM H C α).run s post :=
  throughout_pure h

theorem ensures_course_pure {a : α} {s : Session (Channel H) C}
    {post : Except CardError α → Session (Channel H) C → Prop} (h : post (.ok a) s) :
    Ensures (pure a : CardM H C α).run s post :=
  ensures_pure h

/-- What is said of a success only is nothing to a course that fails on its way. -/
theorem ensures_course_ok {first : CardM H C α} {next : α → CardM H C β} {s : Session (Channel H) C}
    {mid : α → Session (Channel H) C → Prop} {post : β → Session (Channel H) C → Prop}
    (h : Ensures first.run s fun result s' => ∀ a, result = .ok a → mid a s')
    (hnext : ∀ a s', mid a s' →
      Ensures (next a).run s' fun result s'' => ∀ b, result = .ok b → post b s'') :
    Ensures (first >>= next).run s fun result s' => ∀ b, result = .ok b → post b s' := by
  refine ensures_course_bind (h.mono ?_)
  rintro (error | a) s' hs'
  · exact nofun
  · exact hnext a s' (hs' a rfl)

theorem ensures_course_then {first : CardM H C α} {next : α → CardM H C β}
    {s : Session (Channel H) C} {post : β → Session (Channel H) C → Prop}
    (hnext : ∀ a s', Ensures (next a).run s' fun result s'' => ∀ b, result = .ok b → post b s'') :
    Ensures (first >>= next).run s fun result s' => ∀ b, result = .ok b → post b s' :=
  ensures_course_ok (ensures_any fun _ _ _ _ => trivial) fun a s' _ => hnext a s'

theorem throughout_step {action : ChannelM H C α} {s : Session (Channel H) C}
    {post : Except CardError α → Session (Channel H) C → Prop}
    (h : Throughout J action s fun a s' => post (.ok a) s') :
    Throughout J (step action).run s post :=
  Throughout.bind h fun _ _ hs' => throughout_pure hs'

theorem ensures_step {action : ChannelM H C α} {s : Session (Channel H) C}
    {post : Except CardError α → Session (Channel H) C → Prop}
    (h : Ensures action s fun a s' => post (.ok a) s') : Ensures (step action).run s post :=
  Ensures.bind h fun _ _ hs' => ensures_pure hs'

theorem throughout_attempt {action : ChannelM H C (Except CardError α)} {s : Session (Channel H) C}
    {post : Except CardError α → Session (Channel H) C → Prop} (h : Throughout J action s post) :
    Throughout J (attempt action).run s post :=
  h

theorem ensures_attempt {action : ChannelM H C (Except CardError α)} {s : Session (Channel H) C}
    {post : Except CardError α → Session (Channel H) C → Prop} (h : Ensures action s post) :
    Ensures (attempt action).run s post :=
  h

/-- A course comes back if its first exchange does, and the rest of it behind a success. -/
theorem returns_course_bind {first : CardM H C α} {next : α → CardM H C β}
    {s : Session (Channel H) C} (h : Returns first.run s)
    (hnext : Ensures first.run s fun result s' => ∀ a, result = .ok a → Returns (next a).run s') :
    Returns (first >>= next).run s := by
  refine Returns.bind h (hnext.mono ?_)
  rintro (error | a) s' hs'
  · exact returns_pure
  · exact hs' a rfl

/-- The rest of a course may come back whatever its first exchange leaves behind. -/
theorem returns_course_then {first : CardM H C α} {next : α → CardM H C β}
    {s : Session (Channel H) C} (h : Returns first.run s)
    (hnext : ∀ a s', Returns (next a).run s') : Returns (first >>= next).run s :=
  returns_course_bind h (ensures_any fun _ s' a _ => hnext a s')

theorem returns_step {action : ChannelM H C α} {s : Session (Channel H) C}
    (h : Returns action s) : Returns (step action).run s :=
  h.bind (ensures_any fun _ _ => returns_pure)

theorem returns_course_report {N : Type} [Diagnostic N] {event : N} {next : Unit → CardM H C β}
    {s : Session (Channel H) C}
    (h : Returns (next ()).run { s with env.log := s.env.log.report event }) :
    Returns (step (report event) >>= next).run s := by
  refine returns_course_bind (returns_step returns_report) (ensures_step (ensures_report ?_))
  rintro _ ⟨⟩
  exact h

/-- **The wait for a card.** `P` is what holds before every attempt. One that finds the card ready ends
    the wait with `Q`, and one behind which the deadline has passed with `R`. -/
theorem throughout_pollReady [Host H] [TickSource C] {patience : Nat} {command : Command}
    {argument : UInt32} {deadline : Deadline} {P Q R : Session (Channel H) C → Prop}
    {s : Session (Channel H) C} (hstands : ∀ s, P s → J s)
    (hsend : ∀ s, P s → Throughout J (send patience command argument) s fun r1 s' =>
      if r1 = R1.ready then Q s'
      else if deadline.reachedAt (TickSource.now s'.env.clock).1 then
        R { s' with env.clock := (TickSource.now s'.env.clock).2 }
      else P { s' with env.clock := (TickSource.now s'.env.clock).2 })
    (hreport : ∀ s, R s → R { s with env.log := s.env.log.report CardNote.initTimedOut })
    (h : P s) :
    Throughout J (pollReady patience command argument deadline) s fun
      | .ok _, s' => Q s'
      | .error _, s' => R s' := by
  refine (throughout_pollUntil (P := P) (Q := fun
    | some _, s' => Q s'
    | none, s' => R s') hstands (fun s h => ?_) patience h).bind ?_
  · refine (hsend s h).bind fun r1 s' hs' => throughout_pure ?_
    by_cases hready : r1 = R1.ready
    · rw [if_pos hready] at hs' ⊢
      exact hs'
    · rw [if_neg hready] at hs' ⊢
      exact hs'
  · rintro (_ | _) s' hs'
    · exact throughout_bind (ensures_report (throughout_pure (hreport s' hs')))
    · exact throughout_pure hs'

theorem ensures_pollReady [Host H] [TickSource C] {patience : Nat} {command : Command}
    {argument : UInt32} {deadline : Deadline} {P Q R : Session (Channel H) C → Prop}
    {s : Session (Channel H) C}
    (hsend : ∀ s, P s → Ensures (send patience command argument) s fun r1 s' =>
      if r1 = R1.ready then Q s'
      else if deadline.reachedAt (TickSource.now s'.env.clock).1 then
        R { s' with env.clock := (TickSource.now s'.env.clock).2 }
      else P { s' with env.clock := (TickSource.now s'.env.clock).2 })
    (hreport : ∀ s, R s → R { s with env.log := s.env.log.report CardNote.initTimedOut })
    (h : P s) :
    Ensures (pollReady patience command argument deadline) s fun
      | .ok _, s' => Q s'
      | .error _, s' => R s' :=
  (throughout_pollReady (fun _ _ => trivial) (fun s hs => (hsend s hs).anyhow) hreport h).back

/-- Whoever gets past the check of a size has it, and is where it was before. -/
theorem ensures_requireSize (size : Except Csd.SizeFault α) {s : Session (Channel H) C} :
    Ensures (requireSize size) s fun result s' => ∀ value, result = .ok value →
      size = .ok value ∧ s' = s := by
  cases size with
  | ok value =>
    refine ensures_pure ?_
    rintro value ⟨⟩
    exact ⟨rfl, rfl⟩
  | error fault => exact ensures_bind (ensures_any fun _ _ => ensures_pure nofun)

end CardEngine

end SpiDisk
