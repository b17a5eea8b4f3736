import Fasst.Ssh.Handshake.Step

/-!
# Fasst.Ssh.Handshake.Invariant — what holds in every reachable state

`Inv` ties the shared fields to the program counters: `t.mu` is held exactly by the goroutine
inside a critical section; a parked writer sees a KEXINIT outstanding and no write error unless
the loop still has to `Broadcast`; `writeError` is `nil` while the loop runs and is the
exchange's error on its way out; the loop's exchange has its own KEXINIT in `sentInitMsg`; and
`incoming` is closed exactly when `readError` is set and the loop has left its `for`.

`Inv.step` is proved field by field from the frame lemmas of the step relation.
-/

namespace Fasst.Ssh

variable {ι : Type}

/-! ## Where the goroutines are -/

namespace LPc

/-- The read loop holds `t.mu`. -/
def locked : LPc → Bool
  | rkSend | rkUnlock _ | kexBegin _ | negotiate .. | guess .. | kexRun .. | keys .. | newKeysW _
  | newKeysR _ | dropConn .. | setWriteError .. | clear .. | bcast .. | reset .. | endSet
  | endBcast => true
  | _ => false

/-- A `Broadcast` is due before the loop releases `t.mu`. -/
def wakes : LPc → Bool
  | clear .. | bcast .. | endBcast => true
  | _ => false

/-- The loop has left its `for` (`incoming` is closed). -/
def ended : LPc → Bool
  | endLock | endSet | endBcast | done => true
  | _ => false

/-- `t.writeError` at each point of the loop. -/
def WriteErrorAt : LPc → Option String → Prop
  | clear _ err, w | bcast _ err, w | reset _ err, w => w = err
  | stop _, _ | endLock, _ | endSet, _ | endBcast, _ | done, _ => True
  | _, w => w = none

/-- `t.sentInitMsg` inside the exchange: this side's KEXINIT from `sendKexInitLocked` on, and
`nil` from the clearing to the unlock. -/
def SentAt : LPc → Option KexInitMsg → Prop
  | negotiate _ _ my, m => m = some my
  | guess .., m | kexRun .., m | keys .., m | newKeysW _, m | newKeysR _, m => m ≠ none
  | bcast .., m | reset .., m => m = none
  | _, _ => True

theorem locked_of_wakes {p : LPc} (h : p.wakes) : p.locked := by
  cases p <;> first | rfl | cases h

theorem sentAt_of_not_locked {p : LPc} (h : p.locked = false) (m : Option KexInitMsg) :
    p.SentAt m := by
  cases p <;> trivial

end LPc

section AfterGuess

variable {ext : Ext} {first : Bool} {n : Transport.Negotiated}

theorem afterGuess_cases (ext : Ext) (first : Bool) (n : Transport.Negotiated) :
    afterGuess ext first n = .kexRun first n ∨
      ∃ e, afterGuess ext first n = .dropConn first e := by
  unfold afterGuess; split <;> simp

@[simp] theorem locked_afterGuess : (afterGuess ext first n).locked = true := by
  rcases afterGuess_cases ext first n with h | ⟨e, h⟩ <;> rw [h] <;> rfl

@[simp] theorem wakes_afterGuess : (afterGuess ext first n).wakes = false := by
  rcases afterGuess_cases ext first n with h | ⟨e, h⟩ <;> rw [h] <;> rfl

@[simp] theorem ended_afterGuess : (afterGuess ext first n).ended = false := by
  rcases afterGuess_cases ext first n with h | ⟨e, h⟩ <;> rw [h] <;> rfl

@[simp] theorem writeErrorAt_afterGuess {w : Option String} :
    (afterGuess ext first n).WriteErrorAt w ↔ w = none := by
  rcases afterGuess_cases ext first n with h | ⟨e, h⟩ <;> rw [h] <;>
    exact Iff.rfl

@[simp] theorem afterGuess_ne_newKeysR {f : Bool} : afterGuess ext first n ≠ .newKeysR f := by
  unfold afterGuess; split <;> simp

@[simp] theorem afterGuess_ne_clear {f : Bool} {e : Option String} :
    afterGuess ext first n ≠ .clear f e := by
  unfold afterGuess; split <;> simp

@[simp] theorem afterGuess_ne_keys {f : Bool} {algs : Algorithms} {r : KexResult} :
    afterGuess ext first n ≠ .keys f algs r := by
  unfold afterGuess; split <;> simp

theorem sentAt_afterGuess {m : Option KexInitMsg} (hm : m ≠ none) :
    (afterGuess ext first n).SentAt m := by
  rcases afterGuess_cases ext first n with h | ⟨e, h⟩ <;> rw [h]
  · exact hm
  · trivial

end AfterGuess

/-- The goroutine holds `t.mu`. -/
def UPc.locked : UPc → Bool
  | .wCheck _ | .wLoop _ | .wDone _ | .kSend _ | .kUnlock .. => true
  | _ => false

/-! ## Frame lemmas -/

section Frame

variable {s : HState ι} {i j : ι} {p : UPc} {q : LPc}

@[simp] theorem setLoop_loop : (s.setLoop q).loop = q := rfl
@[simp] theorem setLoop_user : (s.setLoop q).user = s.user := rfl
@[simp] theorem setLoop_mu : (s.setLoop q).mu = s.mu := rfl
@[simp] theorem setLoop_sentInitMsg : (s.setLoop q).sentInitMsg = s.sentInitMsg := rfl
@[simp] theorem setLoop_writeError : (s.setLoop q).writeError = s.writeError := rfl
@[simp] theorem setLoop_sessionID : (s.setLoop q).sessionID = s.sessionID := rfl
@[simp] theorem setLoop_readError : (s.setLoop q).readError = s.readError := rfl
@[simp] theorem setLoop_closed : (s.setLoop q).closed = s.closed := rfl
@[simp] theorem setLoop_incoming : (s.setLoop q).incoming = s.incoming := rfl
@[simp] theorem setLoop_writtenSinceKex : (s.setLoop q).writtenSinceKex = s.writtenSinceKex := rfl
@[simp] theorem setLoop_readSinceKex : (s.setLoop q).readSinceKex = s.readSinceKex := rfl

theorem wake_apply (u : ι → UPc) (j : ι) :
    wake u j = match u j with | .wWait p => .wWoken p | q => q := rfl

@[simp] theorem locked_wake (u : ι → UPc) (j : ι) : (wake u j).locked = (u j).locked := by
  rw [wake_apply]; split <;> simp_all [UPc.locked]

theorem wake_ne_wWait (u : ι → UPc) (j : ι) (p : Packet) : wake u j ≠ .wWait p := by
  rw [wake_apply]; split <;> simp_all

theorem sendKexInitLocked_sent_ne {T : Transport} {sent : Option KexInitMsg} {c : List UInt8}
    {o : Option String} (h : sent ≠ none) : (T.sendKexInitLocked sent c o).2 = sent := by
  cases sent <;> simp_all [Transport.sendKexInitLocked]

theorem sendKexInitLocked_ok {T : Transport} {sent : Option KexInitMsg} {c : List UInt8}
    {o : Option String} {m : KexInitMsg} (h : (T.sendKexInitLocked sent c o).1 = .ok m) :
    (T.sendKexInitLocked sent c o).2 = some m := by
  unfold Transport.sendKexInitLocked at *; split <;> simp_all

variable [DecidableEq ι]

@[simp] theorem setUser_user_self : (s.setUser i p).user i = p := Function.update_same _ _ _
@[simp] theorem setUser_user_ne (h : j ≠ i) : (s.setUser i p).user j = s.user j :=
  Function.update_noteq h _ _
@[simp] theorem setUser_loop : (s.setUser i p).loop = s.loop := rfl
@[simp] theorem setUser_mu : (s.setUser i p).mu = s.mu := rfl
@[simp] theorem setUser_sentInitMsg : (s.setUser i p).sentInitMsg = s.sentInitMsg := rfl
@[simp] theorem setUser_writeError : (s.setUser i p).writeError = s.writeError := rfl
@[simp] theorem setUser_sessionID : (s.setUser i p).sessionID = s.sessionID := rfl
@[simp] theorem setUser_readError : (s.setUser i p).readError = s.readError := rfl
@[simp] theorem setUser_closed : (s.setUser i p).closed = s.closed := rfl
@[simp] theorem setUser_incoming : (s.setUser i p).incoming = s.incoming := rfl
@[simp] theorem setUser_writtenSinceKex : (s.setUser i p).writtenSinceKex = s.writtenSinceKex := rfl
@[simp] theorem setUser_readSinceKex : (s.setUser i p).readSinceKex = s.readSinceKex := rfl
end Frame

/-! ## The invariant -/

/-- What holds in every reachable state of a `handshakeTransport`. -/
structure Inv (s : HState ι) : Prop where
  mu_loop : s.mu = some .loop ↔ s.loop.locked
  mu_user : ∀ i, s.mu = some (.user i) ↔ (s.user i).locked
  parked : ∀ i p, s.user i = .wWait p →
    (s.sentInitMsg ≠ none ∧ s.writeError = none) ∨ s.loop.wakes
  writeError_at : s.loop.WriteErrorAt s.writeError
  sent_at : s.loop.SentAt s.sentInitMsg
  closed_ended : s.closed = s.loop.ended
  readError_closed : s.readError.isSome = s.closed

variable [DecidableEq ι]

section Invariant

variable {T : Transport} {ext : Ext} {s s' : HState ι} {o : Obs ι} {i : ι}

/-- A caller's step changes nothing of the loop's, moves `t.mu` only between that caller and
nobody, and never withdraws an outstanding KEXINIT; it sets one only while holding `t.mu`. -/
theorem UserStep.frame (h : UserStep T ext i s o s') :
    (∀ j, j ≠ i → s'.user j = s.user j) ∧ s'.loop = s.loop ∧
      (s'.mu = s.mu ∨ (s.mu = none ∧ s'.mu = some (.user i)) ∨
        (s'.mu = none ∧ (s.user i).locked)) ∧ s'.writeError = s.writeError ∧
      s'.closed = s.closed ∧ s'.readError = s.readError ∧ s'.sessionID = s.sessionID ∧
      (s.sentInitMsg ≠ none → s'.sentInitMsg = s.sentInitMsg) ∧
      (s'.sentInitMsg ≠ s.sentInitMsg → (s.user i).locked) := by
  have hu : ∀ (t : HState ι) q j, j ≠ i → (t.setUser i q).user j = t.user j :=
    fun _ _ _ hj => setUser_user_ne hj
  cases h <;> refine ⟨fun j hj => hu _ _ j hj, rfl, ?_, rfl, rfl, rfl, rfl, ?_, ?_⟩ <;>
    simp_all [sendKexInitLocked_sent_ne, UPc.locked]

omit [DecidableEq ι] in
/-- A loop step leaves the callers alone except for a `Broadcast`, and moves `t.mu` only
between the loop and nobody. -/
theorem LoopStep.frame (h : LoopStep T ext s o s') :
    (s'.user = s.user ∨ s'.user = wake s.user) ∧
      (s'.mu = s.mu ∨ (s.mu = none ∧ s'.mu = some .loop) ∨ (s'.mu = none ∧ s.loop.locked)) := by
  cases h <;> simp_all [LPc.locked]

theorem UserStep.mu_self (hI : Inv s) (h : UserStep T ext i s o s') :
    s'.mu = some (.user i) ↔ (s'.user i).locked := by
  have := hI.mu_user i
  cases h <;> simp_all [UPc.locked]

theorem UserStep.parked_self (h : UserStep T ext i s o s') {p : Packet}
    (hp : s'.user i = .wWait p) : s'.sentInitMsg ≠ none ∧ s'.writeError = none := by
  cases h <;> simp_all

theorem Inv.user_step (hI : Inv s) (h : UserStep T ext i s o s') : Inv s' := by
  obtain ⟨hu, hl, hmu, hw, hc, hr, -, hs, hsl⟩ := h.frame
  have loop_free : (s.user i).locked → s.loop.locked = false := fun hi => by
    have := (hI.mu_user i).mpr hi; simpa [this] using hI.mu_loop
  refine ⟨?_, fun j => ?_, fun j p hj => ?_, hl ▸ hw ▸ hI.writeError_at, ?_,
    hl ▸ hc ▸ hI.closed_ended, hr ▸ hc ▸ hI.readError_closed⟩
  · rw [hl]
    rcases hmu with e | ⟨e1, e2⟩ | ⟨e1, e2⟩
    · rw [e]; exact hI.mu_loop
    · simpa [e1, e2] using hI.mu_loop
    · simp [e1, loop_free e2]
  · by_cases hji : j = i
    · subst hji; exact h.mu_self hI
    rw [hu j hji]
    rcases hmu with e | ⟨e1, e2⟩ | ⟨e1, e2⟩
    · rw [e]; exact hI.mu_user j
    · simpa [e1, e2, Ne.symm hji] using hI.mu_user j
    · have := (hI.mu_user i).mpr e2
      simpa [e1, this, Ne.symm hji] using hI.mu_user j
  · by_cases hji : j = i
    · subst hji; exact .inl (h.parked_self hj)
    rw [hu j hji] at hj
    rcases hI.parked j p hj with ⟨h1, h2⟩ | h'
    · exact .inl ⟨by rwa [hs h1], hw ▸ h2⟩
    · exact .inr (hl ▸ h')
  · rw [hl]
    by_cases e : s'.sentInitMsg = s.sentInitMsg
    · exact e ▸ hI.sent_at
    · exact LPc.sentAt_of_not_locked (loop_free (hsl e)) _

omit [DecidableEq ι] in
/-- The loop's own fields after a loop step: who holds `t.mu`, `writeError`, the end of the
loop and `readError`. -/
theorem LoopStep.loop_fields (hI : Inv s) (h : LoopStep T ext s o s') :
    (s'.mu = some .loop ↔ s'.loop.locked) ∧ s'.loop.WriteErrorAt s'.writeError ∧
      s'.closed = s'.loop.ended ∧ s'.readError.isSome = s'.closed := by
  have := hI.mu_loop
  have := hI.writeError_at
  have := hI.closed_ended
  have := hI.readError_closed
  cases h <;> (repeat' split) <;>
    (try simp only [setLoop_loop, locked_afterGuess, wakes_afterGuess, ended_afterGuess,
      writeErrorAt_afterGuess]) <;> simp_all [LPc.locked, LPc.WriteErrorAt, LPc.ended]

omit [DecidableEq ι] in
theorem LoopStep.mu_user (hI : Inv s) (h : LoopStep T ext s o s') :
    ∀ j, s'.mu = some (.user j) ↔ (s'.user j).locked := by
  obtain ⟨hu, hmu⟩ := h.frame
  intro j
  have hj : (s'.user j).locked = (s.user j).locked := by rcases hu with e | e <;> simp [e]
  rw [hj]
  rcases hmu with e | ⟨e1, e2⟩ | ⟨e1, e2⟩
  · rw [e]; exact hI.mu_user j
  · simpa [e1, e2] using hI.mu_user j
  · have := hI.mu_loop.mpr e2; simpa [e1, this] using hI.mu_user j

omit [DecidableEq ι] in
theorem LoopStep.parked (hI : Inv s) (h : LoopStep T ext s o s') :
    ∀ j p, s'.user j = .wWait p →
      (s'.sentInitMsg ≠ none ∧ s'.writeError = none) ∨ s'.loop.wakes := by
  intro j p hj
  have := hI.parked j p
  cases h <;> (repeat' split) <;>
    (try simp only [setLoop_loop, locked_afterGuess, wakes_afterGuess, ended_afterGuess,
      writeErrorAt_afterGuess]) <;>
    simp_all [LPc.wakes, wake_ne_wWait, sendKexInitLocked_sent_ne]

omit [DecidableEq ι] in
theorem LoopStep.sent_at (hI : Inv s) (h : LoopStep T ext s o s') :
    s'.loop.SentAt s'.sentInitMsg := by
  have := hI.sent_at
  cases h
  case kexBegin c _ o h _ =>
    simp only [setLoop_loop]
    split
    · next m heq => simpa [LPc.SentAt] using sendKexInitLocked_ok heq
    · trivial
  all_goals (repeat' split) <;>
    first | exact sentAt_afterGuess (by simp_all [LPc.SentAt]) | simp_all [LPc.SentAt]

omit [DecidableEq ι] in
theorem Inv.loop_step (hI : Inv s) (h : LoopStep T ext s o s') : Inv s' :=
  let ⟨hm, hw, hc, hr⟩ := h.loop_fields hI
  ⟨hm, h.mu_user hI, h.parked hI, hw, h.sent_at hI, hc, hr⟩

theorem Inv.step (hI : Inv s) (h : Step T ext s o s') : Inv s' := by
  cases h with
  | loop h => exact hI.loop_step h
  | user i h => exact hI.user_step h

omit [DecidableEq ι] in
theorem Inv.init : Inv (HState.init : HState ι) :=
  ⟨by simp [HState.init, LPc.locked], fun _ => by simp [HState.init, UPc.locked],
    fun _ _ h => by simp [HState.init] at h, rfl, trivial, rfl, rfl⟩

theorem Inv.run {os : List (Obs ι)} (hI : Inv s) (h : Run T ext s os s') : Inv s' := by
  induction h with
  | refl => exact hI
  | tail _ hs ih => exact ih.step hs

theorem Reachable.inv (hs : Reachable T ext s) : Inv s :=
  let ⟨_, h⟩ := hs; Inv.init.run h

theorem Reachable.step (hs : Reachable T ext s) (h : Step T ext s o s') : Reachable T ext s' :=
  let ⟨_, hr⟩ := hs; ⟨_, hr.tail h⟩

end Invariant

end Fasst.Ssh
