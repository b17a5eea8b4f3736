import Fasst.Ssh.Handshake.Progress
import Mathlib.Logic.Relation

/-!
# Fasst.Ssh.Handshake.Lifecycle — the lifecycle a transport goes through

The design gives a handshake transport four phases, `AwaitingFirstKex → Established →
RekeyInProgress → Established → … → Closed` (`Lifecycle`, with `Lifecycle.Next` for its edges).
`HState.phase` reads the phase off a state of the step relation: a read loop on its way out is
closed; inside `enterKeyExchangeLocked` (or its `HelloOnly` skip) the phase is the exchange's own,
the first or a rekey by its `firstKex`; elsewhere the transport awaits its first exchange until it
has a session ID, and from then on it is rekeying while a KEXINIT of its own is outstanding.

* `Step.phase_next`: every statement of every goroutine keeps the phase or takes one edge of the
  lifecycle;
* `transport_follows_lifecycle`: so every run of a transport follows the lifecycle: it starts
  awaiting its first exchange, never awaits it again once it has left that phase, and stays
  closed once closed.

The step lemma needs two facts of every reachable state: `t.sentInitMsg` is `nil` from the
clearing to the unlock (`Inv.sent_at`), and a rekey runs on a transport that has a session ID
(`RekeyHasSession`).
-/

namespace Fasst.Ssh

open Relation

/-- The phases of a transport's life. -/
inductive Lifecycle
  | awaitingFirstKex
  | established
  | rekeying
  | closed
  deriving DecidableEq, Repr

namespace Lifecycle

/-- The edges of the lifecycle; every phase may also stay as it is. -/
inductive Next : Lifecycle → Lifecycle → Prop
  | stay (p : Lifecycle) : Next p p
  | firstKexDone : Next awaitingFirstKex established
  | rekeyBegin : Next established rekeying
  | rekeyDone : Next rekeying established
  | close (p : Lifecycle) : Next p closed

theorem Next.eq_closed {p : Lifecycle} (h : Next closed p) : p = closed := by
  cases h <;> rfl

theorem Next.eq_awaiting {p : Lifecycle} (h : Next p awaitingFirstKex) : p = awaitingFirstKex := by
  cases h; rfl

theorem closed_of_closed {p : Lifecycle} (h : ReflTransGen Next closed p) : p = closed := by
  induction h with
  | refl => rfl
  | tail _ hn ih => exact (ih ▸ hn).eq_closed

theorem awaiting_of_awaiting {p : Lifecycle} (h : ReflTransGen Next p awaitingFirstKex) :
    p = awaitingFirstKex := by
  induction h using ReflTransGen.head_induction_on with
  | refl => rfl
  | head hn _ ih => exact (ih ▸ hn).eq_awaiting

end Lifecycle

open Lifecycle (Next)

/-! ## Where the read loop is -/

namespace LPc

/-- The exchange the loop is in, by its `firstKex`: from `enterKeyExchangeLocked` (or the
`HelloOnly` skip) to the unlock that ends it. -/
def exchange : LPc → Option Bool
  | negotiate first .. | guess first _ | kexRun first _ | keys first .. | newKeysW first
  | newKeysR first | dropConn first _ | setWriteError first _ | clear first _ | bcast first _
  | reset first _ => some first
  | _ => none

def stopping : LPc → Bool
  | stop _ | endLock | endSet | endBcast | done => true
  | _ => false

end LPc

section AfterGuess

variable {ext : Ext} {first : Bool} {n : Transport.Negotiated}

@[simp] theorem exchange_afterGuess : (afterGuess ext first n).exchange = some first := by
  unfold afterGuess; split <;> rfl

@[simp] theorem stopping_afterGuess : (afterGuess ext first n).stopping = false := by
  unfold afterGuess; split <;> rfl

end AfterGuess

variable {ι : Type}

def HState.phase (s : HState ι) : Lifecycle :=
  if s.loop.stopping then .closed
  else match s.loop.exchange with
    | some true => .awaitingFirstKex
    | some false => .rekeying
    | none =>
      if s.sessionID.isNone then .awaitingFirstKex
      else if s.sentInitMsg.isNone then .established else .rekeying

/-- A rekey runs on a transport that has its session ID. -/
def HState.RekeyHasSession (s : HState ι) : Prop := s.loop.exchange = some false → s.sessionID ≠ none

/-! ## The phase of a state, and how a step can move it -/

section Phase

variable {s s' : HState ι} {first : Bool}

theorem phase_of_stopping (h : s.loop.stopping = true) : s.phase = .closed := by
  simp [HState.phase, h]

theorem phase_of_exchange (hs : s.loop.stopping = false) (h : s.loop.exchange = some first) :
    s.phase = if first then .awaitingFirstKex else .rekeying := by
  cases first <;> simp [HState.phase, hs, h]

theorem phase_outside (hs : s.loop.stopping = false) (h : s.loop.exchange = none) :
    s.phase = if s.sessionID.isNone then .awaitingFirstKex
      else if s.sentInitMsg.isNone then .established else .rekeying := by
  simp [HState.phase, hs, h]

theorem next_of_stopping (h : s'.loop.stopping = true) : Next s.phase s'.phase :=
  phase_of_stopping h ▸ .close _

theorem next_of_exchange (hs : s.loop.stopping = false) (h : s.loop.exchange = some first)
    (hs' : s'.loop.stopping = false) (h' : s'.loop.exchange = some first) :
    Next s.phase s'.phase := by
  rw [phase_of_exchange hs h, phase_of_exchange hs' h']; exact .stay _

theorem next_outside (hs : s.loop.stopping = false) (h : s.loop.exchange = none)
    (hs' : s'.loop.stopping = false) (h' : s'.loop.exchange = none)
    (hid : s'.sessionID = s.sessionID) (hm : s.sentInitMsg ≠ none → s'.sentInitMsg = s.sentInitMsg) :
    Next s.phase s'.phase := by
  rw [phase_outside hs h, phase_outside hs' h', hid]
  cases hsent : s.sentInitMsg with
  | some _ => rw [hm (by simp [hsent]), hsent]; exact .stay _
  | none =>
    cases s.sessionID.isNone
    · cases s'.sentInitMsg.isNone
      · exact .rekeyBegin
      · exact .stay _
    · exact .stay _

theorem next_enter (hs : s.loop.stopping = false) (h : s.loop.exchange = none)
    (hs' : s'.loop.stopping = false) (h' : s'.loop.exchange = some (s.sessionID == none)) :
    Next s.phase s'.phase := by
  rw [phase_outside hs h, phase_of_exchange hs' h']
  cases s.sessionID with
  | none => exact .stay _
  | some _ =>
    cases s.sentInitMsg
    · exact .rekeyBegin
    · exact .stay _

theorem next_leave (hs : s.loop.stopping = false) (h : s.loop.exchange = some first)
    (hs' : s'.loop.stopping = false) (h' : s'.loop.exchange = none)
    (hid : s'.sessionID = s.sessionID) (hsent : s'.sentInitMsg = none)
    (hR : first = false → s.sessionID ≠ none) : Next s.phase s'.phase := by
  rw [phase_of_exchange hs h, phase_outside hs' h', hid, hsent]
  cases first with
  | false =>
    obtain ⟨_, hid⟩ := Option.ne_none_iff_exists'.mp (hR rfl)
    rw [hid]; exact .rekeyDone
  | true =>
    cases s.sessionID
    · exact .stay _
    · exact .firstKexDone

theorem next_of_loop_eq (hl : s'.loop = s.loop) (hid : s'.sessionID = s.sessionID)
    (hm : s.sentInitMsg ≠ none → s'.sentInitMsg = s.sentInitMsg) : Next s.phase s'.phase := by
  cases hs : s.loop.stopping
  · cases he : s.loop.exchange with
    | none => exact next_outside hs he (hl ▸ hs) (hl ▸ he) hid hm
    | some f => exact next_of_exchange hs he (hl ▸ hs) (hl ▸ he)
  · exact next_of_stopping (hl ▸ hs)

end Phase

/-! ## Every step follows the lifecycle -/

variable [DecidableEq ι]

section Steps

variable {T : Transport} {ext : Ext} {s s' : HState ι} {o : Obs ι} {i : ι}

theorem UserStep.phase_next (h : UserStep T ext i s o s') : Next s.phase s'.phase := by
  obtain ⟨-, hl, -, -, -, -, hid, hm, -⟩ := h.frame
  exact next_of_loop_eq hl hid hm

omit [DecidableEq ι] in
theorem LoopStep.rekeyHasSession (hR : s.RekeyHasSession) (h : LoopStep T ext s o s') :
    s'.RekeyHasSession := by
  unfold HState.RekeyHasSession at hR ⊢
  intro he
  cases h <;> (try simp only [setLoop_loop] at he) <;>
    (repeat' first | rw [exchange_afterGuess] at he | split at he) <;> simp_all [LPc.exchange]

omit [DecidableEq ι] in
/-- The loop's statements by what they do to the phase: the `HelloOnly` skip and the start of
`enterKeyExchangeLocked` enter an exchange, the unlock after a successful one leaves it, every
other statement of an exchange stays in it, the statements of `readLoop`'s way out close, and the
rest stay outside exchanges, where only `sendKexInitLocked` changes `sentInitMsg`. -/
theorem LoopStep.phase_next (hI : Inv s) (hR : s.RekeyHasSession) (h : LoopStep T ext s o s') :
    Next s.phase s'.phase := by
  have hsent := hI.sent_at
  cases h
  case kexBegin h _ _ _ _ =>
    refine next_enter (by simp [h, LPc.stopping]) (by simp [h, LPc.exchange]) ?_ ?_ <;>
      split <;> rfl
  case helloOnly h _ =>
    exact next_enter (by simp [h, LPc.stopping]) (by simp [h, LPc.exchange]) rfl rfl
  case resetOk first h =>
    exact next_leave (by simp [h, LPc.stopping])
      (show s.loop.exchange = some first by simp [h, LPc.exchange]) rfl rfl rfl
      (by simpa [h, LPc.SentAt] using hsent) (fun hf => hR (by simp [h, hf, LPc.exchange]))
  all_goals (repeat' split) <;> first
    | exact .stay _
    | exact next_of_stopping rfl
    | exact next_of_exchange (by simp_all [LPc.stopping]) (by simp_all [LPc.exchange]) rfl rfl
    | exact next_of_exchange (by simp_all [LPc.stopping]) (by simp_all [LPc.exchange])
        stopping_afterGuess exchange_afterGuess
    | exact next_outside (by simp_all [LPc.stopping]) (by simp_all [LPc.exchange]) rfl rfl rfl
        fun _ => rfl
    | exact next_outside (by simp_all [LPc.stopping]) (by simp_all [LPc.exchange]) rfl rfl rfl
        fun hne => sendKexInitLocked_sent_ne hne

theorem Step.phase_next (hI : Inv s) (hR : s.RekeyHasSession) (h : Step T ext s o s') :
    Next s.phase s'.phase ∧ s'.RekeyHasSession := by
  cases h with
  | loop h => exact ⟨h.phase_next hI hR, h.rekeyHasSession hR⟩
  | user i h =>
    obtain ⟨-, hl, -, -, -, -, hid, hm, -⟩ := h.frame
    exact ⟨next_of_loop_eq hl hid hm, fun he => hid ▸ hR (hl ▸ he)⟩

theorem Run.phase_follows {os : List (Obs ι)} {t : HState ι} (hI : Inv s)
    (hR : s.RekeyHasSession) (h : Run T ext s os t) :
    ReflTransGen Next s.phase t.phase ∧ t.RekeyHasSession := by
  induction h with
  | refl => exact ⟨.refl, hR⟩
  | tail h₁ hs ih =>
    have hn := hs.phase_next (hI.run h₁) ih.2
    exact ⟨ih.1.tail hn.1, hn.2⟩

/-- **A transport follows its lifecycle.** A fresh transport awaits its first key exchange, and
between any two states of any run (any interleaving of the read loop and of callers of
`writePacket`, `sendKexInit` and `readPacket`, against any answers of the connection) the phase
moves only along the lifecycle's edges: awaiting to established, established to rekeying and
back, and any phase to closed.  So a closed transport stays closed, and a transport that has
left the first phase never awaits its first exchange again. -/
theorem transport_follows_lifecycle {os os' : List (Obs ι)} {t : HState ι}
    (h : Run T ext .init os s) (h' : Run T ext s os' t) :
    (HState.init : HState ι).phase = .awaitingFirstKex ∧ ReflTransGen Next s.phase t.phase ∧
      (s.phase = .closed → t.phase = .closed) ∧
      (t.phase = .awaitingFirstKex → s.phase = .awaitingFirstKex) := by
  have hs := (Run.phase_follows Inv.init (fun h => by simp [HState.init, LPc.exchange] at h) h).2
  have hp := (Run.phase_follows (Inv.init.run h) hs h').1
  exact ⟨rfl, hp, fun hc => Lifecycle.closed_of_closed (hc ▸ hp),
    fun ha => Lifecycle.awaiting_of_awaiting (ha ▸ hp)⟩

theorem transport_follows_lifecycle_sample :
    ∃ (os : List (Obs (Fin 1))) (t : HState (Fin 1)),
      Run sampleServer sampleExt (HState.init : HState (Fin 1)) [] .init ∧
      Run sampleServer sampleExt .init os t ∧
      t.phase = .established ∧
      ((HState.init : HState (Fin 1)).phase = .awaitingFirstKex ∧
        ReflTransGen Next (HState.init : HState (Fin 1)).phase t.phase ∧
        ((HState.init : HState (Fin 1)).phase = .closed → t.phase = .closed) ∧
        (t.phase = .awaitingFirstKex →
          (HState.init : HState (Fin 1)).phase = .awaitingFirstKex)) := by
  obtain ⟨n, hn, hd, hk⟩ := sample_negotiate
  have h := exchange_run (T := sampleServer) (s := (HState.init : HState (Fin 1)))
    (c := sampleCookie) (r := sampleResult) rfl (by decide) rfl rfl rfl rfl hn hd hk rfl
  exact ⟨_, _, .refl _, h, rfl, transport_follows_lifecycle (.refl _) h⟩

end Steps

end Fasst.Ssh
