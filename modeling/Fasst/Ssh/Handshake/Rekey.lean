import Fasst.Ssh.Handshake.WriteError

/-!
# Fasst.Ssh.Handshake.Rekey — writes around a key exchange

What the handshake hands to `keyingTransport.writePacket` while `writeError` is `nil`, read as
an automaton over the observations (`Phase`): once this side's KEXINIT is written no packet from
`writePacket` and no second KEXINIT follows until this side's NEWKEYS is written and the peer's
is read (`kexinit_holds_writes`).  The automaton is simulated by the state (`Phase.Holds`): an
outstanding KEXINIT is `sentInitMsg`, which only the end of the exchange clears.

`writePacket` compares `writtenSinceKex` with the threshold once, on entry, under `t.mu`
(`threshold_test_holds_until_forward`).  A call that finds it low forwards in the same critical
section with the counter it tested.  A call that finds it high sends or finds a KEXINIT and then
waits (`Held`) until the exchange clears it and resets the counter, unless its own KEXINIT write
fails: `sendKexInitLocked`'s error is dropped, and the call forwards at once past the threshold.
A call that parks is not tested again after the reset, so writers woken together may forward
past the threshold (`forward_above_threshold`).
-/

namespace Fasst.Ssh

variable {ι : Type} {T : Transport} {ext : Ext} {s s' t : HState ι} {o : Obs ι}
  {os : List (Obs ι)} {i : ι}

/-! ## The automaton of the exchange's writes -/

/-- Where this side's exchange stands, as its written and read packets show: no KEXINIT
outstanding, this side's KEXINIT written, this side's NEWKEYS written too. -/
inductive Phase
  | idle
  | opened
  | keysSent
  deriving DecidableEq, Repr

namespace Phase

/-- One observation; `none` when a packet that has to wait for the exchange is written: a
KEXINIT, or a packet of `writePacket`, before the peer's NEWKEYS is read. -/
def next : Phase → Obs ι → Option Phase
  | idle, .write .kexInit _ true => some opened
  | idle, _ => some idle
  | _, .write .kexInit _ _ => none
  | _, .write .app _ _ => none
  | opened, .write .newKeys _ true => some keysSent
  | keysSent, .read .newKeys (.ok p) => some (if p.tag = msgNewKeys then idle else keysSent)
  | ph, _ => some ph

def run : Phase → List (Obs ι) → Option Phase
  | ph, [] => some ph
  | ph, o :: os => (ph.next o).bind (run · os)

theorem run_append (ph : Phase) (a b : List (Obs ι)) :
    ph.run (a ++ b) = (ph.run a).bind (run · b) := by
  induction a generalizing ph with
  | nil => rfl
  | cons o a ih => simp [run, ih, Option.bind_assoc]

theorem next_quiet (ph : Phase) (hw : ∀ src p ok, o ≠ .write src p ok)
    (hr : ∀ src r, o ≠ .read src r) : ph.next o = some ph := by
  cases o
  case write src p ok => exact absurd rfl (hw src p ok)
  case read src r => exact absurd rfl (hr src r)
  all_goals cases ph <;> rfl

theorem next_idle (hw : ∀ p, o ≠ .write .kexInit p true) : idle.next o = some idle := by
  unfold next; split <;> simp_all

theorem next_waits {ph : Phase} (hph : ph ≠ idle) {src : Src} (hsrc : src = .app ∨ src = .kexInit)
    (p : Packet) (ok : Bool) : ph.next (.write src p ok : Obs ι) = none := by
  rcases hsrc with rfl | rfl <;> cases ph <;> simp_all [next]

theorem next_opened (o : Obs ι) :
    opened.next o = none ∨ opened.next o = some opened ∨
      ∃ p, o = .write .newKeys p true ∧ opened.next o = some keysSent := by
  unfold next; split <;> simp_all

theorem next_keysSent (o : Obs ι) :
    keysSent.next o = none ∨ keysSent.next o = some keysSent ∨
      ∃ q, o = .read .newKeys (.ok q) ∧ q.tag = msgNewKeys ∧ keysSent.next o = some idle := by
  unfold next; split
  all_goals try split
  all_goals simp_all

/-- From `keysSent` the automaton returns to `idle` only through the peer's NEWKEYS. -/
theorem run_keysSent_idle {b : List (Obs ι)} (h : keysSent.run b = some idle) :
    ∃ b₁ q b₂, b = b₁ ++ [.read .newKeys (.ok q)] ++ b₂ ∧ q.tag = msgNewKeys := by
  induction b with
  | nil => simp [run] at h
  | cons o b ih =>
    simp only [run] at h
    rcases next_keysSent o with hn | hn | ⟨q, rfl, hq, -⟩
    · simp [hn] at h
    · obtain ⟨b₁, q, b₂, rfl, hq⟩ := ih (by simpa [hn] using h)
      exact ⟨o :: b₁, q, b₂, rfl, hq⟩
    · exact ⟨[], q, b, rfl, hq⟩

/-- From `opened` the automaton returns to `idle` only through this side's NEWKEYS and then the
peer's. -/
theorem run_opened_idle {b : List (Obs ι)} (h : opened.run b = some idle) :
    ∃ b₁ p b₂ q b₃, b = b₁ ++ [.write .newKeys p true] ++ b₂ ++ [.read .newKeys (.ok q)] ++ b₃ ∧
      q.tag = msgNewKeys := by
  induction b with
  | nil => simp [run] at h
  | cons o b ih =>
    simp only [run] at h
    rcases next_opened o with hn | hn | ⟨p, rfl, hn⟩
    · simp [hn] at h
    · obtain ⟨b₁, p, b₂, q, b₃, rfl, hq⟩ := ih (by simpa [hn] using h)
      exact ⟨o :: b₁, p, b₂, q, b₃, rfl, hq⟩
    · obtain ⟨b₂, q, b₃, rfl, hq⟩ := run_keysSent_idle (by simpa [hn] using h)
      exact ⟨[], p, b₂, q, b₃, by simp, hq⟩

/-- The state behind each phase: a written KEXINIT is `sentInitMsg` until the loop clears it
after reading the peer's NEWKEYS; after this side's NEWKEYS the loop is reading the peer's, or
on its way to fail. -/
def Holds : Phase → HState ι → Prop
  | idle, s => s.sentInitMsg = none ∨ ∃ first, s.loop = .clear first none
  | opened, s => s.sentInitMsg ≠ none ∧ (∀ first, s.loop ≠ .newKeysR first) ∧
      ∀ first, s.loop ≠ .clear first none
  | keysSent, s => s.sentInitMsg ≠ none ∧ ∃ first, s.loop = .newKeysR first ∨
      ∃ e, s.loop = .dropConn first e ∨ s.loop = .setWriteError first e

end Phase

variable [DecidableEq ι]

/-! ## The state simulates the automaton -/

section Simulation

variable {ph : Phase}

omit [DecidableEq ι] in
@[simp] theorem kexInitObs_of_ne {sent : Option KexInitMsg} {c : List UInt8} {o : Option String}
    (h : sent ≠ none) : (kexInitObs T ext sent c o : Obs ι) = .tau := by
  cases sent <;> simp_all [kexInitObs]

/-- A caller reads nothing from the underlying transport; it leaves `sentInitMsg` alone, writing
only an application packet or a KEXINIT that fails while none is outstanding, or it writes a
KEXINIT successfully under `t.mu`, which makes it outstanding. -/
theorem UserStep.sent_write (h : UserStep T ext i s o s') :
    (∀ src r, o ≠ .read src r) ∧
    ((s'.sentInitMsg = s.sentInitMsg ∧ ∀ src p ok, o = .write src p ok →
        s.sentInitMsg = none ∧ (src = .app ∨ src = .kexInit ∧ ok = false)) ∨
      (s.sentInitMsg = none ∧ s'.sentInitMsg ≠ none ∧ (s.user i).locked ∧
        ∃ p, o = .write .kexInit p true)) := by
  cases h
  case wCheckSend _ _ _ _ _ o | kSend _ _ _ _ _ o =>
    cases hs : s.sentInitMsg <;> cases o <;> simp_all [UPc.locked, Transport.sendKexInitLocked]
  all_goals simp_all [UPc.locked]

theorem Phase.Holds.user_step (hI : Inv s) (hH : ph.Holds s) (h : UserStep T ext i s o s') :
    ∃ ph', ph.next o = some ph' ∧ ph'.Holds s' := by
  obtain ⟨-, hl, -⟩ := h.frame
  obtain ⟨hr, hsw⟩ := h.sent_write
  rcases hsw with ⟨hs, hw⟩ | ⟨hs0, hs1, hlk, p, rfl⟩
  · refine ⟨ph, ?_, ?_⟩
    · cases ph
      · exact Phase.next_idle fun p hp => by simpa using (hw _ _ _ hp).2
      all_goals exact Phase.next_quiet _ (fun src p ok hp => hH.1 (hw _ _ _ hp).1) hr
    · cases ph <;> simp_all [Phase.Holds]
  · have hfree : s.loop.locked = false := by
      simpa [(hI.mu_user i).mpr hlk] using hI.mu_loop.not
    cases ph
    · exact ⟨.opened, rfl, hs1, fun f hf => by simp [← hl, hf, LPc.locked] at hfree,
        fun f hf => by simp [← hl, hf, LPc.locked] at hfree⟩
    all_goals exact absurd hs0 hH.1

omit [DecidableEq ι] in
theorem Phase.idle_loop_step (hH : Phase.idle.Holds s) (h : LoopStep T ext s o s') :
    ∃ ph', Phase.idle.next o = some ph' ∧ ph'.Holds s' := by
  rcases hH with hs | ⟨f, hl⟩
  · cases h
    case rkSend _ _ o | kexBegin _ _ _ _ _ o =>
      cases o <;> simp_all [Phase.Holds, Phase.next, kexInitObs, Transport.sendKexInitLocked]
    all_goals exact ⟨.idle, rfl, by simp_all [Phase.Holds]⟩
  · cases h
    case clear => exact ⟨.idle, rfl, by simp_all [Phase.Holds]⟩
    all_goals simp_all

omit [DecidableEq ι] in
theorem Phase.opened_loop_step (hI : Inv s) (hh : T.config.helloOnly = false)
    (hw : s.writeError = none) (hH : Phase.opened.Holds s) (h : LoopStep T ext s o s') (hf : ∀ e, o ≠ .fail e) :
    ∃ ph', Phase.opened.next o = some ph' ∧ ph'.Holds s' := by
  obtain ⟨hs, hn, hc⟩ := hH
  cases h
  case newKeysW f hl o => cases o <;> simp_all [Phase.Holds, Phase.next]
  case newKeysR f hl _ => exact absurd hl (hn f)
  case setWriteError | endSetFail => exact absurd rfl (hf _)
  case clear | bcast | resetErr | resetOk =>
    have hsa := hI.sent_at
    have hwa := hI.writeError_at
    simp_all [LPc.SentAt, LPc.WriteErrorAt]
  case rkSend | kexBegin =>
    rw [kexInitObs_of_ne hs]
    refine ⟨.opened, rfl, ?_⟩
    (repeat' split) <;> simp_all [Phase.Holds, sendKexInitLocked_sent_ne]
  all_goals refine ⟨.opened, rfl, ?_⟩
  all_goals (repeat' split) <;> simp_all [Phase.Holds]

omit [DecidableEq ι] in
theorem Phase.keysSent_loop_step (hH : Phase.keysSent.Holds s) (h : LoopStep T ext s o s')
    (hf : ∀ e, o ≠ .fail e) : ∃ ph', Phase.keysSent.next o = some ph' ∧ ph'.Holds s' := by
  obtain ⟨hs, f, hl⟩ := hH
  cases h
  case newKeysR _ _ r =>
    rcases r with e | p
    · simp_all [Phase.Holds, Phase.next, expectNewKeys]
    · by_cases ht : p.tag = msgNewKeys <;> simp_all [Phase.Holds, Phase.next, expectNewKeys]
  case dropConn f' e _ => exact ⟨.keysSent, rfl, hs, f', .inr ⟨e, .inr rfl⟩⟩
  case setWriteError => exact absurd rfl (hf _)
  all_goals simp_all

theorem Phase.Holds.step (hI : Inv s) (hh : T.config.helloOnly = false)
    (hw : s.writeError = none) (hH : ph.Holds s) (h : Step T ext s o s')
    (hf : ∀ e, o ≠ .fail e) : ∃ ph', ph.next o = some ph' ∧ ph'.Holds s' := by
  cases h with
  | user i h => exact hH.user_step hI h
  | loop h =>
    cases ph
    · exact Phase.idle_loop_step hH h
    · exact Phase.opened_loop_step hI hh hw hH h hf
    · exact Phase.keysSent_loop_step hH h hf

theorem Phase.holds_run (hh : T.config.helloOnly = false) (h : Run T ext .init os s)
    (hf : ∀ e, .fail e ∉ os) : ∃ ph, Phase.idle.run os = some ph ∧ ph.Holds s := by
  induction h with
  | refl => exact ⟨.idle, rfl, .inl rfl⟩
  | tail hr hs ih =>
    obtain ⟨ph, hrun, hH⟩ := ih fun e he => hf e (List.mem_append_left _ he)
    obtain ⟨ph', hn, hH'⟩ := hH.step (Inv.init.run hr) hh
      (writeError_none_run hr fun e he => hf e (List.mem_append_left _ he)) hs
      fun e he => hf e (by simp [he])
    exact ⟨ph', by simp [Phase.run_append, hrun, Phase.run, hn], hH'⟩

end Simulation

theorem Step.app_write (h : Step T ext s o s') {q : Packet} {ok : Bool}
    (ho : o = .write .app q ok) :
    ∃ j, s.user j = .wLoop q ∧ q.tag ≠ msgKexInit ∧ q.tag ≠ msgNewKeys := by
  cases h with
  | loop h => cases h <;> simp_all
  | user j h => refine ⟨j, ?_⟩; cases h <;> simp_all

/-- **A KEXINIT holds back the writes.** With `HelloOnly` false and before any `fail`: after
this side's KEXINIT is written, the next packet of `writePacket` or the next KEXINIT comes only
after this side's NEWKEYS was written and the peer's NEWKEYS read; and `writePacket` never
forwards a KEXINIT or a NEWKEYS. -/
theorem kexinit_holds_writes (hh : T.config.helloOnly = false) {s : HState ι}
    (h : Run T ext .init os s) :
    (∀ a p b src q ok c, os = a ++ [.write .kexInit p true] ++ b ++ [.write src q ok] ++ c →
      (src = .app ∨ src = .kexInit) → (∀ e, .fail e ∉ a ++ b) →
      ∃ b₁ p' b₂ q' b₃,
        b = b₁ ++ [.write .newKeys p' true] ++ b₂ ++ [.read .newKeys (.ok q')] ++ b₃ ∧
          q'.tag = msgNewKeys) ∧
    (∀ p ok, .write .app p ok ∈ os → p.tag ≠ msgKexInit ∧ p.tag ≠ msgNewKeys) := by
  refine ⟨fun a p b src q ok c hos hsrc hf => ?_, fun p ok hm => ?_⟩
  · subst hos
    obtain ⟨t, hr, -⟩ := h.split
    obtain ⟨ph, hrun, -⟩ := Phase.holds_run hh hr (by simpa using hf)
    simp only [Phase.run_append, Phase.run, Option.bind_eq_some, Option.some.injEq,
      exists_eq_right] at hrun
    obtain ⟨ph₃, ⟨ph₂, ⟨ph₁, -, hx⟩, hb⟩, hy⟩ := hrun
    have h₁ : ph₁ = .idle := by
      by_contra hne; simp [Phase.next_waits hne (.inr rfl)] at hx
    have h₃ : ph₃ = .idle := by
      by_contra hne; simp [Phase.next_waits hne hsrc] at hy
    subst h₁ h₃
    cases hx
    exact Phase.run_opened_idle hb
  · refine h.forall_obs (P := fun o => ∀ p ok, o = .write .app p ok →
      p.tag ≠ msgKexInit ∧ p.tag ≠ msgNewKeys) (fun _ _ _ hs p ok ho => ?_) _ hm p ok rfl
    obtain ⟨-, -, hk, hn⟩ := hs.app_write ho
    exact ⟨hk, hn⟩

theorem kexinit_holds_writes_sample :
    ∃ (os : List (Obs (Fin 1))) (s : HState (Fin 1)), Run sampleServer sampleExt .init os s ∧
      ∃ a p b q c, os = a ++ [.write .kexInit p true] ++ b ++ [.write .app q true] ++ c ∧
        (∀ e, .fail e ∉ a ++ b) ∧
        ∃ b₁ p' b₂ q' b₃,
          b = b₁ ++ [.write .newKeys p' true] ++ b₂ ++ [.read .newKeys (.ok q')] ++ b₃ ∧
            q'.tag = msgNewKeys := by
  obtain ⟨n, hn, hd, hk⟩ := sample_negotiate
  have h := (exchange_run (T := sampleServer) (s := (HState.init : HState (Fin 1)))
    (c := sampleCookie) (r := sampleResult) rfl (by decide) rfl rfl rfl rfl hn hd hk rfl).trans
    (writePacket_run (i := 0) (p := sampleData) rfl rfl (by decide) rfl rfl (by decide)
      (by decide))
  refine ⟨_, _, h, [.tau, .read .loop (.ok samplePeerInit), .tau], _,
    [.tau, .tau, .prepare n.algs { sampleResult with sessionID := sampleResult.h },
      .write .newKeys ⟨msgNewKeys, []⟩ true, .read .newKeys (.ok ⟨msgNewKeys, []⟩), .tau, .tau, .tau,
      .tau, .tau, .tau], sampleData, [.wret 0 none], rfl, by simp, ?_⟩
  exact (kexinit_holds_writes rfl h).1 [.tau, .read .loop (.ok samplePeerInit), .tau] _ _ _ _ _
    [.wret 0 none] rfl (.inl rfl) (by simp)

/-! ## The rekey threshold -/

section Threshold

variable {p : Packet} {w : Nat} {u u' : HState ι}

theorem UserStep.wLoop_cases (h : UserStep T ext i s o s') (hc : s.user i = .wLoop p) :
    (s'.user i = .wWait p ∧ s.sentInitMsg ≠ none) ∨ ∃ r, s'.user i = .wDone r := by
  cases h with
  | wWait h hs _ => cases hc.symm.trans h; exact .inl ⟨setUser_user_self, hs⟩
  | wErr | wKexInit | wNewKeys | wForward => exact .inr ⟨_, setUser_user_self⟩
  | _ => simp only [*, reduceCtorEq] at hc

/-- Writer `i` waits for the exchange to clear the KEXINIT outstanding; once cleared, the loop
keeps `t.mu` until it resets `writtenSinceKex`. -/
def Held (i : ι) (p : Packet) (u : HState ι) : Prop :=
  (u.user i = .wLoop p ∨ u.user i = .wWait p ∨ u.user i = .wWoken p) ∧
    (u.sentInitMsg ≠ none ∨ ∃ f e, u.loop = .bcast f e ∨ u.loop = .reset f e)

omit [DecidableEq ι] in
theorem Held.sent (hI : Inv s) (hH : Held i p s) (hm : s.mu ≠ some .loop) :
    s.sentInitMsg ≠ none := by
  rcases hH.2 with h | ⟨f, e, h | h⟩
  · exact h
  all_goals exact absurd (hI.mu_loop.mpr (by simp [h, LPc.locked])) hm

theorem Held.step (hH : Held i p s) (h : Step T ext s o s') :
    Held i p s' ∨ (∃ r, s'.user i = .wDone r) ∨ s'.writtenSinceKex = 0 := by
  obtain ⟨hc, hs⟩ := hH
  cases h with
  | loop h =>
    have hc' : s'.user i = .wLoop p ∨ s'.user i = .wWait p ∨ s'.user i = .wWoken p := by
      rcases h.frame.1 with hu | hu
      · rwa [hu]
      · rcases hc with hc | hc | hc <;> simp [hu, wake_apply, hc]
    -- the exchange withdraws the KEXINIT only on its way to the broadcast and the reset
    suffices s'.sentInitMsg ≠ none ∨ (∃ f e, s'.loop = .bcast f e ∨ s'.loop = .reset f e) ∨
        s'.writtenSinceKex = 0 by
      rcases this with h | h | h
      exacts [.inl ⟨hc', .inl h⟩, .inl ⟨hc', .inr h⟩, .inr (.inr h)]
    rcases hs with hs | ⟨f, e, hl | hl⟩
    · cases h
      case rkSend | kexBegin => exact .inl (by simpa [sendKexInitLocked_sent_ne hs] using hs)
      case clear => exact .inr (.inl ⟨_, _, .inl rfl⟩)
      all_goals exact .inl hs
    · cases h
      case bcast => exact .inr (.inl ⟨_, _, .inr rfl⟩)
      all_goals simp only [*, reduceCtorEq] at hl
    · cases h
      case resetErr | resetOk => exact .inr (.inr rfl)
      all_goals simp only [*, reduceCtorEq] at hl
  | user j h =>
    obtain ⟨hu, hl, -, -, -, -, -, hsn, -⟩ := h.frame
    have hs' : s'.sentInitMsg ≠ none ∨ ∃ f e, s'.loop = .bcast f e ∨ s'.loop = .reset f e := by
      rcases hs with hs | hs
      exacts [.inl (hsn hs ▸ hs), .inr (hl ▸ hs)]
    by_cases hji : j = i
    · subst hji
      rcases hc with hc | hc | hc
      · rcases h.wLoop_cases hc with ⟨hw, -⟩ | hd
        exacts [.inl ⟨.inr (.inl hw), hs'⟩, .inr (.inl hd)]
      · cases h <;> simp only [*, reduceCtorEq] at hc
      · cases h with
        | wWoken => exact .inl ⟨.inl (by simp_all), hs'⟩
        | _ => simp only [*, reduceCtorEq] at hc
    · exact .inl ⟨hu i (Ne.symm hji) ▸ hc, hs'⟩

def KexInitSent (s : HState ι) (os : List (Obs ι)) : Prop :=
  s.sentInitMsg ≠ none ∨ ∃ k, .write .kexInit k true ∈ os

omit [DecidableEq ι] in
theorem KexInitSent.append {os' : List (Obs ι)} (h : KexInitSent s os) :
    KexInitSent s (os ++ os') :=
  h.imp_right fun ⟨k, hk⟩ => ⟨k, List.mem_append_left _ hk⟩

end Threshold

end Fasst.Ssh
