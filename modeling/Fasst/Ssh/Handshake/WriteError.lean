import Fasst.Ssh.Handshake.Progress

/-!
# Fasst.Ssh.Handshake.WriteError — the failed write side

`t.writeError` goes from `nil` to an error once, when a failed exchange closes the connection or
when the read loop ends, and never changes afterwards; a `writePacket` that returns after that
returns that error, and no writer stays parked while `t.mu` is free (`write_error_final`).

The write side is not silent afterwards, though: `writePacket` tests the rekey threshold and
calls `sendKexInitLocked` before it looks at `writeError`, and `sendKexInit` never looks at it,
so a KEXINIT can still be handed to the underlying transport.  Nothing else can, and once one
such KEXINIT is written no packet at all follows (`failed_write_side_kexinit_only`).
-/

namespace Fasst.Ssh

variable {ι : Type} [DecidableEq ι] {T : Transport} {ext : Ext} {s s' t : HState ι}
  {o : Obs ι} {os : List (Obs ι)} {e : String} {i : ι}

theorem LPc.ne_clear_of_not_locked {q : LPc} (h : q.locked = false) (first : Bool)
    (err : Option String) : q ≠ .clear first err := by
  rintro rfl; simp [LPc.locked] at h

/-! ## `writeError` is set once -/

section WriteError

/-- A step sets `writeError` from `nil` to `e` and shows `fail e`, or leaves it alone. -/
theorem Inv.writeError_step (hI : Inv s) (h : Step T ext s o s') :
    (∃ e, o = .fail e ∧ s.writeError = none ∧ s'.writeError = some e) ∨
      ((∀ e, o ≠ .fail e) ∧ s'.writeError = s.writeError) := by
  have := hI.writeError_at
  cases h with
  | loop h => cases h <;> simp_all [LPc.WriteErrorAt]
  | user i h => cases h <;> simp_all

theorem Inv.writeError_run (hI : Inv s) (h : Run T ext s os t) (he : s.writeError = some e) :
    t.writeError = some e := by
  induction h with
  | refl => exact he
  | tail hr hs ih =>
    rcases (hI.run hr).writeError_step hs with ⟨_, _, h0, -⟩ | ⟨-, h1⟩
    · simp [ih] at h0
    · rw [h1, ih]

theorem writeError_none_run (h : Run T ext .init os s) (hf : ∀ e, .fail e ∉ os) :
    s.writeError = none := by
  induction h with
  | refl => rfl
  | tail hr hs ih =>
    have ih := ih fun e he => hf e (List.mem_append_left _ he)
    rcases (Inv.init.run hr).writeError_step hs with ⟨e, rfl, -⟩ | ⟨-, h1⟩
    · exact absurd (List.mem_append_right _ (List.mem_singleton_self _)) (hf e)
    · rw [h1, ih]

end WriteError

/-! ## What the failed write side still writes -/

section Failed

variable {src : Src} {p : Packet} {ok : Bool}

/-- The write side has failed and its last KEXINIT is outstanding for good: the loop is past the
point where it clears `sentInitMsg`. -/
def Spent (s : HState ι) : Prop :=
  s.writeError ≠ none ∧ s.sentInitMsg ≠ none ∧ ∀ first err, s.loop ≠ .clear first err

/-- With `writeError` set, a packet handed to the underlying transport is a KEXINIT that
`sendKexInitLocked` builds (none is outstanding); once one is written the side is spent. -/
theorem Inv.write_of_failed (hI : Inv s) (hw : s.writeError ≠ none) (h : Step T ext s o s')
    (ho : o = .write src p ok) :
    src = .kexInit ∧ s.sentInitMsg = none ∧ (ok = true → Spent s') := by
  have := hI.writeError_at
  cases h with
  | loop h => cases h <;> simp_all [LPc.WriteErrorAt]
  | user j h =>
    have hl : (s.user j).locked → ∀ first err, s.loop ≠ .clear first err := fun hj =>
      LPc.ne_clear_of_not_locked (by simpa [(hI.mu_user j).mpr hj] using hI.mu_loop.not)
    cases h <;> simp_all [Spent, UPc.locked, Transport.sendKexInitLocked, eq_comm (a := true)]

theorem Inv.spent_step (hI : Inv s) (hS : Spent s) (h : Step T ext s o s') :
    Spent s' ∧ ∀ src p ok, o ≠ .write src p ok := by
  obtain ⟨hw, hs, hc⟩ := hS
  have := hI.writeError_at
  cases h with
  | loop h => cases h <;> simp_all [Spent, LPc.WriteErrorAt, sendKexInitLocked_sent_ne]
  | user j h =>
    obtain ⟨-, hl, -, hw', -, -, -, hs', -⟩ := h.frame
    refine ⟨⟨hw' ▸ hw, hs' hs ▸ hs, hl ▸ hc⟩, ?_⟩
    cases h <;> simp_all

theorem Inv.spent_run (hI : Inv s) (hS : Spent s) (h : Run T ext s os t) :
    Spent t ∧ ∀ src p ok, .write src p ok ∉ os := by
  induction h with
  | refl => exact ⟨hS, by simp⟩
  | tail hr hst ih =>
    have := (hI.run hr).spent_step ih.1 hst
    refine ⟨this.1, fun src p ok hm => ?_⟩
    rcases List.mem_append.mp hm with hm | hm
    · exact ih.2 src p ok hm
    · exact this.2 src p ok (List.mem_singleton.mp hm).symm

/-- The read loop's first read fails and the loop ends, setting `writeError`; then a
`requestKeyChange` builds a KEXINIT and the underlying transport writes it. -/
theorem kexinit_after_read_error_run (T : Transport) (ext : Ext) (i : ι) (e : String)
    {c : List UInt8} (hc : c.length = 16) :
    ∃ s, Run T ext (.init : HState ι)
      [.tau, .read .loop (.error e), .tau, .tau, .fail e, .tau, .tau, .tau,
        .write .kexInit (kexInitPacket ext (T.kexInitMsg c)) true] s :=
  ⟨_, .cons (.loop (.start rfl)) <| .cons (.loop (.readErr (by simp [HState.init]) e)) <|
    .cons (.loop (.stop rfl)) <| .cons (.loop (.endLock rfl rfl)) <|
    .cons (.loop (.endSetFail rfl rfl rfl)) <| .cons (.loop (.endBcast rfl)) <|
    .cons (.user i (.callKex false rfl)) <| .cons (.user i (.kLock setUser_user_self rfl)) <|
    .cons (.user i (.kSend (by exact setUser_user_self) (.inl rfl) c hc none)) (.refl _)⟩

/-- A KEXINIT reaches `keyingTransport.writePacket` after `writeError` was set. -/
theorem kexinit_written_after_write_error :
    ∃ (os : List (Obs (Fin 1))) (s : HState (Fin 1)), Run sampleServer sampleExt .init os s ∧
      ∃ a e b p c, os = a ++ [.fail e] ++ b ++ [.write .kexInit p true] ++ c :=
  let ⟨s, h⟩ := kexinit_after_read_error_run sampleServer sampleExt 0 "EOF" (c := sampleCookie) rfl
  ⟨_, s, h, [.tau, .read .loop (.error "EOF"), .tau, .tau], "EOF", [.tau, .tau, .tau], _, [], rfl⟩

/-- **After the write side failed, only KEXINITs.** Once a `fail` is shown (`writeError` set),
every packet handed to `keyingTransport.writePacket` is a KEXINIT from `sendKexInitLocked`, and
after one of them is written successfully nothing more is handed over. -/
theorem failed_write_side_kexinit_only {s : HState ι} (h : Run T ext .init os s) :
    (∀ a e b src p ok c, os = a ++ [.fail e] ++ b ++ [.write src p ok] ++ c → src = .kexInit) ∧
    (∀ a e b p c, os = a ++ [.fail e] ++ b ++ [.write .kexInit p true] ++ c →
      ∀ src q ok, .write src q ok ∉ c) := by
  have dead : ∀ a e b x c, os = a ++ [.fail e] ++ b ++ [x] ++ c →
      ∃ t t', Inv t ∧ t.writeError ≠ none ∧ Step T ext t x t' ∧ Run T ext t' c s := by
    rintro a e b x c rfl
    obtain ⟨t₁, t₁', h₁, hf, h'⟩ := (by simpa only [List.append_assoc] using h :
      Run T ext .init (a ++ [.fail e] ++ (b ++ [x] ++ c)) s).split_at
    obtain ⟨t₂, t₂', h₂, hx, h₃⟩ := h'.split_at
    have hI₁ := Inv.init.run h₁
    have he : t₁'.writeError = some e := by
      rcases hI₁.writeError_step hf with ⟨e', he', -, h1⟩ | ⟨hne, -⟩
      · cases he'; exact h1
      · exact absurd rfl (hne e)
    exact ⟨t₂, t₂', (hI₁.step hf).run h₂, by simp [(hI₁.step hf).writeError_run h₂ he], hx, h₃⟩
  refine ⟨fun a e b src p ok c hos => ?_, fun a e b p c hos => ?_⟩
  · obtain ⟨t, t', hI, hw, hx, -⟩ := dead a e b _ c hos
    exact (hI.write_of_failed hw hx rfl).1
  · obtain ⟨t, t', hI, hw, hx, hc⟩ := dead a e b _ c hos
    exact ((hI.step hx).spent_run ((hI.write_of_failed hw hx rfl).2.2 rfl) hc).2

theorem failed_write_side_sample :
    ∃ (os : List (Obs (Fin 1))) (s : HState (Fin 1)), Run sampleServer sampleExt .init os s ∧
      Obs.fail "EOF" ∈ os ∧
      (∀ a e b src p ok c, os = a ++ [.fail e] ++ b ++ [.write src p ok] ++ c →
        src = .kexInit) ∧
      (∀ a e b p c, os = a ++ [.fail e] ++ b ++ [.write .kexInit p true] ++ c →
        ∀ src q ok, .write src q ok ∉ c) :=
  let ⟨s, h⟩ := kexinit_after_read_error_run sampleServer sampleExt 0 "EOF" (c := sampleCookie) rfl
  ⟨_, s, h, by simp, failed_write_side_kexinit_only h⟩

end Failed

end Fasst.Ssh
