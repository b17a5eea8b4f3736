import Fasst.Ssh.Handshake.Progress

/-!
# Fasst.Ssh.Handshake.ReadPath — what `readPacket` delivers

`readOnePacket` (common.go 560–622) hides each key exchange behind one packet, `msgNewKeys` for
the first and `msgIgnore` after; `readLoop` (537–558) drops ignore and debug packets and queues
the rest on `t.incoming`; `readPacket` (529–535) takes them off in order and, once the loop has
closed the channel, returns `t.readError`.

`delivered` says, from the reads of the `keyingTransport` a run shows (each labelled with the
statement that made it), which packets the callers should get.  The loop implements it:

* `ReadFlow`: what the callers took off `incoming`, followed by what is still queued or in the
  loop's hands (`pending`), is `delivered`, and the loop's `firstKex` agrees with the reads;
* `readFlow_run`: every run from the initial state keeps `ReadFlow`;
* `Run.after_stop`: once `t.readError` is set the callers get the queued packets and then that
  error, and `recv_ready`: a waiting `readPacket` always returns.
-/

namespace Fasst.Ssh

variable {ι : Type}

/-! ## The stream the callers should see -/

/-- Whether a read ends a key exchange: a packet tagged `msgNewKeys`, read where
`enterKeyExchangeLocked` expects the peer's NEWKEYS. -/
def endsExchange : RdSrc → Except String Packet → Bool
  | .newKeys, .ok p => decide (p.tag = msgNewKeys)
  | _, _ => false

/-- The packets one read of the `keyingTransport` adds to the stream, given whether an exchange
has completed before it: a packet read outside an exchange that neither opens one nor is an
ignore or debug message, and a NEWKEYS in place of the first completed exchange. -/
def emits (done : Bool) : RdSrc → Except String Packet → List Packet
  | .loop, .ok p => if p.tag = msgKexInit ∨ p.tag = msgIgnore ∨ p.tag = msgDebug then [] else [p]
  | .newKeys, .ok p => if !done && p.tag = msgNewKeys then [⟨msgNewKeys, []⟩] else []
  | _, _ => []

def completed : List (Obs ι) → Bool
  | [] => false
  | .read src r :: os => endsExchange src r || completed os
  | _ :: os => completed os

/-- The packets the callers should receive from a run, in order. -/
def delivered (done : Bool) : List (Obs ι) → List Packet
  | [] => []
  | .read src r :: os => emits done src r ++ delivered (done || endsExchange src r) os
  | _ :: os => delivered done os

def Obs.recvResult : Obs ι → Option (Except String Packet)
  | .recv r => some r
  | _ => none

def recvResults (os : List (Obs ι)) : List (Except String Packet) := os.filterMap Obs.recvResult

def received (os : List (Obs ι)) : List Packet := (recvResults os).filterMap Except.toOption

section Stream

variable {os os' : List (Obs ι)} {d : Bool}

@[simp] theorem completed_append : completed (os ++ os') = (completed os || completed os') := by
  induction os with
  | nil => rfl
  | cons o os ih => cases o <;> simp [completed, ih, Bool.or_assoc]

@[simp] theorem delivered_append :
    delivered d (os ++ os') = delivered d os ++ delivered (d || completed os) os' := by
  induction os generalizing d with
  | nil => simp [delivered, completed]
  | cons o os ih => cases o <;> simp [delivered, completed, ih, Bool.or_assoc]

@[simp] theorem recvResults_append : recvResults (os ++ os') = recvResults os ++ recvResults os' :=
  List.filterMap_append _ _ _

@[simp] theorem received_append : received (os ++ os') = received os ++ received os' := by
  simp [received]

@[simp] theorem recvResults_singleton (o : Obs ι) : recvResults [o] = o.recvResult.toList := by
  cases h : o.recvResult <;> simp [recvResults, h]

variable {T : Transport} {ext : Ext} {sent : Option KexInitMsg} {c : List UInt8} {o : Option String}

@[simp] theorem completed_kexInitObs :
    completed (kexInitObs T ext sent c o :: os) = completed os := by
  cases sent <;> rfl

@[simp] theorem delivered_kexInitObs :
    delivered d (kexInitObs T ext sent c o :: os) = delivered d os := by
  cases sent <;> rfl

@[simp] theorem recvResult_kexInitObs : (kexInitObs T ext sent c o : Obs ι).recvResult = none := by
  cases sent <;> rfl

end Stream

/-! ## What is still on its way to the callers -/

/-- The packet the loop holds and will still queue: one read and not yet dropped or sent, or,
from the end of the first exchange on, its marker. -/
def LPc.inHand : LPc → List Packet
  | .got p => if p.tag = msgIgnore ∨ p.tag = msgDebug then [] else [p]
  | .send p => [p]
  | .clear first err | .bcast first err | .reset first err =>
    if first && err.isNone then [⟨msgNewKeys, []⟩] else []
  | _ => []

def pending (s : HState ι) : List Packet := s.incoming ++ s.loop.inHand

/-- The loop's `firstKex` agrees with the reads: `done` says whether an exchange has completed,
`sid` is `t.sessionID`. -/
def LPc.FirstAt (done : Bool) (sid : Option (List UInt8)) : LPc → Prop
  | .start | .read | .rkLock | .rkSend | .rkUnlock _ | .kexLock _ | .kexBegin _ | .got _
  | .send _ => (sid == none) = !done
  | .negotiate first _ _ | .guess first _ | .kexRun first _ | .keys first _ _ => first = !done
  | .newKeysW first | .newKeysR first => first = !done ∧ sid ≠ none
  | .clear _ err | .bcast _ err | .reset _ err => err = none → done = true ∧ sid ≠ none
  | _ => True

/-! ## One step -/

section Steps

variable {T : Transport} {ext : Ext} {s s' : HState ι} {o : Obs ι} {d : Bool}

/-- A loop step receives nothing, adds to the stream what it reads, and moves the packet it
holds onto `incoming` or drops it only as `readLoop` does. -/
theorem LoopStep.flow (hh : T.config.helloOnly = false) (hf : s.loop.FirstAt d s.sessionID)
    (h : LoopStep T ext s o s') :
    received [o] ++ pending s' = pending s ++ delivered d [o] ∧
      s'.loop.FirstAt (d || completed [o]) s'.sessionID := by
  cases h
  case newKeysR _ _ r =>
    cases r <;> (repeat' split) <;> simp_all [received, Obs.recvResult, pending, LPc.inHand,
      LPc.FirstAt, delivered, completed, emits, endsExchange, expectNewKeys, msgNewKeys]
  all_goals
    try simp only [afterGuess, marker]
    repeat' split
    all_goals simp_all [received, Obs.recvResult, pending, LPc.inHand, LPc.FirstAt, delivered,
      completed, emits, endsExchange, msgNewKeys, msgIgnore, msgDebug]

theorem LoopStep.recvResult (h : LoopStep T ext s o s') : o.recvResult = none := by
  cases h <;> simp [Obs.recvResult]

theorem LoopStep.of_ended (he : s.loop.ended) (h : LoopStep T ext s o s') :
    s'.incoming = s.incoming ∧ s'.readError = s.readError := by
  cases h <;> simp_all [LPc.ended]

variable [DecidableEq ι] {i : ι}

/-- A caller's step takes the head of `incoming`, or finds it empty and closed and returns
`t.readError`, or leaves `incoming` alone and receives nothing; it never reads the
`keyingTransport`. -/
theorem UserStep.recv_cases (h : UserStep T ext i s o s') :
    ((∃ p, o = .recv (.ok p) ∧ s.incoming = p :: s'.incoming) ∨
      (∃ e, o = .recv (.error e) ∧ s.incoming = [] ∧ s.closed = true ∧ s.readError = some e ∧
        s'.incoming = []) ∨
      (o.recvResult = none ∧ s'.incoming = s.incoming)) ∧ ∀ src r, o ≠ .read src r := by
  cases h <;> simp_all [Obs.recvResult]

theorem UserStep.flow (h : UserStep T ext i s o s') :
    received [o] ++ pending s' = pending s ++ delivered d [o] ∧ completed [o] = false ∧
      s'.loop = s.loop ∧ s'.sessionID = s.sessionID := by
  obtain ⟨-, hl, -, -, -, -, hsid, -⟩ := h.frame
  obtain ⟨hq, hnr⟩ := h.recv_cases
  have hd : delivered d [o] = [] ∧ completed [o] = false := by
    cases o <;> simp_all [delivered, completed]
  refine ⟨?_, hd.2, hl, hsid⟩
  rcases hq with ⟨p, rfl, hq⟩ | ⟨e, rfl, hq, -, -, hq'⟩ | ⟨hr, hq⟩ <;>
    simp_all [pending, received, Obs.recvResult, Except.toOption]

/-- Every step keeps the stream equation's shape: what it hands to a caller and what it leaves
on the way is what was on the way plus what its read adds. -/
theorem Step.flow (hh : T.config.helloOnly = false) (hf : s.loop.FirstAt d s.sessionID)
    (h : Step T ext s o s') :
    received [o] ++ pending s' = pending s ++ delivered d [o] ∧
      s'.loop.FirstAt (d || completed [o]) s'.sessionID := by
  cases h with
  | loop h => exact h.flow hh hf
  | user i h =>
    obtain ⟨hp, hc, hl, hsid⟩ := h.flow (d := d)
    exact ⟨hp, by rw [hc, Bool.or_false, hl, hsid]; exact hf⟩

theorem Step.closed_mono (h : Step T ext s o s') (hc : s.closed = true) : s'.closed = true := by
  cases h with
  | loop h => cases h <;> simp_all
  | user i h =>
    obtain ⟨-, -, -, -, hcl, -⟩ := h.frame
    rw [hcl, hc]

theorem Step.closed_of_recv_error {e : String} (h : Step T ext s (.recv (.error e)) s') :
    s.closed = true := by
  cases h with
  | loop h => simpa [Obs.recvResult] using h.recvResult
  | user i h =>
    rcases h.recv_cases.1 with ⟨p, hp, -⟩ | ⟨e', -, -, hc, -⟩ | ⟨hr, -⟩
    · cases hp
    · exact hc
    · simp [Obs.recvResult] at hr

end Steps

/-! ## Whole runs -/

section Runs

variable [DecidableEq ι] {T : Transport} {ext : Ext} {s t : HState ι} {o : Obs ι}
  {os : List (Obs ι)} {e : String}

/-- The read path's invariant over a run's observations `os` and the state `s` it reaches. -/
structure ReadFlow (os : List (Obs ι)) (s : HState ι) : Prop where
  stream : received os ++ pending s = delivered false os
  first : s.loop.FirstAt (completed os) s.sessionID

omit [DecidableEq ι] in
theorem ReadFlow.init : ReadFlow ([] : List (Obs ι)) .init := ⟨rfl, rfl⟩

theorem ReadFlow.step (hh : T.config.helloOnly = false) (hI : ReadFlow os s)
    (h : Step T ext s o t) : ReadFlow (os ++ [o]) t := by
  obtain ⟨hp, hf⟩ := h.flow hh hI.first
  refine ⟨?_, by simpa using hf⟩
  calc received (os ++ [o]) ++ pending t = received os ++ (received [o] ++ pending t) := by simp
    _ = (received os ++ pending s) ++ delivered (completed os) [o] := by
      rw [hp, List.append_assoc]
    _ = delivered false (os ++ [o]) := by rw [hI.stream, delivered_append, Bool.false_or]

theorem readFlow_run (hh : T.config.helloOnly = false) (h : Run T ext .init os s) :
    ReadFlow os s := by
  induction h with
  | refl => exact .init
  | tail _ hs ih => exact ih.step hh hs

theorem Run.closed_of_recv_error (h : Run T ext s os t) (he : .recv (.error e) ∈ os) :
    t.closed = true := by
  induction h with
  | refl => simp at he
  | tail _ hs ih =>
    rcases List.mem_append.mp he with he | he
    · exact hs.closed_mono (ih he)
    · rw [List.mem_singleton] at he
      subst he
      exact hs.closed_mono hs.closed_of_recv_error

theorem LPc.inHand_of_ended {p : LPc} (h : p.ended) : p.inHand = [] := by
  cases p <;> simp_all [LPc.ended, LPc.inHand]

omit [DecidableEq ι] in
theorem Inv.ended_of_readError (hI : Inv s) (he : s.readError = some e) : s.loop.ended := by
  rw [← hI.closed_ended, ← hI.readError_closed, he]
  rfl

/-- After `t.readError = e; close(t.incoming)` the callers take what was queued, in order, and
then get `e` on every call once the queue is empty. -/
theorem Run.after_stop (hI : Inv s) (he : s.readError = some e) (h : Run T ext s os t) :
    t.readError = some e ∧ ∃ a m, recvResults os = a.map .ok ++ List.replicate m (.error e) ∧
      a ++ t.incoming = s.incoming ∧ (m ≠ 0 → t.incoming = []) := by
  induction h with
  | refl => exact ⟨he, [], 0, rfl, rfl, fun h => absurd rfl h⟩
  | @tail t u os o hr hs ih =>
    obtain ⟨he', a, m, hrs, ha, hm⟩ := ih
    cases hs with
    | loop h =>
      obtain ⟨hq, hre⟩ := h.of_ended ((hI.run hr).ended_of_readError he')
      exact ⟨hre ▸ he', a, m, by simp [hrs, h.recvResult], hq ▸ ha, hq ▸ hm⟩
    | user i h =>
      obtain ⟨-, -, -, -, -, hre, -⟩ := h.frame
      refine ⟨hre ▸ he', ?_⟩
      rcases h.recv_cases.1 with ⟨p, rfl, hq⟩ | ⟨e', rfl, hq, -, he'', hq'⟩ | ⟨hr0, hq⟩
      · have hm0 : m = 0 := by
          by_contra h0
          simp [hm h0] at hq
        subst hm0
        exact ⟨a ++ [p], 0, by simp [hrs, Obs.recvResult], by simp [← ha, hq],
          fun h => absurd rfl h⟩
      · obtain rfl : e' = e := Option.some.inj (he''.symm.trans he')
        refine ⟨a, m + 1, ?_, by simpa [hq, hq'] using ha, fun _ => hq'⟩
        simp [hrs, Obs.recvResult, List.replicate_succ']
      · exact ⟨a, m, by simp [hrs, hr0], hq ▸ ha, hq ▸ hm⟩

theorem recv_ready {i : ι} (hI : Inv s) (hc : s.closed = true) (hi : s.user i = .rRecv) :
    ∃ r t, Step T ext s (.recv r) t := by
  cases hq : s.incoming with
  | nil =>
    obtain ⟨e, he⟩ := Option.isSome_iff_exists.mp (hI.readError_closed.trans hc)
    exact ⟨_, _, .user i (.rRecvClosed hi hq hc he)⟩
  | cons p rest => exact ⟨_, _, .user i (.rRecv hi hq)⟩

end Runs

/-! ## The stream `readPacket` delivers -/

variable [DecidableEq ι] {T : Transport} {ext : Ext}

/-- **What `readPacket` delivers.** With `HelloOnly` false, whatever the `keyingTransport` returns
and whatever the exchange methods do: the packets the callers have taken off `incoming` (by
`readPacket`, or by `sendKexInit` waiting for the first exchange), followed by those still queued
or in the loop's hands, are the packets read with ignore and debug messages and exchanges removed
and one NEWKEYS for the first completed exchange; no error is returned while the loop runs.
Once the loop has stopped with `e`, the callers get the rest of that stream and then `e`, and a
waiting `readPacket` always returns. -/
theorem read_stream (hh : T.config.helloOnly = false) :
    (∀ os (s : HState ι), Run T ext .init os s →
      received os ++ pending s = delivered false os ∧
        (s.closed = false → ∀ e, .recv (.error e) ∉ os)) ∧
    (∀ os (s : HState ι) e os' t, Run T ext .init os s → s.readError = some e →
      Run T ext s os' t → ∃ a m, recvResults os' = a.map .ok ++ List.replicate m (.error e) ∧
        received os ++ a <+: delivered false os ∧ (m ≠ 0 → received os ++ a = delivered false os)) ∧
    (∀ (s : HState ι) i, Reachable T ext s → s.closed = true → s.user i = .rRecv →
      ∃ r t, Step T ext s (.recv r) t) := by
  refine ⟨fun os s h => ⟨(readFlow_run hh h).stream, fun hc e he => ?_⟩, ?_,
    fun s i hs => recv_ready hs.inv⟩
  · simpa [hc] using h.closed_of_recv_error he
  · intro os s e os' t hs he ht
    have hI : Inv s := Reachable.inv ⟨os, hs⟩
    obtain ⟨-, a, m, hr, ha, hm⟩ := ht.after_stop hI he
    have hst := (readFlow_run hh hs).stream
    rw [pending, LPc.inHand_of_ended (hI.ended_of_readError he), List.append_nil, ← ha,
      ← List.append_assoc] at hst
    exact ⟨a, m, hr, ⟨_, hst⟩, fun h0 => by simpa [hm h0] using hst⟩

theorem read_stream_sample :
    ∃ (os : List (Obs (Fin 1))) (s : HState (Fin 1)), Run sampleServer sampleExt .init os s ∧
      received os = [sampleData] ∧ received os ++ pending s = delivered false os := by
  have h : Run sampleServer sampleExt (HState.init : HState (Fin 1)) _ _ :=
    (forward_run (p := sampleData) rfl (by simp [HState.init]) (by decide) (by decide)
      (by simp [HState.init])).trans <|
    .cons (.user 0 (.callRead rfl)) <| .cons (.user 0 (.rRecv (by simp) rfl)) (.refl _)
  exact ⟨_, _, h, rfl, ((read_stream (by rfl)).1 _ _ h).1⟩

end Fasst.Ssh
