import Fasst.Ssh.Handshake.Defs

/-!
# Fasst.Ssh.Handshake.Step — the step relation of `handshakeTransport`

`Step T ext s o s'`: one goroutine executes one statement of `common.go` (lines 529–890), with
the answer of the environment where the statement calls it.  The read loop (`newClientTransport`
and `newServerTransport` start it) is `s.loop`; every other goroutine (`writePacket`,
`requestKeyChange`, `requestInitialKeyChange`, `readPacket`) is `s.user i`, and an idle one may
start any call, any number of times.  `t.mu` is `s.mu`; `t.cond.Wait()` parks a writer and
releases `t.mu` in one step, `Broadcast` wakes every parked writer.  The `keyingTransport`
answers each `readPacket` with any packet or error and each `writePacket` with success or any
error; a running key-exchange method may write and read any packets and return any result.
Counters are natural numbers (`uint64` in the source; no run reaches `2^64` bytes).
-/

namespace Fasst.Ssh

variable {ι : Type}

/-! ## Updates -/

def HState.setUser [DecidableEq ι] (s : HState ι) (i : ι) (p : UPc) : HState ι :=
  { s with user := Function.update s.user i p }

def HState.setLoop (s : HState ι) (p : LPc) : HState ι := { s with loop := p }

/-- `t.cond.Broadcast()`: every writer parked in `Wait` becomes runnable. -/
def wake (u : ι → UPc) : ι → UPc := fun j =>
  match u j with
  | .wWait p => .wWoken p
  | q => q

/-- The packet `readOnePacket` returns for a finished exchange: `msgNewKeys` for the first,
`msgIgnore` after. -/
def marker (first : Bool) : Packet := if first then ⟨msgNewKeys, []⟩ else ⟨msgIgnore, []⟩

/-- What `sendKexInitLocked` shows: the KEXINIT handed to `conn.writePacket`, if it built one. -/
def kexInitObs (T : Transport) (ext : Ext) (sent : Option KexInitMsg) (cookie : List UInt8)
    (o : Option String) : Obs ι :=
  match sent with
  | some _ => .tau
  | none => .write .kexInit (kexInitPacket ext (T.kexInitMsg cookie)) o.isNone

section KexInitObs

variable {T : Transport} {ext : Ext} {sent : Option KexInitMsg} {c : List UInt8}
  {o : Option String}

@[simp] theorem kexInitObs_eq_write {src : Src} {p : Packet} {ok : Bool} :
    (kexInitObs T ext sent c o : Obs ι) = .write src p ok ↔
      sent = none ∧ src = .kexInit ∧ p = kexInitPacket ext (T.kexInitMsg c) ∧ ok = o.isNone := by
  cases sent <;> simp [kexInitObs, eq_comm]

@[simp] theorem kexInitObs_ne_fail {e : String} : (kexInitObs T ext sent c o : Obs ι) ≠ .fail e := by
  cases sent <;> simp [kexInitObs]

@[simp] theorem kexInitObs_ne_read {src : RdSrc} {r : Except String Packet} :
    (kexInitObs T ext sent c o : Obs ι) ≠ .read src r := by
  cases sent <;> simp [kexInitObs]

@[simp] theorem kexInitObs_ne_prepare {algs : Algorithms} {r : KexResult} :
    (kexInitObs T ext sent c o : Obs ι) ≠ .prepare algs r := by
  cases sent <;> simp [kexInitObs]

@[simp] theorem kexInitObs_ne_wret {i : ι} {r : Option String} :
    (kexInitObs T ext sent c o : Obs ι) ≠ .wret i r := by
  cases sent <;> simp [kexInitObs]

@[simp] theorem kexInitObs_ne_kret {i : ι} {first : Bool} {r : Option String} :
    (kexInitObs T ext sent c o : Obs ι) ≠ .kret i first r := by
  cases sent <;> simp [kexInitObs]

@[simp] theorem kexInitObs_ne_recv {r : Except String Packet} :
    (kexInitObs T ext sent c o : Obs ι) ≠ .recv r := by
  cases sent <;> simp [kexInitObs]

@[simp] theorem kexInitObs_ne_close : (kexInitObs T ext sent c o : Obs ι) ≠ .close := by
  cases sent <;> simp [kexInitObs]

end KexInitObs

variable [DecidableEq ι]

/-- After the guessed packet: `kex, ok := kexAlgoMap[algs.Kex]`. -/
def afterGuess (ext : Ext) (first : Bool) (n : Transport.Negotiated) : LPc :=
  if ext.kexAlgoMap n.algs.kex then .kexRun first n
  else .dropConn first ("ssh: unexpected key exchange algorithm " ++ n.algs.kex)

/-- The fresh transport: the read loop at its first statement, every caller idle. -/
def HState.init : HState ι :=
  ⟨0, none, none, 0, none, none, none, [], false, .start, fun _ => .idle⟩

/-! ## Steps -/

/-- One statement of caller goroutine `i`. -/
inductive UserStep (T : Transport) (ext : Ext) (i : ι) : HState ι → Obs ι → HState ι → Prop
  /- callers -/
  | callWrite {s} (p : Packet) (h : s.user i = .idle) :
      UserStep T ext i s .tau (s.setUser i (.wLock p))
  | callKex {s} (first : Bool) (h : s.user i = .idle) :
      UserStep T ext i s .tau (s.setUser i (.kLock first))
  | callRead {s} (h : s.user i = .idle) : UserStep T ext i s .tau (s.setUser i .rRecv)
  /- `writePacket` -/
  | wLock {s p} (h : s.user i = .wLock p) (hm : s.mu = none) :
      UserStep T ext i s .tau { s.setUser i (.wCheck p) with mu := some (.user i) }
  | wCheckSend {s p} (h : s.user i = .wCheck p)
      (ht : T.config.rekeyThreshold < s.writtenSinceKex) (c : List UInt8) (hc : c.length = 16)
      (o : Option String) :
      UserStep T ext i s (kexInitObs T ext s.sentInitMsg c o)
        { s.setUser i (.wLoop p) with sentInitMsg := (T.sendKexInitLocked s.sentInitMsg c o).2 }
  | wCheckSkip {s p} (h : s.user i = .wCheck p)
      (ht : ¬ T.config.rekeyThreshold < s.writtenSinceKex) :
      UserStep T ext i s .tau (s.setUser i (.wLoop p))
  | wWait {s p} (h : s.user i = .wLoop p) (hs : s.sentInitMsg ≠ none)
      (hw : s.writeError = none) :
      UserStep T ext i s .tau { s.setUser i (.wWait p) with mu := none }
  | wWoken {s p} (h : s.user i = .wWoken p) (hm : s.mu = none) :
      UserStep T ext i s .tau { s.setUser i (.wLoop p) with mu := some (.user i) }
  | wErr {s p e} (h : s.user i = .wLoop p) (hw : s.writeError = some e) :
      UserStep T ext i s .tau (s.setUser i (.wDone (some e)))
  | wKexInit {s p} (h : s.user i = .wLoop p) (hs : s.sentInitMsg = none)
      (hw : s.writeError = none) (ht : p.tag = msgKexInit) :
      UserStep T ext i s .tau
        { s.setUser i (.wDone (some "ssh: only handshakeTransport can send kexInit")) with
          writtenSinceKex := s.writtenSinceKex + p.len }
  | wNewKeys {s p} (h : s.user i = .wLoop p) (hs : s.sentInitMsg = none)
      (hw : s.writeError = none) (ht : p.tag = msgNewKeys) :
      UserStep T ext i s .tau
        { s.setUser i (.wDone (some "ssh: only handshakeTransport can send newKeys")) with
          writtenSinceKex := s.writtenSinceKex + p.len }
  | wForward {s p} (h : s.user i = .wLoop p) (hs : s.sentInitMsg = none)
      (hw : s.writeError = none) (ht : p.tag ≠ msgKexInit) (hn : p.tag ≠ msgNewKeys)
      (o : Option String) :
      UserStep T ext i s (.write .app p o.isNone)
        { s.setUser i (.wDone o) with writtenSinceKex := s.writtenSinceKex + p.len }
  | wReturn {s r} (h : s.user i = .wDone r) :
      UserStep T ext i s (.wret i r) { s.setUser i .idle with mu := none }
  /- `sendKexInit` -/
  | kLock {s first} (h : s.user i = .kLock first) (hm : s.mu = none) :
      UserStep T ext i s .tau { s.setUser i (.kSend first) with mu := some (.user i) }
  | kSkip {s} (h : s.user i = .kSend true) (hs : s.sessionID ≠ none) :
      UserStep T ext i s .tau (s.setUser i (.kUnlock true none))
  | kSend {s first} (h : s.user i = .kSend first) (hs : first = false ∨ s.sessionID = none)
      (c : List UInt8) (hc : c.length = 16) (o : Option String) :
      UserStep T ext i s (kexInitObs T ext s.sentInitMsg c o)
        { s.setUser i (.kUnlock first (errorOf (T.sendKexInitLocked s.sentInitMsg c o).1)) with
          sentInitMsg := (T.sendKexInitLocked s.sentInitMsg c o).2 }
  | kUnlockErr {s first e} (h : s.user i = .kUnlock first (some e)) :
      UserStep T ext i s (.kret i first (some e)) { s.setUser i .idle with mu := none }
  | kUnlockFirst {s} (h : s.user i = .kUnlock true none) :
      UserStep T ext i s .tau { s.setUser i .kRecv with mu := none }
  | kUnlockDone {s} (h : s.user i = .kUnlock false none) :
      UserStep T ext i s (.kret i false none) { s.setUser i .idle with mu := none }
  | kRecv {s p rest} (h : s.user i = .kRecv) (hq : s.incoming = p :: rest) :
      UserStep T ext i s (.recv (.ok p)) { s.setUser i (.kGot (.ok p)) with incoming := rest }
  | kRecvClosed {s e} (h : s.user i = .kRecv) (hq : s.incoming = []) (hc : s.closed = true)
      (he : s.readError = some e) :
      UserStep T ext i s (.recv (.error e)) (s.setUser i (.kGot (.error e)))
  | kGot {s r} (h : s.user i = .kGot r) :
      UserStep T ext i s (.kret i true (expectNewKeys r)) (s.setUser i .idle)
  /- `readPacket` -/
  | rRecv {s p rest} (h : s.user i = .rRecv) (hq : s.incoming = p :: rest) :
      UserStep T ext i s (.recv (.ok p)) { s.setUser i .idle with incoming := rest }
  | rRecvClosed {s e} (h : s.user i = .rRecv) (hq : s.incoming = []) (hc : s.closed = true)
      (he : s.readError = some e) :
      UserStep T ext i s (.recv (.error e)) (s.setUser i .idle)

/-- One statement of the read loop. -/
inductive LoopStep (T : Transport) (ext : Ext) : HState ι → Obs ι → HState ι → Prop
  /- `readOnePacket` up to the KEXINIT test -/
  | start {s} (h : s.loop = .start) :
      LoopStep T ext s .tau
        (s.setLoop (if T.config.rekeyThreshold < s.readSinceKex then .rkLock else .read))
  | rkLock {s} (h : s.loop = .rkLock) (hm : s.mu = none) :
      LoopStep T ext s .tau { s.setLoop .rkSend with mu := some .loop }
  | rkSend {s} (h : s.loop = .rkSend) (c : List UInt8) (hc : c.length = 16) (o : Option String) :
      LoopStep T ext s (kexInitObs T ext s.sentInitMsg c o)
        { s.setLoop (.rkUnlock (errorOf (T.sendKexInitLocked s.sentInitMsg c o).1)) with
          sentInitMsg := (T.sendKexInitLocked s.sentInitMsg c o).2 }
  | rkUnlock {s r} (h : s.loop = .rkUnlock r) :
      LoopStep T ext s .tau
        { s.setLoop (match r with | some e => .stop e | none => .read) with mu := none }
  | readErr {s} (h : s.loop = .read) (e : String) :
      LoopStep T ext s (.read .loop (.error e)) (s.setLoop (.stop e))
  | readOk {s} (h : s.loop = .read) (p : Packet) :
      LoopStep T ext s (.read .loop (.ok p))
        { s.setLoop (if p.tag = msgKexInit then .kexLock p else .got p) with
          readSinceKex := s.readSinceKex + p.len }
  /- the key exchange, under `t.mu` -/
  | kexLock {s p} (h : s.loop = .kexLock p) (hm : s.mu = none) :
      LoopStep T ext s .tau { s.setLoop (.kexBegin p) with mu := some .loop }
  | helloOnly {s p} (h : s.loop = .kexBegin p) (hh : T.config.helloOnly = true) :
      LoopStep T ext s .tau (s.setLoop (.clear (s.sessionID == none) none))
  | kexBegin {s p} (h : s.loop = .kexBegin p) (hh : T.config.helloOnly = false)
      (c : List UInt8) (hc : c.length = 16) (o : Option String) :
      LoopStep T ext s (kexInitObs T ext s.sentInitMsg c o)
        { s.setLoop (match (T.sendKexInitLocked s.sentInitMsg c o).1 with
            | .ok m => .negotiate (s.sessionID == none) p m
            | .error e => .dropConn (s.sessionID == none) e) with
          sentInitMsg := (T.sendKexInitLocked s.sentInitMsg c o).2 }
  | negotiate {s first p my} (h : s.loop = .negotiate first p my) :
      LoopStep T ext s .tau (s.setLoop (match T.negotiate ext my p with
        | .error e => .dropConn first e
        | .ok n => if n.discard then .guess first n else afterGuess ext first n))
  | guess {s first n} (h : s.loop = .guess first n) (r : Except String Packet) :
      LoopStep T ext s (.read .guess r) (s.setLoop (match r with
        | .error e => .dropConn first e
        | .ok _ => afterGuess ext first n))
  | kexWrite {s first n} (h : s.loop = .kexRun first n) (p : Packet) (ok : Bool) :
      LoopStep T ext s (.write .kexMethod p ok) s
  | kexRead {s first n} (h : s.loop = .kexRun first n) (r : Except String Packet) :
      LoopStep T ext s (.read .kexMethod r) s
  | kexErr {s first n} (h : s.loop = .kexRun first n) (e : String) :
      LoopStep T ext s .tau (s.setLoop (.dropConn first e))
  | kexDone {s first n} (h : s.loop = .kexRun first n) (r : KexResult) :
      LoopStep T ext s .tau (s.setLoop (match T.finish ext r with
        | .error e => .dropConn first e
        | .ok r => .keys first n.algs r))
  | keys {s first algs r} (h : s.loop = .keys first algs r) :
      LoopStep T ext s (.prepare algs { r with sessionID := s.sessionID.getD r.h })
        { s.setLoop (.newKeysW first) with sessionID := some (s.sessionID.getD r.h) }
  | newKeysW {s first} (h : s.loop = .newKeysW first) (o : Option String) :
      LoopStep T ext s (.write .newKeys ⟨msgNewKeys, []⟩ o.isNone) (s.setLoop (match o with
        | some e => .dropConn first e
        | none => .newKeysR first))
  | newKeysR {s first} (h : s.loop = .newKeysR first) (r : Except String Packet) :
      LoopStep T ext s (.read .newKeys r) (s.setLoop (match expectNewKeys r with
        | some e => .dropConn first e
        | none => .clear first none))
  | dropConn {s first e} (h : s.loop = .dropConn first e) :
      LoopStep T ext s .close (s.setLoop (.setWriteError first e))
  | setWriteError {s first e} (h : s.loop = .setWriteError first e) :
      LoopStep T ext s (.fail e) { s.setLoop (.clear first (some e)) with writeError := some e }
  | clear {s first err} (h : s.loop = .clear first err) :
      LoopStep T ext s .tau { s.setLoop (.bcast first err) with sentInitMsg := none }
  | bcast {s first err} (h : s.loop = .bcast first err) :
      LoopStep T ext s .tau { s.setLoop (.reset first err) with user := wake s.user }
  | resetErr {s first e} (h : s.loop = .reset first (some e)) :
      LoopStep T ext s .tau { s.setLoop (.stop e) with writtenSinceKex := 0, mu := none }
  | resetOk {s first} (h : s.loop = .reset first none) :
      LoopStep T ext s .tau
        { s.setLoop (.got (marker first)) with writtenSinceKex := 0, mu := none, readSinceKex := 0 }
  /- `readLoop` -/
  | gotSkip {s p} (h : s.loop = .got p) (hp : p.tag = msgIgnore ∨ p.tag = msgDebug) :
      LoopStep T ext s .tau (s.setLoop .start)
  | gotKeep {s p} (h : s.loop = .got p) (hp : p.tag ≠ msgIgnore ∧ p.tag ≠ msgDebug) :
      LoopStep T ext s .tau (s.setLoop (.send p))
  | send {s p} (h : s.loop = .send p) (hq : s.incoming.length < 16) :
      LoopStep T ext s .tau { s.setLoop .start with incoming := s.incoming ++ [p] }
  | stop {s e} (h : s.loop = .stop e) :
      LoopStep T ext s .tau { s.setLoop .endLock with readError := some e, closed := true }
  | endLock {s} (h : s.loop = .endLock) (hm : s.mu = none) :
      LoopStep T ext s .tau { s.setLoop .endSet with mu := some .loop }
  | endSetFail {s e} (h : s.loop = .endSet) (hw : s.writeError = none)
      (he : s.readError = some e) :
      LoopStep T ext s (.fail e) { s.setLoop .endBcast with writeError := some e }
  | endSetKeep {s} (h : s.loop = .endSet) (hw : s.writeError ≠ none) :
      LoopStep T ext s .tau (s.setLoop .endBcast)
  | endBcast {s} (h : s.loop = .endBcast) :
      LoopStep T ext s .tau { s.setLoop .done with user := wake s.user, mu := none }


/-- One statement of one goroutine of a `handshakeTransport`. -/
inductive Step (T : Transport) (ext : Ext) : HState ι → Obs ι → HState ι → Prop
  | loop {s o s'} (h : LoopStep T ext s o s') : Step T ext s o s'
  | user {s o s'} (i : ι) (h : UserStep T ext i s o s') : Step T ext s o s'

/-- Runs, with the observations of their steps in order. -/
inductive Run (T : Transport) (ext : Ext) : HState ι → List (Obs ι) → HState ι → Prop
  | refl (s : HState ι) : Run T ext s [] s
  | tail {s t u : HState ι} {os : List (Obs ι)} {o : Obs ι} :
      Run T ext s os t → Step T ext t o u → Run T ext s (os ++ [o]) u

def Reachable (T : Transport) (ext : Ext) (s : HState ι) : Prop := ∃ os, Run T ext .init os s

/-! ## Composing and cutting runs -/

section Runs

variable {T : Transport} {ext : Ext} {s t u : HState ι} {o : Obs ι} {os os' : List (Obs ι)}

theorem Run.of_eq (h : s = t) : Run T ext s [] t := h ▸ .refl s

theorem Run.trans (h₁ : Run T ext s os t) (h₂ : Run T ext t os' u) :
    Run T ext s (os ++ os') u := by
  induction h₂ with
  | refl => simpa using h₁
  | tail _ hs ih => rw [← List.append_assoc]; exact ih.tail hs

theorem Run.cons (h₁ : Step T ext s o t) (h₂ : Run T ext t os u) : Run T ext s (o :: os) u :=
  ((Run.refl s).tail h₁).trans h₂

theorem Run.snoc_iff : Run T ext s (os ++ [o]) u ↔ ∃ t, Run T ext s os t ∧ Step T ext t o u := by
  refine ⟨fun h => ?_, fun ⟨_, h, hs⟩ => h.tail hs⟩
  generalize hl : os ++ [o] = l at h
  cases h with
  | refl => simp at hl
  | tail h hs =>
    obtain ⟨rfl, ⟨⟩⟩ := List.append_inj' hl rfl
    exact ⟨_, h, hs⟩

/-- Every prefix of a run's observations is the run to some intermediate state. -/
theorem Run.split (h : Run T ext s (os ++ os') u) : ∃ t, Run T ext s os t ∧ Run T ext t os' u := by
  induction os' using List.reverseRecOn generalizing u with
  | nil => exact ⟨u, by simpa using h, .refl u⟩
  | append_singleton os' o ih =>
    rw [← List.append_assoc] at h
    obtain ⟨t', h', hs⟩ := Run.snoc_iff.mp h
    obtain ⟨t, h₁, h₂⟩ := ih h'
    exact ⟨t, h₁, h₂.tail hs⟩

/-- A run whose observations contain `o` passes through a step showing `o`. -/
theorem Run.split_at (h : Run T ext s (os ++ [o] ++ os') u) :
    ∃ t t', Run T ext s os t ∧ Step T ext t o t' ∧ Run T ext t' os' u := by
  obtain ⟨t', h₁, h₂⟩ := h.split
  obtain ⟨t, h₁, hs⟩ := Run.snoc_iff.mp h₁
  exact ⟨t, t', h₁, hs, h₂⟩

/-- What every step shows, every run shows. -/
theorem Run.forall_obs {P : Obs ι → Prop} (hP : ∀ s o s', Step T ext s o s' → P o)
    (h : Run T ext s os t) : ∀ o ∈ os, P o := by
  induction h with
  | refl => simp
  | tail _ hs ih =>
    intro o ho
    rcases List.mem_append.mp ho with ho | ho
    · exact ih o ho
    · exact (List.mem_singleton.mp ho) ▸ hP _ _ _ hs

theorem Reachable.run (hs : Reachable T ext s) (h : Run T ext s os t) : Reachable T ext t :=
  let ⟨_, hr⟩ := hs; ⟨_, hr.trans h⟩

end Runs

end Fasst.Ssh
