import Mathlib.Data.List.Perm.Basic
import Mathlib.Data.List.Nodup
import Mathlib.Logic.Function.Basic

/-!
# Fasst.Ssh.Client — the channel-open registry of `Client` (`client.go`)

`NewClient` makes `channelHandlers` an empty map and starts `handleChannelOpens`, which takes
each `NewChannel` from `in`, looks its type up in the map and sends it to the queue registered
there or rejects it; once `in` is closed it closes every registered queue and sets the map to
`nil`.  Any goroutine may call `HandleChannelOpen` at any time and receive from any queue it got;
`NewClient`'s own `HandleChannelOpen("forwarded-tcpip")`, made after `handleChannelOpens` has
started, is one of these calls.

The state is the map (`none` is `nil`), the queues made so far (a Go `chan NewChannel` is its
buffer size, the channels in its buffer and its closed flag), whether the teardown holds `c.mu`,
and where `handleChannelOpens` is.  `HandleChannelOpen` and the lookup run entirely under `c.mu`,
so each is one step; the teardown holds `c.mu` across its closes, one step each, in any order of
the map.  The Go runtime panics on closing a closed channel and on sending on one; those steps
record the panic.

* `Inv`: every reachable state is free of panics, every registered queue is open until the
  teardown closes it, every other queue is closed;
* `History`: what the observations of a run say about its last state, gathered from
  `MapHistory`, `ArrivalHistory`, `RouteHistory` and `CloseHistory`, each preserved by a step;
* `channel_registry_safe`: every run keeps `RegistryContract`, the registry's contract.
-/

namespace Fasst.Ssh.Client

/-- A Go `chan NewChannel`: its buffer size, the `NewChannel`s in its buffer (by arrival
number) and whether it is closed. -/
structure Queue where
  cap : Nat
  items : List Nat
  closed : Bool
  deriving DecidableEq, Repr

def handlerQueueSize : Nat := 16

inductive HPc
  /-- `for ch := range in` -/
  | recv
  /-- `c.mu.Lock(); handler := c.channelHandlers[ch.ChannelType()]; c.mu.Unlock()` for the
  `k`-th `NewChannel`, of type `ty` -/
  | lookup (k : Nat) (ty : String)
  /-- `if handler != nil { handler <- ch } else { ch.Reject(...) }` -/
  | route (k : Nat) (ty : String) (h : Option Nat)
  /-- `c.mu.Lock()` once `in` is closed -/
  | tdLock
  /-- `for _, ch := range c.channelHandlers { close(ch) }` with the queues still to close, then
  `c.channelHandlers = nil; c.mu.Unlock()` -/
  | tdClose (qs : List Nat)
  | done
  deriving DecidableEq, Repr

def HPc.inHand : HPc → Option Nat
  | .lookup k _ | .route k _ _ => some k
  | _ => none

structure State where
  -- `c.channelHandlers`; `none` is the `nil` map
  handlers : Option (List (String × Nat))
  queues : Nat → Queue
  next : Nat
  -- the teardown holds `c.mu`
  mu : Bool
  received : Nat
  pc : HPc
  -- a Go runtime panic
  panicked : Option String

namespace State

-- `c.channelHandlers[ty]`; reading the `nil` map gives `nil`.
def handler (s : State) (ty : String) : Option Nat := (s.handlers.getD []).lookup ty

def registered (s : State) : List Nat := (s.handlers.getD []).map (·.2)

def make (s : State) (q : Queue) : State :=
  { s with queues := Function.update s.queues s.next q, next := s.next + 1 }

def setQueue (s : State) (q : Nat) (x : Queue) : State :=
  { s with queues := Function.update s.queues q x }

/-- `NewClient`: an empty map, no queue yet, `handleChannelOpens` at its loop. -/
def init : State := ⟨some [], fun _ => ⟨0, [], false⟩, 0, false, 0, .recv, none⟩

end State

inductive Obs
  | tau
  /-- `HandleChannelOpen(ty)` returns queue `r`, or `nil` -/
  | ret (ty : String) (r : Option Nat)
  /-- `handleChannelOpens` takes the `k`-th `NewChannel`, of type `ty`, from `in` -/
  | recv (k : Nat) (ty : String)
  /-- it finds `h` registered for `ty` -/
  | lookup (k : Nat) (ty : String) (h : Option Nat)
  /-- `handler <- ch` puts the `k`-th `NewChannel` in queue `q` -/
  | send (k : Nat) (q : Nat)
  /-- `ch.Reject(UnknownChannelType, msg)` -/
  | reject (k : Nat) (msg : String)
  /-- `close(ch)` of queue `q` in the teardown -/
  | close (q : Nat)
  /-- `c.channelHandlers = nil` -/
  | teardown
  /-- a receive from queue `q` gives the `k`-th `NewChannel`, or finds `q` closed and empty -/
  | take (q : Nat) (r : Option Nat)
  deriving DecidableEq, Repr

def Obs.routed : Obs → Option Nat
  | .send k _ | .reject k _ => some k
  | _ => none

def Obs.closed : Obs → Option Nat
  | .close q => some q
  | _ => none

open State in
inductive Step : State → Obs → State → Prop
  /- `HandleChannelOpen(ty)`, from any goroutine, all of it under `c.mu` -/
  | openClosed {s : State} (ty : String) (hm : s.mu = false) (hh : s.handlers = none) :
      Step s (.ret ty (some s.next)) (s.make ⟨0, [], true⟩)
  | openTaken {s : State} {ty q} (hm : s.mu = false) (hh : s.handlers ≠ none)
      (hq : s.handler ty = some q) : Step s (.ret ty none) s
  | openNew {s : State} {ty hs} (hm : s.mu = false) (hh : s.handlers = some hs)
      (hq : s.handler ty = none) :
      Step s (.ret ty (some s.next))
        { s.make ⟨handlerQueueSize, [], false⟩ with handlers := some (hs ++ [(ty, s.next)]) }
  /- `handleChannelOpens` -/
  | recvChannel {s : State} (hp : s.pc = .recv) (ty : String) :
      Step s (.recv s.received ty)
        { s with pc := .lookup s.received ty, received := s.received + 1 }
  | recvClosed {s : State} (hp : s.pc = .recv) : Step s .tau { s with pc := .tdLock }
  | lookup {s : State} {k ty} (hp : s.pc = .lookup k ty) (hm : s.mu = false) :
      Step s (.lookup k ty (s.handler ty)) { s with pc := .route k ty (s.handler ty) }
  | send {s : State} {k ty q} (hp : s.pc = .route k ty (some q))
      (hc : (s.queues q).closed = false) (hr : (s.queues q).items.length < (s.queues q).cap) :
      Step s (.send k q)
        { s.setQueue q { s.queues q with items := (s.queues q).items ++ [k] } with pc := .recv }
  | sendClosed {s : State} {k ty q} (hp : s.pc = .route k ty (some q))
      (hc : (s.queues q).closed = true) :
      Step s .tau { s with pc := .done, panicked := some "send on closed channel" }
  | reject {s : State} {k ty} (hp : s.pc = .route k ty none) :
      Step s (.reject k ("unknown channel type: " ++ ty)) { s with pc := .recv }
  | tdLock {s : State} (hp : s.pc = .tdLock) (hm : s.mu = false) (qs : List Nat)
      (hqs : qs.Perm s.registered) : Step s .tau { s with pc := .tdClose qs, mu := true }
  | tdClose {s : State} {q qs} (hp : s.pc = .tdClose (q :: qs))
      (hc : (s.queues q).closed = false) :
      Step s (.close q) { s.setQueue q { s.queues q with closed := true } with pc := .tdClose qs }
  | tdCloseClosed {s : State} {q qs} (hp : s.pc = .tdClose (q :: qs))
      (hc : (s.queues q).closed = true) :
      Step s .tau { s with pc := .done, panicked := some "close of closed channel" }
  | tdNil {s : State} (hp : s.pc = .tdClose []) :
      Step s .teardown { s with pc := .done, handlers := none, mu := false }
  /- a receive from a queue, by any goroutine holding it -/
  | take {s : State} {q k rest} (hi : (s.queues q).items = k :: rest) :
      Step s (.take q (some k)) (s.setQueue q { s.queues q with items := rest })
  | takeClosed {s : State} {q} (hi : (s.queues q).items = []) (hc : (s.queues q).closed = true) :
      Step s (.take q none) s

inductive Run : State → List Obs → State → Prop
  | refl (s : State) : Run s [] s
  | tail {s t u : State} {os : List Obs} {o : Obs} : Run s os t → Step t o u → Run s (os ++ [o]) u

def Reachable (s : State) : Prop := ∃ os, Run .init os s

/-! ## Updates -/

namespace State

variable {s : State} {x : Queue} {q q' : Nat}

@[simp] theorem make_handlers : (s.make x).handlers = s.handlers := rfl
@[simp] theorem make_next : (s.make x).next = s.next + 1 := rfl
@[simp] theorem make_mu : (s.make x).mu = s.mu := rfl
@[simp] theorem make_pc : (s.make x).pc = s.pc := rfl
@[simp] theorem make_panicked : (s.make x).panicked = s.panicked := rfl
@[simp] theorem make_received : (s.make x).received = s.received := rfl
theorem make_queues : (s.make x).queues q = if q = s.next then x else s.queues q := by
  simp [make, Function.update_apply]

@[simp] theorem setQueue_handlers : (s.setQueue q x).handlers = s.handlers := rfl
@[simp] theorem setQueue_next : (s.setQueue q x).next = s.next := rfl
@[simp] theorem setQueue_mu : (s.setQueue q x).mu = s.mu := rfl
@[simp] theorem setQueue_pc : (s.setQueue q x).pc = s.pc := rfl
@[simp] theorem setQueue_panicked : (s.setQueue q x).panicked = s.panicked := rfl
@[simp] theorem setQueue_received : (s.setQueue q x).received = s.received := rfl
theorem setQueue_queues : (s.setQueue q x).queues q' = if q' = q then x else s.queues q' := by
  simp [setQueue, Function.update_apply]

end State

section Lookup

variable {l : List (String × Nat)} {ty : String} {q : Nat}

theorem mem_of_lookup (h : l.lookup ty = some q) : (ty, q) ∈ l := by
  obtain ⟨l₁, l₂, rfl, -⟩ := List.lookup_eq_some_iff.1 h
  simp

theorem lookup_of_mem (hk : (l.map (·.1)).Nodup) (h : (ty, q) ∈ l) : l.lookup ty = some q := by
  induction l with
  | nil => cases h
  | cons p l ih =>
    obtain ⟨ty', q'⟩ := p
    simp only [List.map_cons, List.nodup_cons, List.mem_map] at hk
    rcases List.mem_cons.1 h with h | h
    · cases h; simp
    · have hne : ty ≠ ty' := fun e => hk.1 ⟨(ty, q), h, by simp [e]⟩
      have hb : (ty == ty') = false := by simpa using hne
      simp [List.lookup_cons, hb, ih hk.2 h]

theorem State.mem_registered_of_handler {s : State} (h : s.handler ty = some q) :
    q ∈ s.registered :=
  List.mem_map.2 ⟨(ty, q), mem_of_lookup h, rfl⟩

end Lookup

/-! ## Runs -/

section Runs

variable {s t u : State} {o : Obs} {os os' : List Obs}

theorem Run.snoc_iff : Run s (os ++ [o]) u ↔ ∃ t, Run s os t ∧ Step t o u := by
  refine ⟨fun h => ?_, fun ⟨_, h, hs⟩ => h.tail hs⟩
  generalize hl : os ++ [o] = l at h
  cases h with
  | refl => simp at hl
  | tail h hs =>
    obtain ⟨rfl, ⟨⟩⟩ := List.append_inj' hl rfl
    exact ⟨_, h, hs⟩

theorem Run.split (h : Run s (os ++ os') u) : ∃ t, Run s os t ∧ Run t os' u := by
  induction os' using List.reverseRecOn generalizing u with
  | nil => exact ⟨u, by simpa using h, .refl u⟩
  | append_singleton os' o ih =>
    rw [← List.append_assoc] at h
    obtain ⟨t', h', hs⟩ := Run.snoc_iff.mp h
    obtain ⟨t, h₁, h₂⟩ := ih h'
    exact ⟨t, h₁, h₂.tail hs⟩

theorem Run.split_at (h : Run s (os ++ [o] ++ os') u) :
    ∃ t t', Run s os t ∧ Step t o t' ∧ Run t' os' u := by
  obtain ⟨t', h₁, h₂⟩ := h.split
  obtain ⟨t, h₁, hs⟩ := Run.snoc_iff.mp h₁
  exact ⟨t, t', h₁, hs, h₂⟩

end Runs

/-! ## The invariant -/

def HPc.tearing : HPc → Bool
  | .tdClose _ => true
  | _ => false

def HPc.HasClosed (q : Nat) : HPc → Prop
  | .tdClose qs => q ∉ qs
  | _ => False

/-- What holds in every reachable state: no panic; `c.mu` is the teardown's; the map is `nil`
exactly when `handleChannelOpens` has returned; one entry per type and per queue; a registered
queue is open until the teardown closes it; every other queue made is closed; the queue being
sent to is registered. -/
structure Inv (s : State) : Prop where
  panicked : s.panicked = none
  mu : s.mu = s.pc.tearing
  nil : s.handlers = none ↔ s.pc = .done
  keys : ((s.handlers.getD []).map (·.1)).Nodup
  nodup : s.registered.Nodup
  made : ∀ q ∈ s.registered, q < s.next
  open_iff : ∀ q ∈ s.registered, (s.queues q).closed = true ↔ s.pc.HasClosed q
  closing : ∀ qs, s.pc = .tdClose qs → qs.Nodup ∧ ∀ q ∈ qs, q ∈ s.registered
  unregistered : ∀ q < s.next, q ∉ s.registered → (s.queues q).closed = true
  routed : ∀ k ty q, s.pc = .route k ty (some q) → q ∈ s.registered

section Invariant

variable {s s' : State} {o : Obs}

theorem Inv.init : Inv .init :=
  ⟨rfl, rfl, by simp [State.init], by simp [State.init], by simp [State.init, State.registered],
    by simp [State.init, State.registered], by simp [State.init, State.registered],
    fun _ h => (by cases h), fun _ h => (by simp [State.init] at h),
    fun _ _ _ h => (by cases h)⟩

theorem HPc.tearing_of_hasClosed {p : HPc} {q : Nat} (h : p.HasClosed q) : p.tearing := by
  cases p <;> simp_all [HPc.HasClosed, HPc.tearing]

theorem Inv.open_of_registered (hI : Inv s) {q : Nat} (hq : q ∈ s.registered)
    (hp : ¬ s.pc.HasClosed q) : (s.queues q).closed = false := by
  simpa [hp] using hI.open_iff q hq

theorem Inv.of_pc (hI : Inv s) (hh : s'.handlers = s.handlers) (hq : s'.queues = s.queues)
    (hn : s'.next = s.next) (hm : s'.mu = s.mu) (hpn : s'.panicked = s.panicked)
    (hs : s.pc.tearing = false) (hs' : s'.pc.tearing = false) (hd : s.pc ≠ .done)
    (hd' : s'.pc ≠ .done) (hr : ∀ k ty q, s'.pc = .route k ty (some q) → q ∈ s.registered) :
    Inv s' := by
  have hreg : s'.registered = s.registered := by simp [State.registered, hh]
  have hnc : ∀ {p : HPc} q, p.tearing = false → ¬ p.HasClosed q := fun q hp hc => by
    simp [HPc.tearing_of_hasClosed hc] at hp
  refine ⟨hpn ▸ hI.panicked, by rw [hm, hI.mu, hs, hs'], ?_, hh ▸ hI.keys, hreg ▸ hI.nodup,
    hreg ▸ hn ▸ hI.made, fun q hq' => ?_, fun qs hp => ?_, fun q hq' hn' => ?_, hreg ▸ hr⟩
  · rw [hh]
    exact ⟨fun h => absurd (hI.nil.mp h) hd, fun h => absurd h hd'⟩
  · rw [hreg] at hq'
    rw [hq, hI.open_iff q hq']
    exact ⟨fun h => absurd h (hnc q hs), fun h => absurd h (hnc q hs')⟩
  · simp [hp, HPc.tearing] at hs'
  · rw [hq]
    exact hI.unregistered q (hn ▸ hq') (hreg ▸ hn')

theorem Inv.setQueue_items (hI : Inv s) {q : Nat} {x : Queue}
    (hc : x.closed = (s.queues q).closed) : Inv (s.setQueue q x) := by
  have hcl : ∀ q', ((s.setQueue q x).queues q').closed = (s.queues q').closed := fun q' => by
    rw [State.setQueue_queues]; split <;> simp_all
  exact ⟨hI.panicked, hI.mu, hI.nil, hI.keys, hI.nodup, hI.made,
    fun q' hq => (hcl q').symm ▸ hI.open_iff q' hq, hI.closing,
    fun q' hq hn => (hcl q').symm ▸ hI.unregistered q' hq hn, hI.routed⟩

theorem Inv.step (hI : Inv s) (h : Step s o s') : Inv s' := by
  cases h
  case openClosed ty hm hh =>
    refine ⟨hI.panicked, hI.mu, hI.nil, by simp [hh], by simp [State.registered, hh],
      by simp [State.registered, hh], by simp [State.registered, hh], hI.closing,
      fun q hq _ => ?_, hI.routed⟩
    rw [State.make_queues]
    split
    · rfl
    · exact hI.unregistered q (by simp at hq; omega) (by simp [State.registered, hh])
  case openTaken => exact hI
  case openNew ty hs hm hh hq =>
    have hreg : ({ s.make ⟨handlerQueueSize, [], false⟩ with
        handlers := some (hs ++ [(ty, s.next)]) } : State).registered = s.registered ++ [s.next] := by
      simp [State.registered, hh]
    have hnt : ∀ q, ¬ s.pc.HasClosed q := fun q hc => by
      simpa [← hI.mu, hm] using HPc.tearing_of_hasClosed hc
    have hnext : s.next ∉ s.registered := fun h => lt_irrefl _ (hI.made _ h)
    have hty : ty ∉ hs.map (·.1) := by
      simp only [State.handler, hh, Option.getD_some, List.lookup_eq_none_iff] at hq
      simpa using fun x hx => by simpa using hq (ty, x) hx
    refine ⟨hI.panicked, hI.mu, ?_, ?_, ?_, ?_, ?_, ?_, ?_, ?_⟩
    · simpa [hh] using hI.nil
    · have hk := hI.keys
      simp only [hh, Option.getD_some] at hk
      simpa using hk.append (List.nodup_singleton _) (by simpa using hty)
    · rw [hreg]
      exact hI.nodup.append (List.nodup_singleton _) (by simpa using hnext)
    · rw [hreg]
      intro q hq
      rcases List.mem_append.1 hq with hq | hq
      · exact Nat.lt_succ_of_lt (hI.made q hq)
      · simp [List.mem_singleton.1 hq]
    · rw [hreg]
      intro q hq
      show ((s.make _).queues q).closed = true ↔ s.pc.HasClosed q
      rw [State.make_queues]
      rcases List.mem_append.1 hq with hq | hq
      · rw [if_neg (ne_of_lt (hI.made q hq))]
        exact hI.open_iff q hq
      · simp [List.mem_singleton.1 hq, hnt]
    · intro qs hp
      have := hI.mu
      rw [hm, show s.pc = .tdClose qs from hp] at this
      cases this
    · rw [hreg]
      intro q hq hn
      show ((s.make _).queues q).closed = true
      have hne : q ≠ s.next := fun e => hn (by simp [e])
      rw [State.make_queues, if_neg hne]
      exact hI.unregistered q (by simp at hq; omega) (fun h => hn (List.mem_append_left _ h))
    · rw [hreg]
      exact fun k ty q hp => List.mem_append_left _ (hI.routed k ty q hp)
  case recvChannel hp ty =>
    exact hI.of_pc rfl rfl rfl rfl rfl (by rw [hp]; rfl) rfl (by rw [hp]; simp) (by simp)
      (fun _ _ _ h => by cases h)
  case recvClosed hp =>
    exact hI.of_pc rfl rfl rfl rfl rfl (by rw [hp]; rfl) rfl (by rw [hp]; simp) (by simp)
      (fun _ _ _ h => by cases h)
  case lookup k ty hp hm =>
    exact hI.of_pc rfl rfl rfl rfl rfl (by rw [hp]; rfl) rfl (by rw [hp]; simp) (by simp)
      (fun _ _ _ h => State.mem_registered_of_handler (HPc.route.inj h).2.2)
  case reject k ty hp =>
    exact hI.of_pc rfl rfl rfl rfl rfl (by rw [hp]; rfl) rfl (by rw [hp]; simp) (by simp)
      (fun _ _ _ h => by cases h)
  case send k ty q hp hc hr =>
    exact (hI.setQueue_items (q := q) (x := { s.queues q with items := (s.queues q).items ++ [k] })
      rfl).of_pc rfl rfl rfl rfl rfl (by simp [hp]; rfl) rfl (by simp [hp]) (by simp)
      (fun _ _ _ h => by cases h)
  case sendClosed k ty q hp hc =>
    have := hI.open_of_registered (hI.routed k ty q hp) (by simp [hp, HPc.HasClosed])
    simp [this] at hc
  case take q k rest hi => exact hI.setQueue_items (q := q) (x := { s.queues q with items := rest }) rfl
  case takeClosed => exact hI
  case tdLock hp hm qs hqs =>
    have hnd : s.handlers ≠ none := fun h => by simp [hI.nil.mp h] at hp
    refine ⟨hI.panicked, rfl, by simpa using hnd, hI.keys, hI.nodup, hI.made, fun q hq => ?_,
      fun qs' hp' => ?_, hI.unregistered, fun _ _ _ h => (by cases h)⟩
    · rw [show (s.queues q).closed = false from
        hI.open_of_registered hq (by simp [hp, HPc.HasClosed])]
      simpa [HPc.HasClosed] using hqs.symm.subset hq
    · cases hp'
      exact ⟨hqs.nodup_iff.2 hI.nodup, fun q hq => hqs.subset hq⟩
  case tdClose q qs hp hc =>
    obtain ⟨hnd, hsub⟩ := hI.closing _ hp
    have hqs : q ∉ qs := (List.nodup_cons.1 hnd).1
    have hd : s.handlers ≠ none := fun h => by simp [hI.nil.mp h] at hp
    refine ⟨hI.panicked, (by show s.mu = true; rw [hI.mu, hp]; rfl), by simpa using hd, hI.keys,
      hI.nodup, hI.made, fun q' hq' => ?_, fun qs' hp' => ?_, fun q' hq' hn => ?_,
      fun _ _ _ h => (by cases h)⟩
    · show ((s.setQueue q _).queues q').closed = true ↔ q' ∉ qs
      rw [State.setQueue_queues]
      split
      · subst q'; simpa using hqs
      · next hne => rw [hI.open_iff q' hq', hp]; simp [HPc.HasClosed, hne]
    · cases hp'
      exact ⟨(List.nodup_cons.1 hnd).2, fun q' hq' => hsub q' (List.mem_cons_of_mem _ hq')⟩
    · show ((s.setQueue q _).queues q').closed = true
      rw [State.setQueue_queues,
        if_neg (show q' ≠ q from fun e => hn (e ▸ hsub q (List.mem_cons_self _ _)))]
      exact hI.unregistered q' hq' hn
  case tdCloseClosed q qs hp hc =>
    have hq := (hI.closing _ hp).2 q (List.mem_cons_self _ _)
    have := hI.open_of_registered hq (by simp [hp, HPc.HasClosed])
    simp [this] at hc
  case tdNil hp =>
    refine ⟨hI.panicked, rfl, by simp, by simp, by simp [State.registered],
      by simp [State.registered], by simp [State.registered], fun _ h => (by cases h),
      fun q hq _ => ?_, fun _ _ _ h => (by cases h)⟩
    by_cases hr : q ∈ s.registered
    · exact (hI.open_iff q hr).2 (by simp [hp, HPc.HasClosed])
    · exact hI.unregistered q hq hr

theorem Inv.run {os : List Obs} (hI : Inv s) (h : Run s os s') : Inv s' := by
  induction h with
  | refl => exact hI
  | tail _ hs ih => exact ih.step hs

theorem Reachable.inv (hs : Reachable s) : Inv s := let ⟨_, h⟩ := hs; Inv.init.run h

end Invariant

/-! ## Steps by what they show -/

section Steps

variable {s s' : State} {o : Obs} {ty : String} {k q : Nat}

theorem Step.ret_some (h : Step s (.ret ty (some q)) s') : q = s.next := by
  cases h <;> rfl

theorem Step.ret_of_handler (h : Step s (.ret ty r) s') (hh : s.handlers ≠ none)
    (hq : s.handler ty = some q) : r = none := by
  cases h
  case openClosed hh' => exact absurd hh' hh
  case openTaken => rfl
  case openNew hq' => simp [hq] at hq'

theorem Step.ret_of_nil (h : Step s (.ret ty r) s') (hh : s.handlers = none) :
    ∃ q, r = some q ∧ (s'.queues q).closed = true := by
  cases h
  case openClosed => exact ⟨s.next, rfl, by simp [State.make_queues]⟩
  case openTaken hh' _ => exact absurd hh hh'
  case openNew hh' _ => simp [hh] at hh'

theorem Step.lookup_inv {r} (h : Step s (.lookup k ty r) s') :
    s.pc = .lookup k ty ∧ r = s.handler ty := by
  cases h; exact ⟨‹_›, rfl⟩

theorem Step.send_inv (h : Step s (.send k q) s') :
    (∃ ty, s.pc = .route k ty (some q)) ∧ (s.queues q).closed = false := by
  cases h; exact ⟨⟨_, ‹_›⟩, ‹_›⟩

theorem Step.reject_inv {msg} (h : Step s (.reject k msg) s') :
    ∃ ty, s.pc = .route k ty none ∧ msg = "unknown channel type: " ++ ty := by
  cases h; exact ⟨_, ‹_›, rfl⟩

theorem Step.teardown_inv (h : Step s .teardown s') : s.pc = .tdClose [] := by
  cases h; assumption

theorem Step.close_inv (h : Step s (.close q) s') :
    (∃ qs, s.pc = .tdClose (q :: qs)) ∧ s'.next = s.next ∧ (s'.queues q).closed = true := by
  cases h
  exact ⟨⟨_, ‹_›⟩, rfl, by show ((s.setQueue q _).queues q).closed = true; simp [State.setQueue_queues]⟩

theorem Step.closed_of_closed (h : Step s o s') (hq : q < s.next)
    (hc : (s.queues q).closed = true) : q < s'.next ∧ (s'.queues q).closed = true := by
  have hne : q ≠ s.next := ne_of_lt hq
  have hset : ∀ q' (x : Queue), x.closed = (s.queues q').closed ∨ x.closed = true →
      ((s.setQueue q' x).queues q).closed = true := fun q' x hx => by
    rw [State.setQueue_queues]; split <;> simp_all
  cases h
  case openClosed | openNew => exact ⟨by simp; omega, by simp [State.make_queues, hne, hc]⟩
  case send => exact ⟨hq, hset _ _ (.inl rfl)⟩
  case take => exact ⟨hq, hset _ _ (.inl rfl)⟩
  case tdClose => exact ⟨hq, hset _ _ (.inr rfl)⟩
  all_goals exact ⟨hq, hc⟩

theorem Step.handlers_nil (h : Step s o s') (hh : s.handlers = none) : s'.handlers = none := by
  cases h <;> first | exact hh | rfl | simp_all

end Steps

/-! ## What a run's observations say -/

section History

variable {s s' : State} {o : Obs} {os : List Obs}

/-- The map as the run's `HandleChannelOpen` returns and its teardown made it. -/
structure MapHistory (os : List Obs) (s : State) : Prop where
  teardown : Obs.teardown ∈ os ↔ s.handlers = none
  handler : ∀ ty q, (ty, q) ∈ s.handlers.getD [] ↔ Obs.ret ty (some q) ∈ os ∧ Obs.teardown ∉ os
  ret_made : ∀ ty q, Obs.ret ty (some q) ∈ os → q < s.next

theorem MapHistory.quiet (hH : MapHistory os s) (hh : s'.handlers = s.handlers)
    (hn : s.next ≤ s'.next) (ho : ∀ ty q, o ≠ .ret ty (some q)) (ht : o ≠ .teardown) :
    MapHistory (os ++ [o]) s' := by
  have hr : ∀ ty q, Obs.ret ty (some q) ∈ os ++ [o] ↔ Obs.ret ty (some q) ∈ os := fun ty q => by
    simp [Ne.symm (ho ty q)]
  refine ⟨by simpa [hh, Ne.symm ht] using hH.teardown, fun ty q => ?_, fun ty q h => ?_⟩
  · simpa [hh, hr, Ne.symm ht] using hH.handler ty q
  · exact Nat.lt_of_lt_of_le (hH.ret_made ty q ((hr ty q).1 h)) hn

theorem MapHistory.step (hH : MapHistory os s) (h : Step s o s') :
    MapHistory (os ++ [o]) s' := by
  cases h
  case openClosed ty hm hh =>
    refine ⟨by simpa [hh] using hH.teardown, fun ty' q => ?_, fun ty' q hq => ?_⟩
    · simp [hh, hH.teardown.mpr hh]
    · rcases List.mem_append.1 hq with hq | hq
      · exact Nat.lt_succ_of_lt (hH.ret_made ty' q hq)
      · simp at hq; simp [hq.2]
  case openTaken => exact hH.quiet rfl le_rfl (by simp) (by simp)
  case openNew ty hs hm hh hq =>
    have hnt : Obs.teardown ∉ os := fun h => by simp [hH.teardown.mp h] at hh
    refine ⟨by simp [hnt], fun ty' q => ?_, fun ty' q hq => ?_⟩
    · have := hH.handler ty' q
      simp only [hh, Option.getD_some] at this
      simp [this, hnt, and_comm, or_comm]
    · rcases List.mem_append.1 hq with hq | hq
      · exact Nat.lt_succ_of_lt (hH.ret_made ty' q hq)
      · simp at hq; simp [hq.2]
  case tdNil hp => exact ⟨by simp, by simp, fun ty q h => hH.ret_made ty q (by simpa using h)⟩
  all_goals exact hH.quiet rfl (by simp) (by simp) (by simp)

theorem MapHistory.init : MapHistory [] .init := ⟨by simp [State.init], by simp [State.init], by simp⟩

/-- Which `NewChannel`s have come in from `in`: one type for each arrival number, and the one
`handleChannelOpens` holds among them. -/
structure ArrivalHistory (os : List Obs) (s : State) : Prop where
  lookup : ∀ k ty, s.pc = .lookup k ty → Obs.recv k ty ∈ os
  route : ∀ k ty h, s.pc = .route k ty h → Obs.recv k ty ∈ os
  lt : ∀ k ty, Obs.recv k ty ∈ os → k < s.received
  type : ∀ k ty ty', Obs.recv k ty ∈ os → Obs.recv k ty' ∈ os → ty = ty'

theorem ArrivalHistory.quiet (hH : ArrivalHistory os s) (hv : ∀ k ty, o ≠ .recv k ty)
    (hc : s'.received = s.received) (hp : s'.pc = s.pc ∨ s'.pc.inHand = none) :
    ArrivalHistory (os ++ [o]) s' := by
  have hm : ∀ k ty, Obs.recv k ty ∈ os ++ [o] ↔ Obs.recv k ty ∈ os := fun k ty => by
    simp [Ne.symm (hv k ty)]
  refine ⟨fun k ty e => ?_, fun k ty h e => ?_, fun k ty h => hc ▸ hH.lt k ty ((hm k ty).1 h),
    fun k ty ty' h h' => hH.type k ty ty' ((hm k ty).1 h) ((hm k ty').1 h')⟩
  · rcases hp with hp | hn
    · exact (hm k ty).2 (hH.lookup k ty (hp ▸ e))
    · simp [e, HPc.inHand] at hn
  · rcases hp with hp | hn
    · exact (hm k ty).2 (hH.route k ty h (hp ▸ e))
    · simp [e, HPc.inHand] at hn

theorem ArrivalHistory.step (hH : ArrivalHistory os s) (h : Step s o s') :
    ArrivalHistory (os ++ [o]) s' := by
  cases h
  case recvChannel hp ty =>
    have hnew : ∀ ty', Obs.recv s.received ty' ∉ os := fun ty' h => lt_irrefl _ (hH.lt _ _ h)
    refine ⟨fun k ty' e => ?_, fun _ _ _ e => (by cases e), fun k ty' h => ?_,
      fun k ty₁ ty₂ h₁ h₂ => ?_⟩
    · cases e; simp
    · rcases List.mem_append.1 h with h | h
      · exact Nat.lt_succ_of_lt (hH.lt k ty' h)
      · simp at h; simp [h.1]
    · rcases List.mem_append.1 h₁ with h₁ | h₁ <;> rcases List.mem_append.1 h₂ with h₂ | h₂
      · exact hH.type k ty₁ ty₂ h₁ h₂
      · simp at h₂; exact absurd (h₂.1 ▸ h₁) (hnew ty₁)
      · simp at h₁; exact absurd (h₁.1 ▸ h₂) (hnew ty₂)
      · simp at h₁ h₂; exact h₁.2.trans h₂.2.symm
  case lookup k ty hp hm =>
    refine ⟨fun _ _ e => (by cases e), fun k' ty' h' e => ?_,
      fun k ty h => hH.lt k ty (by simpa using h), fun k ty ty' h h' => hH.type k ty ty' (by simpa using h) (by simpa using h')⟩
    cases e
    exact List.mem_append_left _ (hH.lookup k ty hp)
  case openClosed => exact hH.quiet (by simp) rfl (.inl rfl)
  case openTaken => exact hH.quiet (by simp) rfl (.inl rfl)
  case openNew => exact hH.quiet (by simp) rfl (.inl rfl)
  case take => exact hH.quiet (by simp) rfl (.inl rfl)
  case takeClosed => exact hH.quiet (by simp) rfl (.inl rfl)
  all_goals exact hH.quiet (by simp) rfl (.inr rfl)

theorem ArrivalHistory.init : ArrivalHistory [] .init :=
  ⟨fun _ _ e => (by cases e), fun _ _ _ e => (by cases e), by simp, by simp⟩

/-- Which `NewChannel`s the run has routed: each once, each after its lookup, none unseen. -/
structure RouteHistory (os : List Obs) (s : State) : Prop where
  lookup : ∀ k ty h, s.pc = .route k ty h → Obs.lookup k ty h ∈ os
  received : ∀ k ∈ os.filterMap Obs.routed, k < s.received
  inHand : ∀ k, s.pc.inHand = some k → k < s.received ∧ k ∉ os.filterMap Obs.routed
  nodup : (os.filterMap Obs.routed).Nodup
  recv : ∀ k ty, Obs.recv k ty ∈ os → k ∈ os.filterMap Obs.routed ∨ s.pc.inHand = some k

theorem RouteHistory.quiet (hH : RouteHistory os s) (hr : o.routed = none)
    (hv : ∀ k ty, o ≠ .recv k ty) (hc : s'.received = s.received)
    (hp : s'.pc = s.pc ∨ s.pc.inHand = none ∧ s'.pc.inHand = none) :
    RouteHistory (os ++ [o]) s' := by
  have hf : (os ++ [o]).filterMap Obs.routed = os.filterMap Obs.routed := by simp [hr]
  have hm : ∀ k ty, Obs.recv k ty ∈ os ++ [o] → Obs.recv k ty ∈ os := fun k ty h => by
    simpa [Ne.symm (hv k ty)] using h
  refine ⟨fun k ty h e => ?_, by rw [hf, hc]; exact hH.received, fun k e => ?_,
    by rw [hf]; exact hH.nodup, fun k ty h => ?_⟩
  · rcases hp with hp | ⟨-, hn'⟩
    · exact List.mem_append_left _ (hH.lookup k ty h (hp ▸ e))
    · simp [e, HPc.inHand] at hn'
  · rcases hp with hp | ⟨-, hn'⟩
    · rw [hf, hc]; exact hH.inHand k (hp ▸ e)
    · simp [e] at hn'
  · rw [hf]
    rcases hp with hp | ⟨hn, -⟩
    · rw [hp]; exact hH.recv k ty (hm k ty h)
    · exact .inl ((hH.recv k ty (hm k ty h)).resolve_right (by simp [hn]))

theorem RouteHistory.route (hH : RouteHistory os s) {k ty h} (hp : s.pc = .route k ty h)
    (hr : o.routed = some k) (hv : ∀ k ty, o ≠ .recv k ty) (hc : s'.received = s.received)
    (hp' : s'.pc = .recv) : RouteHistory (os ++ [o]) s' := by
  have hf : (os ++ [o]).filterMap Obs.routed = os.filterMap Obs.routed ++ [k] := by simp [hr]
  obtain ⟨hlt, hnr⟩ := hH.inHand k (by rw [hp]; rfl)
  refine ⟨fun _ _ _ h => (by simp [hp'] at h), fun k' hk => ?_,
    fun _ h => (by simp [hp', HPc.inHand] at h),
    by rw [hf]; exact hH.nodup.append (List.nodup_singleton k) (by simpa using hnr),
    fun k' ty' h => ?_⟩
  · rw [hf] at hk
    rw [hc]
    rcases List.mem_append.1 hk with hk | hk
    · exact hH.received k' hk
    · simpa [List.mem_singleton.1 hk] using hlt
  · have := hH.recv k' ty' (by simpa [Ne.symm (hv k' ty')] using h)
    rw [hp] at this
    simpa [hf, hp', HPc.inHand, or_comm, eq_comm] using this

theorem RouteHistory.step (hI : Inv s) (hH : RouteHistory os s) (h : Step s o s') :
    RouteHistory (os ++ [o]) s' := by
  cases h
  case recvChannel hp ty =>
    have hf : (os ++ [Obs.recv s.received ty]).filterMap Obs.routed = os.filterMap Obs.routed := by
      simp [Obs.routed]
    have hnr : s.received ∉ os.filterMap Obs.routed := fun h => lt_irrefl _ (hH.received _ h)
    refine ⟨fun _ _ _ h => (by cases h), fun k hk => ?_, fun k hk => ?_, hf ▸ hH.nodup,
      fun k ty' h => ?_⟩
    · exact Nat.lt_succ_of_lt (hH.received k (hf ▸ hk))
    · cases hk; exact ⟨Nat.lt_succ_self _, hf ▸ hnr⟩
    · rw [hf]
      rcases List.mem_append.1 h with h | h
      · exact .inl ((hH.recv k ty' h).resolve_right (by simp [hp, HPc.inHand]))
      · simp at h; simp [h.1, HPc.inHand]
  case lookup k ty hp hm =>
    have hf : (os ++ [Obs.lookup k ty (s.handler ty)]).filterMap Obs.routed =
        os.filterMap Obs.routed := by simp [Obs.routed]
    refine ⟨fun k' ty' h' e => ?_, hf ▸ hH.received, fun k' hk => hf ▸ hH.inHand k' (hp ▸ hk),
      hf ▸ hH.nodup, fun k' ty' h => ?_⟩
    · cases e; simp
    · rw [hf, show HPc.inHand (.route k ty (s.handler ty)) = s.pc.inHand by rw [hp]; rfl]
      exact hH.recv k' ty' (by simpa using h)
  case send k ty q hp hc hr => exact hH.route hp rfl (by simp) rfl rfl
  case reject k ty hp => exact hH.route hp rfl (by simp) rfl rfl
  case sendClosed k ty q hp hc => exact absurd (hI.step (.sendClosed hp hc)).panicked (by simp)
  case tdCloseClosed q qs hp hc =>
    exact absurd (hI.step (.tdCloseClosed hp hc)).panicked (by simp)
  case recvClosed hp => exact hH.quiet rfl (by simp) rfl (.inr ⟨by rw [hp]; rfl, rfl⟩)
  case tdLock hp hm qs hqs => exact hH.quiet rfl (by simp) rfl (.inr ⟨by rw [hp]; rfl, rfl⟩)
  case tdClose q qs hp hc => exact hH.quiet rfl (by simp) rfl (.inr ⟨by rw [hp]; rfl, rfl⟩)
  case tdNil hp => exact hH.quiet rfl (by simp) rfl (.inr ⟨by rw [hp]; rfl, rfl⟩)
  all_goals exact hH.quiet rfl (by simp) rfl (.inl rfl)

theorem RouteHistory.init : RouteHistory [] .init :=
  ⟨fun _ _ _ h => (by cases h), by simp, fun _ h => (by cases h), by simp, by simp⟩

/-- Which queues the teardown has closed: each once, each made before, and every registered
queue found closed among them. -/
structure CloseHistory (os : List Obs) (s : State) : Prop where
  nodup : (os.filterMap Obs.closed).Nodup
  closed : ∀ q ∈ os.filterMap Obs.closed, (s.queues q).closed = true
  made : ∀ q ∈ os.filterMap Obs.closed, q < s.next
  registered : ∀ q ∈ s.registered, (s.queues q).closed = true → q ∈ os.filterMap Obs.closed

theorem CloseHistory.quiet (hH : CloseHistory os s) (ho : o.closed = none)
    (hq : ∀ q, (s'.queues q).closed = (s.queues q).closed) (hn : s.next ≤ s'.next)
    (hr : ∀ q ∈ s'.registered, q ∈ s.registered) : CloseHistory (os ++ [o]) s' := by
  have hf : (os ++ [o]).filterMap Obs.closed = os.filterMap Obs.closed := by simp [ho]
  refine ⟨hf ▸ hH.nodup, fun q h => ?_, fun q h => ?_, fun q h hc => ?_⟩
  · rw [hq]; exact hH.closed q (hf ▸ h)
  · exact Nat.lt_of_lt_of_le (hH.made q (hf ▸ h)) hn
  · exact hf ▸ hH.registered q (hr q h) (hq q ▸ hc)

theorem CloseHistory.make (hH : CloseHistory os s) (hI : Inv s) {x : Queue} {t : State}
    (ht : t.queues = (s.make x).queues) (hn : t.next = s.next + 1)
    (hr : ∀ q ∈ t.registered, q ∈ s.registered ∨ q = s.next ∧ x.closed = false)
    (ho : o.closed = none) : CloseHistory (os ++ [o]) t := by
  have hf : (os ++ [o]).filterMap Obs.closed = os.filterMap Obs.closed := by simp [ho]
  have hq : ∀ q < s.next, (t.queues q).closed = (s.queues q).closed := fun q h => by
    rw [ht, State.make_queues, if_neg (ne_of_lt h)]
  refine ⟨hf ▸ hH.nodup, fun q h => ?_, fun q h => ?_, fun q h hc => ?_⟩
  · rw [hq q (hH.made q (hf ▸ h))]; exact hH.closed q (hf ▸ h)
  · exact hn ▸ Nat.lt_succ_of_lt (hH.made q (hf ▸ h))
  · rcases hr q h with h | ⟨rfl, hx⟩
    · exact hf ▸ hH.registered q h (hq q (hI.made q h) ▸ hc)
    · rw [ht, State.make_queues, if_pos rfl, hx] at hc; cases hc

theorem CloseHistory.step (hI : Inv s) (hH : CloseHistory os s) (h : Step s o s') :
    CloseHistory (os ++ [o]) s' := by
  cases h
  case openClosed ty hm hh =>
    exact hH.make hI rfl rfl (fun q h => by simp [State.registered, hh] at h) rfl
  case openNew ty hs hm hh hq =>
    refine hH.make hI rfl rfl (fun q h => ?_) rfl
    simp only [State.registered, hh, Option.getD_some, List.map_append, List.mem_append] at h
    simpa [State.registered, hh] using h
  case tdClose q qs hp hc =>
    have hq := (hI.closing _ hp).2 q (List.mem_cons_self _ _)
    have hf : (os ++ [Obs.close q]).filterMap Obs.closed = os.filterMap Obs.closed ++ [q] := by
      simp [Obs.closed]
    have hcl : ∀ q', ((s.setQueue q { s.queues q with closed := true }).queues q').closed =
        if q' = q then true else (s.queues q').closed := fun q' => by
      rw [State.setQueue_queues]; split <;> rfl
    have hnew : q ∉ os.filterMap Obs.closed := fun h => by simpa [hc] using hH.closed q h
    refine ⟨hf ▸ hH.nodup.append (List.nodup_singleton q) (by simpa using hnew), fun q' h => ?_,
      fun q' h => ?_, fun q' h hc' => ?_⟩
    · show ((s.setQueue q _).queues q').closed = true
      rw [hcl]
      split
      · rfl
      · exact hH.closed q' (by simpa [hf, *] using h)
    · rw [hf] at h
      rcases List.mem_append.1 h with h | h
      · exact hH.made q' h
      · exact List.mem_singleton.1 h ▸ hI.made q hq
    · show q' ∈ (os ++ [Obs.close q]).filterMap Obs.closed
      rw [hf]
      change ((s.setQueue q _).queues q').closed = true at hc'
      rw [hcl] at hc'
      split at hc'
      · simp [*]
      · exact List.mem_append_left _ (hH.registered q' h hc')
  case tdNil hp =>
    exact hH.quiet rfl (fun _ => rfl) le_rfl (fun q h => by simp [State.registered] at h)
  case send k ty q hp hc hr =>
    exact hH.quiet rfl (fun q' => by rw [State.setQueue_queues]; split <;> simp [*]) le_rfl
      (fun _ h => h)
  case take q k rest hi =>
    exact hH.quiet rfl (fun q' => by rw [State.setQueue_queues]; split <;> simp [*]) le_rfl
      (fun _ h => h)
  all_goals exact hH.quiet rfl (fun _ => rfl) le_rfl (fun _ h => h)

theorem CloseHistory.init : CloseHistory [] .init :=
  ⟨by simp, by simp, by simp, by simp [State.init, State.registered]⟩

/-- Everything the observations of a run from `NewClient` say about its last state. -/
structure History (os : List Obs) (s : State) : Prop where
  inv : Inv s
  map : MapHistory os s
  arrival : ArrivalHistory os s
  route : RouteHistory os s
  close : CloseHistory os s

theorem History.step (hH : History os s) (h : Step s o s') : History (os ++ [o]) s' :=
  ⟨hH.inv.step h, hH.map.step h, hH.arrival.step h, hH.route.step hH.inv h,
    hH.close.step hH.inv h⟩

theorem Run.history (h : Run .init os s) : History os s := by
  generalize hi : State.init = s₀ at h
  induction h with
  | refl => subst hi; exact ⟨.init, .init, .init, .init, .init⟩
  | tail _ hs ih => exact ih.step hs

theorem History.teardown_not_mem (hH : History os s) (hp : s.pc ≠ .done) : Obs.teardown ∉ os :=
  fun h => hp (hH.inv.nil.mp (hH.map.teardown.mp h))

theorem Run.closed_of_closed {t : State} (h : Run s os t) {q : Nat} (hq : q < s.next)
    (hc : (s.queues q).closed = true) :
    q < t.next ∧ (t.queues q).closed = true ∧ ∀ k, Obs.send k q ∉ os := by
  induction h with
  | refl => exact ⟨hq, hc, by simp⟩
  | tail _ hs ih =>
    obtain ⟨hq', hc', hn⟩ := ih
    obtain ⟨hq'', hc''⟩ := hs.closed_of_closed hq' hc'
    refine ⟨hq'', hc'', fun k hk => ?_⟩
    rcases List.mem_append.1 hk with hk | hk
    · exact hn k hk
    · cases List.mem_singleton.1 hk
      exact absurd (Step.send_inv hs).2 (by simp [hc'])

theorem Run.handlers_nil {t : State} (h : Run s os t) (hh : s.handlers = none) :
    t.handlers = none := by
  induction h with
  | refl => exact hh
  | tail _ hs ih => exact hs.handlers_nil ih

end History

/-! ## The registry's contract -/

section Contract

variable {os a b c : List Obs} {s : State}

theorem Run.ret_nil_of_registered (h : Run .init os s) {ty q r}
    (hos : os = a ++ [.ret ty (some q)] ++ b ++ [.ret ty r] ++ c)
    (ht : Obs.teardown ∉ a ++ b) : r = none := by
  obtain ⟨t, _, h₁, hs, -⟩ := (hos ▸ h).split_at
  have hH := h₁.history
  have hmem : (ty, q) ∈ t.handlers.getD [] :=
    (hH.map.handler ty q).2 ⟨by simp, by simpa using ht⟩
  exact hs.ret_of_handler (fun e => by simp [e] at hmem) (lookup_of_mem hH.inv.keys hmem)

theorem Run.lookup_registered (h : Run .init os s) {k ty r}
    (hos : os = a ++ [.lookup k ty r] ++ b) :
    Obs.recv k ty ∈ a ∧ Obs.teardown ∉ a ∧ ∀ q, r = some q ↔ Obs.ret ty (some q) ∈ a := by
  obtain ⟨t, _, h₁, hs, -⟩ := (hos ▸ h).split_at
  have hH := h₁.history
  obtain ⟨hp, rfl⟩ := hs.lookup_inv
  have ht := hH.teardown_not_mem (by simp [hp])
  refine ⟨hH.arrival.lookup k ty hp, ht, fun q => ⟨fun hq => ?_, fun hq => ?_⟩⟩
  · exact ((hH.map.handler ty q).1 (mem_of_lookup hq)).1
  · exact lookup_of_mem hH.inv.keys ((hH.map.handler ty q).2 ⟨hq, ht⟩)

theorem Run.send_looked_up (h : Run .init os s) {k q} (hos : os = a ++ [.send k q] ++ b) :
    ∃ ty, Obs.lookup k ty (some q) ∈ a := by
  obtain ⟨t, _, h₁, hs, -⟩ := (hos ▸ h).split_at
  obtain ⟨⟨ty, hp⟩, -⟩ := hs.send_inv
  exact ⟨ty, h₁.history.route.lookup k ty _ hp⟩

theorem Run.reject_looked_up (h : Run .init os s) {k msg} (hos : os = a ++ [.reject k msg] ++ b) :
    ∃ ty, Obs.lookup k ty none ∈ a ∧ msg = "unknown channel type: " ++ ty := by
  obtain ⟨t, _, h₁, hs, -⟩ := (hos ▸ h).split_at
  obtain ⟨ty, hp, rfl⟩ := hs.reject_inv
  exact ⟨ty, h₁.history.route.lookup k ty _ hp, rfl⟩

theorem Run.ret_closed (h : Run .init os s) (ht : Obs.teardown ∈ os) {ty q}
    (hq : Obs.ret ty (some q) ∈ os) : (s.queues q).closed = true := by
  have hH := h.history
  have hn := hH.map.teardown.mp ht
  exact hH.inv.unregistered q (hH.map.ret_made ty q hq) (by simp [State.registered, hn])

theorem Run.teardown_closes (h : Run .init os s) {ty q}
    (hos : os = a ++ [.ret ty (some q)] ++ b) (hb : Obs.teardown ∈ b) :
    Obs.close q ∈ b := by
  obtain ⟨b₁, b₂, rfl⟩ := List.append_of_mem hb
  obtain ⟨t, _, h₁, hs, -⟩ := (hos ▸ h).split_at
  have hqa : q ∉ a.filterMap Obs.closed := fun hm =>
    lt_irrefl _ (hs.ret_some ▸ h₁.history.close.made q hm)
  obtain ⟨u, _, h₂, hu, -⟩ :=
    (show Run .init ((a ++ [.ret ty (some q)] ++ b₁) ++ [.teardown] ++ b₂) s by
      simpa [hos] using h).split_at
  have hH := h₂.history
  have hp := hu.teardown_inv
  have hreg : q ∈ u.registered := List.mem_map.2 ⟨(ty, q),
    (hH.map.handler ty q).2 ⟨by simp, hH.teardown_not_mem (by simp [hp])⟩, rfl⟩
  have hcl := hH.close.registered q hreg ((hH.inv.open_iff q hreg).2 (by simp [hp, HPc.HasClosed]))
  simp only [List.filterMap_append, List.mem_append] at hcl
  rcases hcl with (hcl | hcl) | hcl
  · exact absurd hcl hqa
  · simp [Obs.closed] at hcl
  · obtain ⟨o, ho, hc⟩ := List.mem_filterMap.1 hcl
    cases o <;> simp [Obs.closed] at hc
    exact List.mem_append_left _ (hc ▸ ho)

theorem Run.no_send_after_close (h : Run .init os s) {q} (hos : os = a ++ [.close q] ++ b) (k : Nat) :
    Obs.send k q ∉ b := by
  obtain ⟨t, t', h₁, hs, h₂⟩ := (hos ▸ h).split_at
  obtain ⟨⟨qs, hp⟩, hn, hc⟩ := hs.close_inv
  have hq := h₁.history.inv.made q ((h₁.history.inv.closing _ hp).2 q (List.mem_cons_self _ _))
  exact (h₂.closed_of_closed (hn ▸ hq) hc).2.2 k

/-- The registry's contract for a run from `NewClient` with observations `os`, ending in `s`. -/
structure RegistryContract (os : List Obs) (s : State) : Prop where
  -- per type, a second `HandleChannelOpen` before the teardown returns `nil`
  second_open_nil : ∀ a b c ty q r, os = a ++ [.ret ty (some q)] ++ b ++ [.ret ty r] ++ c →
    Obs.teardown ∉ a ++ b → r = none
  -- after the teardown, `HandleChannelOpen` returns a queue already closed
  open_after_teardown : Obs.teardown ∈ os → ∀ ty r s', Step s (.ret ty r) s' →
    ∃ q, r = some q ∧ (s'.queues q).closed = true
  -- the lookup of the `k`-th `NewChannel` is of its own type, before the teardown, and finds the
  -- queue returned for that type, if any
  lookup : ∀ a b k ty r, os = a ++ [.lookup k ty r] ++ b →
    Obs.recv k ty ∈ a ∧ Obs.teardown ∉ a ∧ ∀ q, r = some q ↔ Obs.ret ty (some q) ∈ a
  -- a `NewChannel` goes to the queue its lookup found ...
  send : ∀ a b k q, os = a ++ [.send k q] ++ b → ∃ ty, Obs.lookup k ty (some q) ∈ a
  -- ... or is rejected as of an unknown type, when the lookup found none
  reject : ∀ a b k msg, os = a ++ [.reject k msg] ++ b →
    ∃ ty, Obs.lookup k ty none ∈ a ∧ msg = "unknown channel type: " ++ ty
  -- each `NewChannel` has one type
  recv_type : ∀ k ty ty', Obs.recv k ty ∈ os → Obs.recv k ty' ∈ os → ty = ty'
  -- each `NewChannel` is sent or rejected at most once
  routed_once : (os.filterMap Obs.routed).Nodup
  -- and is held until it is
  never_dropped : ∀ k ty, Obs.recv k ty ∈ os → k ∈ os.filterMap Obs.routed ∨ s.pc.inHand = some k
  -- no close of a closed queue, no send on one
  no_panic : s.panicked = none
  -- the map is `nil` exactly from the teardown on ...
  nil_iff : Obs.teardown ∈ os ↔ s.handlers = none
  -- ... and stays so
  stays_nil : ∀ os' t, Run s os' t → Obs.teardown ∈ os → t.handlers = none
  -- after the teardown every queue ever returned is closed
  returned_closed : Obs.teardown ∈ os → ∀ ty q, Obs.ret ty (some q) ∈ os →
    (s.queues q).closed = true
  -- a queue returned before the teardown is closed by the teardown's own `close`
  teardown_closes : ∀ a b ty q, os = a ++ [.ret ty (some q)] ++ b → Obs.teardown ∈ b →
    Obs.close q ∈ b
  -- each queue is closed at most once
  closed_once : (os.filterMap Obs.closed).Nodup
  -- nothing is sent to a queue once closed
  no_send_after_close : ∀ a b q, os = a ++ [.close q] ++ b → ∀ k, Obs.send k q ∉ b

/-- The channel-open registry keeps its contract over every interleaving of `HandleChannelOpen`
calls with `handleChannelOpens` and receives from the queues. -/
theorem channel_registry_safe : ∀ os s, Run .init os s → RegistryContract os s := by
  intro os s h
  have hH := h.history
  exact ⟨fun _ _ _ _ _ _ hos ht => h.ret_nil_of_registered hos ht,
    fun ht _ _ _ hs => hs.ret_of_nil (hH.map.teardown.mp ht),
    fun _ _ _ _ _ hos => h.lookup_registered hos, fun _ _ _ _ hos => h.send_looked_up hos,
    fun _ _ _ _ hos => h.reject_looked_up hos, hH.arrival.type, hH.route.nodup, hH.route.recv,
    hH.inv.panicked, hH.map.teardown,
    fun _ _ h' ht => h'.handlers_nil (hH.map.teardown.mp ht), fun ht _ _ hq => h.ret_closed ht hq,
    fun _ _ _ _ hos hb => h.teardown_closes hos hb, hH.close.nodup,
    fun _ _ _ hos k => h.no_send_after_close hos k⟩

/-- `NewClient` registers `"forwarded-tcpip"`, and one channel of that type arrives and is sent
to its queue. -/
theorem channel_registry_sample :
    ∃ s, Run .init [.ret "forwarded-tcpip" (some 0), .recv 0 "forwarded-tcpip",
        .lookup 0 "forwarded-tcpip" (some 0), .send 0 0] s ∧
      RegistryContract [.ret "forwarded-tcpip" (some 0), .recv 0 "forwarded-tcpip",
        .lookup 0 "forwarded-tcpip" (some 0), .send 0 0] s := by
  have h₁ : Run .init [.ret "forwarded-tcpip" (some 0)] _ :=
    (Run.refl _).tail (Step.openNew rfl rfl rfl)
  have h₂ := h₁.tail (Step.recvChannel rfl "forwarded-tcpip")
  have h₃ := h₂.tail (Step.lookup rfl rfl)
  have h₄ := h₃.tail (Step.send (k := 0) (q := 0) rfl rfl (by decide))
  exact ⟨_, h₄, channel_registry_safe _ _ h₄⟩

end Contract

end Fasst.Ssh.Client
