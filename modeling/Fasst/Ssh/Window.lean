import Mathlib.Data.Fintype.Card
import Mathlib.Algebra.BigOperators.Group.Finset
import Mathlib.Algebra.Order.Ring.Nat

/-!
# Fasst.Ssh.Window — the channel flow-control window (`common.go`, `window`)

`window` is a `uint32` credit `win`, a waiter count `writeWaiters` and a `closed` flag, guarded
by the `sync.Cond` it embeds.  Every goroutine calling `add`, `close` or `reserve` is a thread
`i : ι` with a program counter `WPc`, and a `Step` is one statement of the source, so a run is
any interleaving of any number of calls.  `w.L` is `lock` (its holder); `Wait` parks the
caller and releases the lock in one step (`resWait`), `Broadcast` makes every parked thread
runnable (`resWoken`), and a woken thread takes the lock again before it re-tests.

* `add_check_spec`, `credit_exact`, `reserve_grant`: the `uint32` test `w.win+win < win` is
  exactly overflow, and neither `+=` nor `-=` wraps;
* `add_overflow_run`, `add_fits_run`, `reserve_run`: a call started on a free `w.L` runs to its
  return, with the result and the credit the source gives;
* `win_run`, `waiters_run`: along a run `win` is the initial credit plus the accepted adds minus
  the grants, as natural numbers, and `writeWaiters` counts the reservers between `++` and `--`;
* `no_lost_wakeup`: with `w.L` free no thread is parked while credit is available or the
  window is closed.
-/

namespace Fasst.Ssh.Window

/-! ## Model -/

/-- Program counter of a goroutine inside `add`, `close` or `reserve` (lines 346–395). -/
inductive WPc
  | idle
  /-- `if win == 0 { return true }` -/
  | addStart (n : UInt32)
  /-- `w.L.Lock()` -/
  | addLock (n : UInt32)
  /-- `if w.win+win < win { w.L.Unlock(); return false }` -/
  | addCheck (n : UInt32)
  /-- `w.win += win` -/
  | addInc (n : UInt32)
  /-- `w.Broadcast()` -/
  | addBcast (n : UInt32)
  /-- `w.L.Unlock(); return true` -/
  | addUnlock (n : UInt32)
  | closeLock
  /-- `w.closed = true` -/
  | closeSet
  | closeBcast
  | closeUnlock
  | resLock (k : UInt32)
  /-- `w.writeWaiters++` -/
  | resInc (k : UInt32)
  /-- `w.Broadcast()` -/
  | resBcast (k : UInt32)
  /-- `for w.win == 0 && !w.closed { w.Wait() }` -/
  | resCheck (k : UInt32)
  /-- parked inside `w.Wait()` -/
  | resWait (k : UInt32)
  /-- woken by a `Broadcast`, taking `w.L` again inside `Wait` -/
  | resWoken (k : UInt32)
  /-- `w.writeWaiters--` -/
  | resDec (k : UInt32)
  /-- the grant, `w.win -= win`, `err = io.EOF` if closed, `w.L.Unlock()`, `return` -/
  | resTake (k : UInt32)
  deriving DecidableEq, Repr

namespace WPc

def locked : WPc → Bool
  | addCheck _ | addInc _ | addBcast _ | addUnlock _ | closeSet | closeBcast | closeUnlock
  | resInc _ | resBcast _ | resCheck _ | resDec _ | resTake _ => true
  | _ => false

def waiter : WPc → Bool
  | resBcast _ | resCheck _ | resWait _ | resWoken _ | resDec _ => true
  | _ => false

def wakes : WPc → Bool
  | addBcast _ | closeBcast => true
  | _ => false

theorem locked_of_wakes {p : WPc} (h : p.wakes) : p.locked := by
  cases p <;> simp_all [wakes, locked]

end WPc

/-- `window` together with the state of `w.L` and of every goroutine using it. -/
structure W (ι : Type) where
  win : UInt32
  writeWaiters : Int
  closed : Bool
  lock : Option ι
  pc : ι → WPc

variable {ι : Type}

/-- `w.Broadcast()`: every goroutine parked in `Wait` becomes runnable. -/
def wake (pc : ι → WPc) : ι → WPc := fun j =>
  match pc j with
  | .resWait k => .resWoken k
  | p => p

theorem wake_apply (pc : ι → WPc) (j : ι) :
    wake pc j = match pc j with | .resWait k => .resWoken k | q => q := rfl

@[simp] theorem locked_wake (pc : ι → WPc) (j : ι) : (wake pc j).locked = (pc j).locked := by
  rw [wake_apply]; split <;> simp_all [WPc.locked]

@[simp] theorem waiter_wake (pc : ι → WPc) (j : ι) : (wake pc j).waiter = (pc j).waiter := by
  rw [wake_apply]; split <;> simp_all [WPc.waiter]

@[simp] theorem wakes_wake (pc : ι → WPc) (j : ι) : (wake pc j).wakes = (pc j).wakes := by
  rw [wake_apply]; split <;> simp_all [WPc.wakes]

theorem wake_ne_resWait (pc : ι → WPc) (j : ι) (k : UInt32) : wake pc j ≠ .resWait k := by
  rw [wake_apply]; split <;> simp_all

variable [DecidableEq ι]

def W.goto (s : W ι) (i : ι) (p : WPc) : W ι := { s with pc := Function.update s.pc i p }

/-- The amount `reserve(win)` takes: `if w.win < win { win = w.win }`. -/
def grant (win k : UInt32) : UInt32 := if win < k then win else k

inductive Obs
  | tau
  /-- `w.win += win` -/
  | credit (n : UInt32)
  /-- `add(n)` returns `ok` -/
  | added (n : UInt32) (ok : Bool)
  /-- `reserve(k)` returns `g`, with `io.EOF` iff `eof` -/
  | reserved (k g : UInt32) (eof : Bool)
  deriving DecidableEq, Repr

inductive Step : W ι → ι → Obs → W ι → Prop
  | callAdd {s i} (n : UInt32) (h : s.pc i = .idle) : Step s i .tau (s.goto i (.addStart n))
  | callClose {s i} (h : s.pc i = .idle) : Step s i .tau (s.goto i .closeLock)
  | callReserve {s i} (k : UInt32) (h : s.pc i = .idle) : Step s i .tau (s.goto i (.resLock k))
  | addZero {s i} (h : s.pc i = .addStart 0) : Step s i (.added 0 true) (s.goto i .idle)
  | addStart {s i n} (h : s.pc i = .addStart n) (hn : n ≠ 0) :
      Step s i .tau (s.goto i (.addLock n))
  | addLock {s i n} (h : s.pc i = .addLock n) (hl : s.lock = none) :
      Step s i .tau { s.goto i (.addCheck n) with lock := some i }
  | addOverflow {s i n} (h : s.pc i = .addCheck n) (ho : s.win + n < n) :
      Step s i (.added n false) { s.goto i .idle with lock := none }
  | addFits {s i n} (h : s.pc i = .addCheck n) (ho : ¬ s.win + n < n) :
      Step s i .tau (s.goto i (.addInc n))
  | addInc {s i n} (h : s.pc i = .addInc n) :
      Step s i (.credit n) { s.goto i (.addBcast n) with win := s.win + n }
  | addBcast {s i n} (h : s.pc i = .addBcast n) :
      Step s i .tau { s with pc := wake (Function.update s.pc i (.addUnlock n)) }
  | addUnlock {s i n} (h : s.pc i = .addUnlock n) :
      Step s i (.added n true) { s.goto i .idle with lock := none }
  | closeLock {s i} (h : s.pc i = .closeLock) (hl : s.lock = none) :
      Step s i .tau { s.goto i .closeSet with lock := some i }
  | closeSet {s i} (h : s.pc i = .closeSet) :
      Step s i .tau { s.goto i .closeBcast with closed := true }
  | closeBcast {s i} (h : s.pc i = .closeBcast) :
      Step s i .tau { s with pc := wake (Function.update s.pc i .closeUnlock) }
  | closeUnlock {s i} (h : s.pc i = .closeUnlock) :
      Step s i .tau { s.goto i .idle with lock := none }
  | resLock {s i k} (h : s.pc i = .resLock k) (hl : s.lock = none) :
      Step s i .tau { s.goto i (.resInc k) with lock := some i }
  | resInc {s i k} (h : s.pc i = .resInc k) :
      Step s i .tau { s.goto i (.resBcast k) with writeWaiters := s.writeWaiters + 1 }
  | resBcast {s i k} (h : s.pc i = .resBcast k) :
      Step s i .tau { s with pc := wake (Function.update s.pc i (.resCheck k)) }
  | resWait {s i k} (h : s.pc i = .resCheck k) (hw : s.win = 0 ∧ s.closed = false) :
      Step s i .tau { s.goto i (.resWait k) with lock := none }
  | resExit {s i k} (h : s.pc i = .resCheck k) (hw : ¬ (s.win = 0 ∧ s.closed = false)) :
      Step s i .tau (s.goto i (.resDec k))
  | resWoken {s i k} (h : s.pc i = .resWoken k) (hl : s.lock = none) :
      Step s i .tau { s.goto i (.resCheck k) with lock := some i }
  | resDec {s i k} (h : s.pc i = .resDec k) :
      Step s i .tau { s.goto i (.resTake k) with writeWaiters := s.writeWaiters - 1 }
  | resTake {s i k} (h : s.pc i = .resTake k) :
      Step s i (.reserved k (grant s.win k) s.closed)
        { s.goto i .idle with win := s.win - grant s.win k, lock := none }

inductive Run : W ι → List Obs → W ι → Prop
  | refl (s : W ι) : Run s [] s
  | tail {s t u : W ι} {ls : List Obs} {i : ι} {l : Obs} :
      Run s ls t → Step t i l u → Run s (ls ++ [l]) u

def init (w₀ : UInt32) : W ι := ⟨w₀, 0, false, none, fun _ => .idle⟩

def Reachable (s : W ι) : Prop := ∃ w₀ ls, Run (init w₀) ls s

/-! ## Small lemmas -/

section Lemmas

variable {s : W ι} {i j : ι} {p : WPc}

@[simp] theorem goto_pc_self : (s.goto i p).pc i = p := Function.update_same _ _ _

@[simp] theorem goto_pc_ne (h : j ≠ i) : (s.goto i p).pc j = s.pc j := Function.update_noteq h _ _

@[simp] theorem goto_win : (s.goto i p).win = s.win := rfl
@[simp] theorem goto_closed : (s.goto i p).closed = s.closed := rfl
@[simp] theorem goto_lock : (s.goto i p).lock = s.lock := rfl
@[simp] theorem goto_writeWaiters : (s.goto i p).writeWaiters = s.writeWaiters := rfl

theorem u32_toNat_add (a b : UInt32) : (a + b).toNat = (a.toNat + b.toNat) % 2 ^ 32 := by
  simp [UInt32.toNat, UInt32.add_def, BitVec.toNat_add]

theorem u32_lt_iff (a b : UInt32) : a < b ↔ a.toNat < b.toNat := by
  simp [UInt32.lt_def, BitVec.lt_def, UInt32.toNat]

/-- The source's overflow test `w.win+win < win` is exactly overflow of the `uint32` sum. -/
theorem overflow_iff (w n : UInt32) : w + n < n ↔ 2 ^ 32 - 1 < w.toNat + n.toNat := by
  have hw := w.toNat_lt_size
  have hn := n.toNat_lt_size
  simp only [UInt32.size] at hw hn
  rw [u32_lt_iff, u32_toNat_add]
  by_cases h : w.toNat + n.toNat < 2 ^ 32
  · rw [Nat.mod_eq_of_lt h]; omega
  · rw [show w.toNat + n.toNat = w.toNat + n.toNat - 2 ^ 32 + 2 ^ 32 by omega, Nat.add_mod_right,
      Nat.mod_eq_of_lt (by omega)]
    omega

theorem grant_toNat (w k : UInt32) : (grant w k).toNat = min k.toNat w.toNat := by
  unfold grant
  split <;> rename_i h <;> rw [u32_lt_iff] at h <;> omega

theorem grant_le (w k : UInt32) : grant w k ≤ w := by
  unfold grant; split
  · exact UInt32.le_refl w
  · exact UInt32.not_lt.mp ‹_›

theorem grant_zero (k : UInt32) : grant 0 k = 0 := by
  unfold grant; split
  · rfl
  · rename_i h; rw [u32_lt_iff] at h; exact UInt32.toNat.inj (by simp at h ⊢; omega)

end Lemmas

/-! ## The invariant -/

/-- What holds of every reachable window: `w.L` is held exactly by the goroutine whose program
counter is inside a critical section, an `add` past its check fits in `uint32`, and a parked
reserver sees no credit and an open window unless a `Broadcast` is pending. -/
structure Inv (s : W ι) : Prop where
  lock_iff : ∀ i, s.lock = some i ↔ (s.pc i).locked
  fits : ∀ i n, s.pc i = .addInc n → s.win.toNat + n.toNat < 2 ^ 32
  parked : ∀ i k, s.pc i = .resWait k → (s.win = 0 ∧ s.closed = false) ∨ ∃ j, (s.pc j).wakes

section Invariant

variable {s s' : W ι} {i j : ι} {l : Obs}

omit [DecidableEq ι] in
theorem Inv.unique (hI : Inv s) (hi : (s.pc i).locked) (hj : (s.pc j).locked) : i = j :=
  Option.some_injective _ (((hI.lock_iff i).mpr hi).symm.trans ((hI.lock_iff j).mpr hj))

theorem lock_iff_update {lk lk' : Option ι} {pc : ι → WPc} {p : WPc}
    (hI : ∀ j, lk = some j ↔ (pc j).locked) (hi : lk' = some i ↔ p.locked)
    (hne : ∀ j, j ≠ i → (lk' = some j ↔ lk = some j)) :
    ∀ j, lk' = some j ↔ (Function.update pc i p j).locked := by
  intro j
  by_cases h : j = i
  · subst h; simpa using hi
  · rw [Function.update_noteq h, hne j h, hI j]

theorem lock_iff_step (hI : Inv s) (h : Step s i l s') :
    ∀ j, s'.lock = some j ↔ (s'.pc j).locked := by
  have hL := hI.lock_iff
  have keep : ∀ {p q}, s.pc i = p → q.locked = p.locked →
      ∀ j, s.lock = some j ↔ (Function.update s.pc i q j).locked := fun hp hq =>
    lock_iff_update hL (by rw [hL i, hp, hq]) (fun _ _ => Iff.rfl)
  have take : ∀ {q : WPc}, s.lock = none → q.locked →
      ∀ j, some i = some j ↔ (Function.update s.pc i q j).locked := fun hl hq =>
    lock_iff_update hL (by simp [hq]) (fun j hj => by simp [hl, Ne.symm hj])
  have give : ∀ {p q : WPc}, s.pc i = p → p.locked → q.locked = false →
      ∀ j, none = some j ↔ (Function.update s.pc i q j).locked := fun hp hpl hq =>
    lock_iff_update hL (by simp [hq]) (fun j hj => by
      have := (hL i).mpr (hp ▸ hpl); simp [this, Ne.symm hj])
  cases h with
  | addLock _ hl | closeLock _ hl | resLock _ hl | resWoken _ hl => exact take hl rfl
  | addOverflow h | addUnlock h | closeUnlock h | resWait h | resTake h =>
    exact give h rfl rfl
  | addBcast h | closeBcast h | resBcast h =>
    intro j; rw [locked_wake]; exact keep h (by rfl) j
  | callAdd _ h | callClose h | callReserve _ h | addZero h | addStart h | addFits h | addInc h
  | closeSet h | resInc h | resExit h | resDec h => exact keep h (by rfl)

theorem step_pc_other (h : Step s i l s') (hj : j ≠ i) :
    s'.pc j = s.pc j ∨ ∃ k, s.pc j = .resWait k ∧ s'.pc j = .resWoken k := by
  have wk : ∀ p, wake (Function.update s.pc i p) j = s.pc j ∨
      ∃ k, s.pc j = .resWait k ∧ wake (Function.update s.pc i p) j = .resWoken k := fun p => by
    rw [wake_apply, Function.update_noteq hj]; split <;> simp_all
  cases h <;> first | exact wk _ | simp [W.goto, Function.update_noteq hj]

/-- The shared fields change only at `w.win += win`, `w.closed = true`, the grant, and the
two updates of `writeWaiters`: all made by the holder of `w.L`. -/
theorem step_shared (h : Step s i l s') :
    (s'.win = s.win ∧ s'.closed = s.closed ∧ s'.writeWaiters = s.writeWaiters) ∨
    (s.pc i).locked ∧ ((∃ n, s.pc i = .addInc n ∧ l = .credit n ∧ s'.win = s.win + n ∧
        s'.closed = s.closed ∧ s'.pc i = .addBcast n) ∨
      (s.pc i = .closeSet ∧ s'.win = s.win ∧ s'.closed = true ∧ s'.pc i = .closeBcast) ∨
      (∃ k, s.pc i = .resTake k ∧ s'.win = s.win - grant s.win k ∧ s'.closed = s.closed) ∨
      (s'.win = s.win ∧ s'.closed = s.closed)) := by
  cases h <;> first | exact .inl ⟨rfl, rfl, rfl⟩ | simp_all [WPc.locked]

theorem Inv.frame (hI : Inv s) (h : Step s j l s') (hi : (s.pc i).locked) (hji : j ≠ i) :
    s'.win = s.win ∧ s'.closed = s.closed ∧ s'.writeWaiters = s.writeWaiters := by
  rcases step_shared h with h' | ⟨hl, -⟩
  · exact h'
  · exact absurd (hI.unique hl hi) hji

theorem fits_step (hI : Inv s) (h : Step s i l s') :
    ∀ j n, s'.pc j = .addInc n → s'.win.toNat + n.toNat < 2 ^ 32 := by
  intro j n hj
  by_cases hji : j = i
  · subst hji
    cases h <;> simp_all [W.goto, wake_apply, overflow_iff]
    omega
  · have hpc : s.pc j = .addInc n := by
      rcases step_pc_other h hji with e | ⟨k, -, e⟩ <;> simp_all
    rw [(hI.frame h (by simp [hpc, WPc.locked]) (Ne.symm hji)).1]
    exact hI.fits j n hpc

theorem parked_step (hI : Inv s) (h : Step s i l s') :
    ∀ j k, s'.pc j = .resWait k → (s'.win = 0 ∧ s'.closed = false) ∨ ∃ m, (s'.pc m).wakes := by
  intro j k hj
  by_cases hji : j = i
  · subst hji
    cases h <;> simp_all [W.goto, wake_ne_resWait]
  have hpc : s.pc j = .resWait k := by
    rcases step_pc_other h hji with e | ⟨k', -, e⟩ <;> simp_all
  rcases hI.parked j k hpc with ⟨hw, hc⟩ | ⟨m, hm⟩
  · rcases step_shared h with ⟨e1, e2, -⟩ | ⟨-, ⟨n, -, -, -, -, e⟩ | ⟨-, -, -, e⟩ | ⟨k', -, e1, e2⟩ | ⟨e1, e2⟩⟩
    · exact .inl ⟨e1 ▸ hw, e2 ▸ hc⟩
    · exact .inr ⟨i, by simp [e, WPc.wakes]⟩
    · exact .inr ⟨i, by simp [e, WPc.wakes]⟩
    · exact .inl ⟨by simp [e1, hw, grant_zero], e2 ▸ hc⟩
    · exact .inl ⟨e1 ▸ hw, e2 ▸ hc⟩
  · by_cases hmi : m = i
    · subst hmi
      exfalso
      cases h <;> simp_all [WPc.wakes, wake_ne_resWait]
    · refine .inr ⟨m, ?_⟩
      rcases step_pc_other h hmi with e | ⟨k', e, -⟩ <;> simp_all [WPc.wakes]

theorem Inv.step (hI : Inv s) (h : Step s i l s') : Inv s' :=
  ⟨lock_iff_step hI h, fits_step hI h, parked_step hI h⟩

omit [DecidableEq ι] in
theorem Inv.init (w₀ : UInt32) : Inv (init w₀ : W ι) :=
  ⟨fun _ => by simp [Window.init, WPc.locked], fun _ _ h => by simp [Window.init] at h,
    fun _ _ h => by simp [Window.init] at h⟩

theorem Inv.run {ls : List Obs} (hI : Inv s) (h : Run s ls s') : Inv s' := by
  induction h with
  | refl => exact hI
  | tail _ hs ih => exact ih.step hs

theorem Reachable.inv (hs : Reachable s) : Inv s := by
  obtain ⟨w₀, ls, h⟩ := hs
  exact (Inv.init w₀).run h

theorem Reachable.step (hs : Reachable s) (h : Step s i l s') : Reachable s' := by
  obtain ⟨w₀, ls, hr⟩ := hs
  exact ⟨w₀, _, hr.tail h⟩

end Invariant

/-! ## The waiter count -/

section Count

variable [Fintype ι] {s s' : W ι} {i : ι} {l : Obs}

/-- The number of `reserve` calls between their `writeWaiters++` and `writeWaiters--`. -/
def waiting (pc : ι → WPc) : Nat := (Finset.univ.filter fun j => (pc j).waiter).card

theorem waiting_update (pc : ι → WPc) (i : ι) (p : WPc) :
    waiting (Function.update pc i p) + (if (pc i).waiter then 1 else 0) =
      waiting pc + (if p.waiter then 1 else 0) := by
  rw [waiting, waiting, Finset.card_filter, Finset.card_filter,
    ← Finset.add_sum_erase _ _ (Finset.mem_univ i), ← Finset.add_sum_erase _ _ (Finset.mem_univ i),
    Finset.sum_congr rfl fun j hj => by rw [Function.update_noteq (Finset.ne_of_mem_erase hj)]]
  simp only [Function.update_same]
  omega

omit [DecidableEq ι] in
@[simp] theorem waiting_wake (pc : ι → WPc) : waiting (wake pc) = waiting pc := by
  simp only [waiting, waiter_wake]

theorem waiting_update_of {pc : ι → WPc} {i : ι} {p : WPc} (h : (pc i).waiter = p.waiter) :
    waiting (Function.update pc i p) = waiting pc := by
  have := waiting_update pc i p; rw [h] at this; omega

theorem waiters_step (hc : s.writeWaiters = waiting s.pc) (h : Step s i l s') :
    s'.writeWaiters = waiting s'.pc := by
  cases h
  case resInc k hp =>
    have := waiting_update s.pc i (.resBcast k)
    simp [hp, WPc.waiter] at this
    simp only [W.goto, hc]; omega
  case resDec k hp =>
    have := waiting_update s.pc i (.resTake k)
    simp [hp, WPc.waiter] at this
    simp only [W.goto, hc]; omega
  all_goals simp_all [W.goto, WPc.waiter, waiting_update_of]

end Count

/-! ## Exact arithmetic and accounting -/

section Accounting

variable {s s' : W ι} {i : ι} {l : Obs} {n k g : UInt32} {eof : Bool}

def Obs.creditOf : Obs → Nat
  | .credit n => n.toNat
  | _ => 0

def Obs.grantOf : Obs → Nat
  | .reserved _ g _ => g.toNat
  | _ => 0

def credits (ls : List Obs) : Nat := (ls.map Obs.creditOf).sum

def grants (ls : List Obs) : Nat := (ls.map Obs.grantOf).sum

/-- The decision of `add`: it refuses exactly on `uint32` overflow, and the test itself touches
nothing shared. -/
theorem add_check_spec (h : Step s i l s') (hp : s.pc i = .addCheck n) :
    (l = .added n false ↔ 2 ^ 32 - 1 < s.win.toNat + n.toNat) ∧
      (l ≠ .added n false → s'.pc i = .addInc n) ∧
      s'.win = s.win ∧ s'.writeWaiters = s.writeWaiters ∧ s'.closed = s.closed := by
  cases h <;> simp_all [overflow_iff]

theorem credit_exact (hI : Inv s) (h : Step s i (.credit n) s') :
    s'.win.toNat = s.win.toNat + n.toNat := by
  cases h with
  | addInc hp => simpa [u32_toNat_add] using Nat.mod_eq_of_lt (hI.fits i n hp)

theorem reserve_grant (h : Step s i (.reserved k g eof) s') :
    g.toNat = min k.toNat s.win.toNat ∧ s'.win.toNat = s.win.toNat - g.toNat ∧ eof = s.closed := by
  cases h with
  | resTake _ =>
    exact ⟨grant_toNat _ _, UInt32.toNat_sub_of_le _ _ (grant_le _ _), rfl⟩

theorem win_step (hI : Inv s) (h : Step s i l s') :
    s'.win.toNat + l.grantOf = s.win.toNat + l.creditOf := by
  cases h
  case addInc n hp => simpa [Obs.grantOf, Obs.creditOf] using credit_exact hI (.addInc hp)
  case resTake k hp =>
    have := grant_toNat s.win k
    simp only [Obs.grantOf, Obs.creditOf, UInt32.toNat_sub_of_le _ _ (grant_le _ _)]
    omega
  all_goals simp [Obs.grantOf, Obs.creditOf, W.goto]

theorem win_run {ls : List Obs} (hI : Inv s) (h : Run s ls s') :
    s'.win.toNat + grants ls = s.win.toNat + credits ls := by
  induction h with
  | refl => rfl
  | tail hr hs ih =>
    have := win_step (hI.run hr) hs
    simp only [grants, credits, List.map_append, List.sum_append, List.map_cons, List.map_nil,
      List.sum_cons, List.sum_nil] at ih ⊢
    omega

theorem closed_step (h : Step s i l s') (hc : s.closed = true) : s'.closed = true := by
  cases h <;> simp_all

theorem closed_run {ls : List Obs} (h : Run s ls s') (hc : s.closed = true) : s'.closed = true := by
  induction h with
  | refl => exact hc
  | tail _ hs ih => exact closed_step hs ih

end Accounting

/-! ## Whole calls -/

section Calls

variable {s : W ι} {i : ι} {n k : UInt32}

theorem add_overflow_run (hi : s.pc i = .idle) (hl : s.lock = none) (hn : n ≠ 0)
    (ho : 2 ^ 32 - 1 < s.win.toNat + n.toNat) : Run s [.tau, .tau, .tau, .added n false] s := by
  have h := (Run.refl s).tail (.callAdd n hi)
    |>.tail (.addStart (i := i) (n := n) (by simp) hn)
    |>.tail (.addLock (i := i) (n := n) (by simp) (by simpa))
    |>.tail (.addOverflow (i := i) (n := n) (by simp) ((overflow_iff _ _).mpr ho))
  convert h using 1
  cases s; simp_all [W.goto]

theorem add_fits_run (hi : s.pc i = .idle) (hl : s.lock = none) (hn : n ≠ 0)
    (hf : s.win.toNat + n.toNat ≤ 2 ^ 32 - 1) :
    ∃ s', Run s [.tau, .tau, .tau, .tau, .credit n, .tau, .added n true] s' ∧
      s'.win.toNat = s.win.toNat + n.toNat ∧ s'.writeWaiters = s.writeWaiters ∧
      s'.closed = s.closed ∧ s'.pc i = .idle ∧ s'.lock = none :=
  ⟨_, (Run.refl s).tail (.callAdd n hi)
      |>.tail (.addStart (i := i) (n := n) (by simp) hn)
      |>.tail (.addLock (i := i) (n := n) (by simp) (by simpa))
      |>.tail (.addFits (i := i) (n := n) (by simp) (by rw [overflow_iff]; simpa using hf))
      |>.tail (.addInc (i := i) (n := n) (by simp))
      |>.tail (.addBcast (i := i) (n := n) (by simp))
      |>.tail (.addUnlock (i := i) (n := n) (by simp [wake_apply])),
    by simp only [u32_toNat_add, goto_win]; exact Nat.mod_eq_of_lt (by omega),
    rfl, rfl, by simp, rfl⟩

theorem reserve_run (hi : s.pc i = .idle) (hl : s.lock = none)
    (hw : s.win ≠ 0 ∨ s.closed = true) :
    ∃ s', Run s [.tau, .tau, .tau, .tau, .tau, .tau, .reserved k (grant s.win k) s.closed] s' ∧
      s'.win = s.win - grant s.win k ∧ s'.writeWaiters = s.writeWaiters ∧
      s'.closed = s.closed ∧ s'.pc i = .idle ∧ s'.lock = none :=
  ⟨_, (Run.refl s).tail (.callReserve k hi)
      |>.tail (.resLock (i := i) (k := k) (by simp) (by simpa))
      |>.tail (.resInc (i := i) (k := k) (by simp))
      |>.tail (.resBcast (i := i) (k := k) (by simp))
      |>.tail (.resExit (i := i) (k := k) (by simp [wake_apply])
        (by simpa [or_iff_not_imp_left] using hw))
      |>.tail (.resDec (i := i) (k := k) (by simp))
      |>.tail (.resTake (i := i) (k := k) (by simp)),
    rfl, by simp, rfl, by simp, rfl⟩

end Calls

/-! ## The window theorems -/

section Main

variable {s s' : W ι} {i : ι} {l : Obs}

theorem waiters_run [Fintype ι] {w₀ : UInt32} {ls : List Obs} (h : Run (init w₀) ls s) :
    s.writeWaiters = waiting s.pc := by
  induction h with
  | refl => simp [Window.init, waiting, WPc.waiter]
  | tail _ hs ih => exact waiters_step ih hs

theorem no_lost_wakeup (hs : Reachable s) (hl : s.lock = none) {k : UInt32}
    (h : s.pc i = .resWait k) : s.win = 0 ∧ s.closed = false := by
  have hI := hs.inv
  rcases hI.parked i k h with h' | ⟨m, hm⟩
  · exact h'
  · have := (hI.lock_iff m).mpr (WPc.locked_of_wakes hm); simp_all

theorem no_wait_after_close (hc : s.closed = true) (h : Step s i l s') {j : ι} {k : UInt32}
    (hj : s'.pc j = .resWait k) : s.pc j = .resWait k := by
  by_cases hji : j = i
  · subst hji; cases h <;> simp_all [W.goto, wake_ne_resWait]
  · rcases step_pc_other h hji with e | ⟨k', -, e⟩ <;> simp_all

theorem eof_after_close {t : W ι} {ls : List Obs} (hc : s.closed = true) (h : Run s ls t) :
    t.closed = true ∧ ∀ k g eof, Obs.reserved k g eof ∈ ls → eof = true := by
  induction h with
  | refl => exact ⟨hc, by simp⟩
  | tail _ hs ih =>
    refine ⟨closed_step hs ih.1, fun k g eof hm => ?_⟩
    rcases List.mem_append.mp hm with hm | hm
    · exact ih.2 k g eof hm
    · cases List.mem_singleton.mp hm; cases hs; simpa using ih.1

/-- **Exact `uint32` accounting of the window.** (a) `add(n)` with `n ≠ 0`, started on a free
`w.L`, runs to its return: on overflow of `win + n` it returns false and leaves the window as it
was, otherwise it returns true with `win` grown by exactly `n`; at its test it refuses exactly on
overflow and changes nothing shared; while it holds `w.L` after the test only its own
`w.win += win` changes `win`, by exactly `n`. (b) `reserve(k)`, started on a free `w.L` with
credit available or the window closed, runs to its return; every grant is `min(k, win)`, taken
without wrapping, with `io.EOF` iff `closed`. (c) Along every run from a fresh window `win` is
the initial credit plus the accepted credits minus the grants, as natural numbers,
`writeWaiters` is the number of reservers between `++` and `--`, and `closed` never reverts. -/
theorem window_accounting [Fintype ι] :
    (∀ (s : W ι) i n, s.pc i = .idle → s.lock = none → n ≠ 0 →
      (2 ^ 32 - 1 < s.win.toNat + n.toNat → Run s [.tau, .tau, .tau, .added n false] s) ∧
      (s.win.toNat + n.toNat ≤ 2 ^ 32 - 1 →
        ∃ s', Run s [.tau, .tau, .tau, .tau, .credit n, .tau, .added n true] s' ∧
          s'.win.toNat = s.win.toNat + n.toNat ∧ s'.writeWaiters = s.writeWaiters ∧
          s'.closed = s.closed ∧ s'.pc i = .idle ∧ s'.lock = none)) ∧
    (∀ (s s' : W ι) i l n, Step s i l s' → s.pc i = .addCheck n →
      (l = .added n false ↔ 2 ^ 32 - 1 < s.win.toNat + n.toNat) ∧
      (l ≠ .added n false → s'.pc i = .addInc n) ∧
      s'.win = s.win ∧ s'.writeWaiters = s.writeWaiters ∧ s'.closed = s.closed) ∧
    (∀ (s s' : W ι) i j l n, Reachable s → s.pc i = .addInc n → Step s j l s' →
      if j = i then s'.win.toNat = s.win.toNat + n.toNat else s'.win = s.win) ∧
    (∀ (s : W ι) i k, s.pc i = .idle → s.lock = none → (s.win ≠ 0 ∨ s.closed = true) →
      ∃ s', Run s [.tau, .tau, .tau, .tau, .tau, .tau, .reserved k (grant s.win k) s.closed] s' ∧
        s'.win = s.win - grant s.win k ∧ s'.writeWaiters = s.writeWaiters ∧
        s'.closed = s.closed ∧ s'.pc i = .idle ∧ s'.lock = none) ∧
    (∀ (s s' : W ι) i k g eof, Step s i (.reserved k g eof) s' →
      g.toNat = min k.toNat s.win.toNat ∧ s'.win.toNat = s.win.toNat - g.toNat ∧
        eof = s.closed) ∧
    (∀ w₀ ls (s : W ι), Run (init w₀) ls s →
      s.win.toNat + grants ls = w₀.toNat + credits ls ∧ s.writeWaiters = waiting s.pc) ∧
    (∀ (s t : W ι) ls, Run s ls t → s.closed = true → t.closed = true) := by
  refine ⟨fun _ _ _ hi hl hn => ⟨add_overflow_run hi hl hn, add_fits_run hi hl hn⟩,
    fun _ _ _ _ _ h hp => add_check_spec h hp, ?_, fun _ _ _ hi hl hw => reserve_run hi hl hw,
    fun _ _ _ _ _ _ h => reserve_grant h,
    fun w₀ _ _ h => ⟨by simpa using win_run (Inv.init w₀) h, waiters_run h⟩,
    fun _ _ _ h hc => closed_run h hc⟩
  intro s s' i j l n hs hp h
  split
  · subst j
    have hl : l = .credit n := by cases h <;> simp_all
    subst hl
    exact credit_exact hs.inv h
  · exact (hs.inv.frame h (i := i) (by simp [hp, WPc.locked]) ‹_›).1

/-- **No lost wakeup.** With `w.L` free no reserver is parked in `Wait` while credit is
available or the window is closed; once `closed` is set no reserver parks again, and every
`reserve` that returns after it returns `io.EOF`. -/
theorem window_no_lost_wakeup :
    (∀ (s : W ι) i k, Reachable s → s.lock = none → s.pc i = .resWait k →
      s.win = 0 ∧ s.closed = false) ∧
    (∀ (s s' : W ι) i j l k, s.closed = true → Step s i l s' → s'.pc j = .resWait k →
      s.pc j = .resWait k) ∧
    (∀ (s t : W ι) ls, s.closed = true → Run s ls t →
      t.closed = true ∧ ∀ k g eof, Obs.reserved k g eof ∈ ls → eof = true) :=
  ⟨fun _ _ _ hs hl h => no_lost_wakeup hs hl h, fun _ _ _ _ _ _ hc h hj => no_wait_after_close hc h hj,
    fun _ _ _ hc h => eof_after_close hc h⟩

end Main

end Fasst.Ssh.Window
