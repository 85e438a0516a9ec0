import FeeMarket.Proofs.Chain.Changes
import FeeMarket.Proofs.Schedule

/-!
# Pending blocks that fall behind

A pending block is put on top of the head, but pushing a block leaves it where it is. From then on it
has the number of a stored block, or of one before it, and queries that select the pending block end
with it all the same.

**Overtaken** (`Journal.overtaken`). How many blocks were pushed since the pending block was last set
or dropped. A pending block is behind the number that comes next by just so many
(`number_add_overtaken`), so it is on top of the head only while it has not been overtaken.
-/

namespace FeeMarket

/-- The pending block, if there is one, has the number that comes next. -/
def MemoryChain.PendingOnTop (c : MemoryChain) : Prop :=
  ∀ b, c.pending = some b → b.number.toNat = c.blocks.size

/-- How many blocks have overtaken the pending block after a change, if `k` had before it. -/
def Change.overtakes (k : Nat) : Change → Nat
  | .push _ => k + 1
  | .setPending _ => 0
  | .setFinalized _ => k
  | .rewind _ => 0

/-- The same for an attempt. What is refused overtakes nothing. -/
def Attempt.overtakes (k : Nat) (a : Attempt) : Nat :=
  if a.refusal?.isSome then k else a.change.overtakes k

/-- How many blocks have overtaken the pending block. -/
def Journal.overtaken (j : Journal) : Nat := j.attempts.foldl Attempt.overtakes 0

open MemoryChain

variable {c c' : MemoryChain} {change : Change}

/-- What a change does to the distance between the pending block and the next number. -/
theorem Change.number_add_overtakes {k : Nat} (h : change.apply c = .ok c')
    (hc : ∀ b, c.pending = some b → b.number.toNat + k = c.blocks.size) {b : FullBlock}
    (hb : c'.pending = some b) : b.number.toNat + change.overtakes k = c'.blocks.size := by
  cases change with
  | push x =>
    obtain ⟨-, -, rfl⟩ := push_eq_ok.1 h
    have := hc b hb
    rw [overtakes, Array.size_push]
    omega
  | setPending b? =>
    obtain ⟨hnumber, rfl⟩ := setPending_eq_ok.1 h
    exact hnumber b hb
  | setFinalized number =>
    obtain ⟨-, rfl⟩ := setFinalized_eq_ok.1 h
    exact hc b hb
  | rewind head =>
    cases h
    simp [MemoryChain.rewind] at hb

namespace Journal

theorem number_add_overtaken (changes : List Change) {b : FullBlock}
    (hb : (of changes).chain.pending = some b) :
    b.number.toNat + (of changes).overtaken = (of changes).chain.blocks.size := by
  induction changes using List.reverseRecOn generalizing b with
  | nil => simp [MemoryChain.empty] at hb
  | append_singleton changes change ih =>
    rw [of_concat] at hb ⊢
    rcases (of changes).attempt_cases change with ⟨c, happly, hj⟩ | ⟨e, -, hj⟩
    · rw [hj] at hb ⊢
      have hstep := Change.number_add_overtakes happly (fun b hb => ih hb) hb
      simpa [overtaken, Attempt.overtakes] using hstep
    · -- A refused push overtakes nothing.
      rw [hj] at hb ⊢
      simpa [overtaken, Attempt.overtakes] using ih hb

theorem pendingOnTop_iff (changes : List Change) :
    (of changes).chain.PendingOnTop ↔
      (of changes).chain.pending = none ∨ (of changes).overtaken = 0 := by
  cases hp : (of changes).chain.pending with
  | none => simp [PendingOnTop, hp]
  | some b =>
    have hnumber := number_add_overtaken changes hp
    simp only [PendingOnTop, hp, Option.some.injEq, reduceCtorEq, false_or]
    constructor
    · intro htop
      have := htop b rfl
      omega
    · rintro hzero _ rfl
      omega

/-- **Falling behind.** A pending block is on top of the head while no block has been pushed over
it, and a window that carries it ends by just so many blocks below the next number. -/
theorem pending_falls_behind (changes : List Change) :
    ((of changes).chain.PendingOnTop ↔
        (of changes).chain.pending = none ∨ (of changes).overtaken = 0) ∧
      ∀ (o : Oracle) (count : UInt64) (percentiles : List Float) (window : Window) (b : FullBlock),
        (o.plan count .pending percentiles).outcome (of changes).chain.view = .ok window →
        window.pending = some b →
        window.last.toNat + (of changes).overtaken = (of changes).chain.blocks.size := by
  refine ⟨pendingOnTop_iff changes, ?_⟩
  intro o count percentiles window b planned hp
  obtain ⟨hb, hlast⟩ := Oracle.pending_of_plan planned hp
  rw [hlast]
  exact number_add_overtaken changes hb

/-- A block without transactions. -/
def bare (number : UInt64) : FullBlock :=
  ⟨⟨⟨number, 0, 30000000, 15000000, some initialBaseFee⟩, []⟩, []⟩

/-- Block 1 is pending, and then it is pushed. -/
def overtaking : List Change := [.push (bare 0), .setPending (some (bare 1)), .push (bare 1)]

/-- One block below the next number. -/
theorem pending_falls_behind_by_one :
    (Oracle.standard.plan 1 .pending []).outcome (of overtaking).chain.view =
        .ok ⟨some (bare 1), 1, 1⟩ ∧
      (1 : UInt64).toNat + (of overtaking).overtaken = (of overtaking).chain.blocks.size := by
  have planned : (Oracle.standard.plan 1 .pending []).outcome (of overtaking).chain.view =
      .ok ⟨some (bare 1), 1, 1⟩ := rfl
  exact ⟨planned, (pending_falls_behind overtaking).2 _ _ _ _ _ planned rfl⟩

/-- The pending block has the number of the head, and a query for the pending block ends with it. -/
theorem pending_at_head :
    (of overtaking).chain.headNumber? = some 1 ∧
      (of overtaking).chain.view .pending = some (bare 1) ∧
      ¬ (of overtaking).chain.PendingOnTop ∧
      (Oracle.standard.plan 1 .pending []).outcome (of overtaking).chain.view =
        .ok ⟨some (bare 1), 1, 1⟩ := by
  refine ⟨rfl, rfl, ?_, rfl⟩
  intro htop
  exact absurd (htop (bare 1) rfl) (by decide)

end Journal

end FeeMarket
