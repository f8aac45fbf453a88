import Mathlib.Algebra.Order.Ring.Nat
import Replex.Data.Store

namespace Replex.Data

/-! Keyed stores whose entries end at a deadline that is set when they are
made. Overwriting a live entry leaves its deadline as it is. -/

structure Kept (ν : Type) where
  value : ν
  deadline : Option Nat

def Kept.live {ν : Type} (now : Nat) (kept : Kept ν) : Bool :=
  kept.deadline.all fun deadline => decide (now < deadline)

structure Expiring (κ ν : Type) where
  entries : Store κ (Kept ν)

namespace Expiring

variable {κ ν : Type}

def empty : Expiring κ ν := ⟨.empty⟩

def kept? (store : Expiring κ ν) (now : Nat) (key : κ) : Option (Kept ν) :=
  (store.entries.lookup key).filter (Kept.live now)

def lookup (store : Expiring κ ν) (now : Nat) (key : κ) : Option ν :=
  (store.kept? now key).map Kept.value

/-- Every entry was written by now, and ends no later than a lifetime after
it was. -/
def Dated (written : κ → ν → Nat → Prop) (lifetime now : Nat)
    (store : Expiring κ ν) : Prop :=
  store.entries.Holds fun key kept => ∃ since deadline,
    written key kept.value since ∧ since ≤ now ∧
      kept.deadline = some deadline ∧ deadline ≤ since + lifetime

variable {written : κ → ν → Nat → Prop} {lifetime now : Nat}
  {store : Expiring κ ν}

theorem dated_empty (written : κ → ν → Nat → Prop) (lifetime now : Nat) :
    (empty : Expiring κ ν).Dated written lifetime now :=
  Store.holds_empty _

theorem Dated.mono (dated : store.Dated written lifetime now)
    {more : κ → ν → Nat → Prop} {later : Nat} (after : now ≤ later)
    (includes : ∀ key value since, written key value since →
      more key value since) : store.Dated more lifetime later := by
  intro key kept found
  obtain ⟨since, deadline, wrote, past, ends, bounded⟩ := dated key kept found
  exact ⟨since, deadline, includes key kept.value since wrote,
    past.trans after, ends, bounded⟩

/-- What is read was written less than a lifetime ago. -/
theorem Dated.lookup (dated : store.Dated written lifetime now) {key : κ}
    {value : ν} (found : store.lookup now key = some value) :
    ∃ since, written key value since ∧ since ≤ now ∧
      now < since + lifetime := by
  obtain ⟨kept, held, rfl⟩ := Option.map_eq_some_iff.mp found
  obtain ⟨present, live⟩ := Option.filter_eq_some_iff.mp held
  obtain ⟨since, deadline, wrote, past, ends, bounded⟩ :=
    dated key kept present
  rw [Kept.live, ends, Option.all_some, decide_eq_true_eq] at live
  exact ⟨since, wrote, past, live.trans_le bounded⟩

variable [DecidableEq κ]

def insert (store : Expiring κ ν) (now : Nat) (key : κ) (value : ν)
    (lifetime : Option Nat) : Expiring κ ν :=
  let deadline := match store.kept? now key with
    | some kept => kept.deadline
    | none => lifetime.map (now + ·)
  ⟨store.entries.insert key { value, deadline }⟩

def evict (store : Expiring κ ν) (key : κ) : Expiring κ ν :=
  ⟨store.entries.evict key⟩

theorem Dated.insert (dated : store.Dated written lifetime now) {key : κ}
    {value : ν} (wrote : written key value now) :
    (store.insert now key value (some lifetime)).Dated written lifetime
      now := by
  refine Store.Holds.insert dated ?_
  dsimp only
  split
  next kept held =>
      obtain ⟨present, live⟩ := Option.filter_eq_some_iff.mp held
      obtain ⟨since, deadline, -, past, ends, bounded⟩ := dated key kept present
      exact ⟨now, deadline, wrote, le_rfl, ends,
        bounded.trans (Nat.add_le_add_right past lifetime)⟩
  · exact ⟨now, now + lifetime, wrote, le_rfl, rfl, le_rfl⟩

theorem Dated.evict (dated : store.Dated written lifetime now) (key : κ) :
    (store.evict key).Dated written lifetime now :=
  Store.Holds.evict dated key

end Expiring

end Replex.Data
