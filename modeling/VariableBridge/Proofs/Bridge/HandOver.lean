import Mathlib.Data.List.Nodup
import Mathlib.Data.List.Pairwise
import VariableBridge.Bridge.Slot

/-!
# A slot that is used by many at once

Any number of controlling parties and one processing party use a slot at the same
time. Publishing and clearing are two actions each, so that actions of other parties
may fall between them and both cells may be full at once. Main statements: every
action and every poll moves values between the cells, the place of the current value
and the dropped ones without losing or doubling any; values only move forward, from
pending to current, retired and dropped, or from pending to dropped at once.
-/

namespace VariableBridge

namespace Slot

variable {α : Type}

/-- A call of a controlling party. -/
inductive Request (α : Type) where
  /-- Publish a value. -/
  | publish (v : α)
  /-- Drop the retired value. -/
  | collect
  /-- Drop all values of the slot. -/
  | clear
  deriving DecidableEq, Repr

/-- What a controlling party does at once. -/
inductive Action (α : Type) where
  /-- Drop the retired value. -/
  | emptyRetired
  /-- Make a value the pending one and drop the one before. -/
  | offer (v : α)
  /-- Drop the pending value. -/
  | emptyPending
  deriving DecidableEq, Repr

/-- The actions of a call, in order. -/
def Request.actions : Request α → List (Action α)
  | .publish v => [.emptyRetired, .offer v]
  | .collect => [.emptyRetired]
  | .clear => [.emptyPending, .emptyRetired]

/-- The value that a call publishes, if it does. -/
def Request.value? : Request α → Option α
  | .publish v => some v
  | _ => none

/-- The value that an action makes the pending one, if it does. -/
def Action.value? : Action α → Option α
  | .offer v => some v
  | _ => none

/-- What an action drops, and the slot after it. -/
def act (s : Slot α) : Action α → Option α × Slot α
  | .emptyRetired => s.takeRetired
  | .offer v => s.replacePending v
  | .emptyPending => s.takePending

/-- What some actions in a row drop, and the slot after them. -/
def actAll (s : Slot α) : List (Action α) → List α × Slot α
  | [] => ([], s)
  | a :: rest => ((s.act a).1.toList ++ ((s.act a).2.actAll rest).1, ((s.act a).2.actAll rest).2)

/-- Poll while other parties may hold the locks of the cells. The pending cell is looked at
first; a lock that is held ends the attempt. -/
def tryPoll (s : Slot α) (current : Option α) (pendingHeld retiredHeld : Bool) :
    Bool × Option α × Slot α :=
  if pendingHeld || (s.hasPending && retiredHeld) then (false, current, s) else s.poll current

/-- What a whole call drops, and the slot after it. -/
def answer (s : Slot α) : Request α → List α × Slot α
  | .publish v => s.publish v
  | .collect => (s.collect.1.toList, s.collect.2)
  | .clear => s.clear

/-- A call whose actions are not interrupted is the operation of the slot, so that the actions of
the parties are those of the running program. -/
theorem actAll_actions (s : Slot α) (r : Request α) : s.actAll r.actions = s.answer r := by
  cases r <;> simp [Request.actions, actAll, act, answer, publish, collect, clear]

/-- Everything that a poll may do: swap the pending value in, or nothing. A cell that is taken makes
it do nothing. -/
theorem tryPoll_cases (s : Slot α) (current : Option α) (pendingHeld retiredHeld : Bool) :
    (∃ v, s = ⟨some v, none⟩ ∧
        s.tryPoll current pendingHeld retiredHeld = (true, some v, ⟨none, current⟩)) ∨
      s.tryPoll current pendingHeld retiredHeld = (false, current, s) := by
  unfold tryPoll
  by_cases hheld : (pendingHeld || (s.hasPending && retiredHeld)) = true
  · exact .inr (if_pos hheld)
  · rw [if_neg hheld]
    obtain ⟨pending, retired⟩ := s
    cases pending with
    | none => exact .inr rfl
    | some v =>
      cases retired with
      | none => exact .inl ⟨v, rfl, rfl⟩
      | some old => exact .inr rfl

/-- What was in the slot and what is offered is in the slot or dropped after an action. -/
theorem values_act (s : Slot α) (a : Action α) :
    ((s.act a).2.values ++ (s.act a).1.toList).Perm (s.values ++ a.value?.toList) := by
  cases a with
  | emptyRetired => simp [act, takeRetired, values, Action.value?]
  | emptyPending => simpa [act, takePending, values, Action.value?] using List.perm_append_comm
  | offer v =>
    have hout : (v :: (s.retired.toList ++ s.pending.toList)).Perm
        (v :: (s.pending.toList ++ s.retired.toList)) := List.perm_append_comm.cons v
    simpa [act, replacePending, values, Action.value?] using
      hout.trans (List.perm_append_singleton v _).symm

/-- A poll moves values between the slot and the processing party, and drops or doubles none of
them. -/
theorem values_tryPoll (s : Slot α) (current : Option α) (pendingHeld retiredHeld : Bool) :
    ((s.tryPoll current pendingHeld retiredHeld).2.2.values ++
        (s.tryPoll current pendingHeld retiredHeld).2.1.toList).Perm
      (s.values ++ current.toList) := by
  rcases s.tryPoll_cases current pendingHeld retiredHeld with ⟨v, hs, hp⟩ | hp
  · rw [hp, hs]
    simp [values]
  · rw [hp]

end Slot

/-- Parties at a slot, and the history of their values. No party looks at the history. -/
structure HandOver (α : Type) where
  /-- The slot. -/
  slot : Slot α
  /-- The value that the processing party uses. -/
  current : Option α
  /-- The actions that each controlling party has before it, in order. -/
  ahead : List (List (Slot.Action α))
  /-- The values that were made pending, in order. -/
  offered : List α
  /-- The values that became current by a poll, in order. -/
  adopted : List α
  /-- The values that were dropped, in order. -/
  dropped : List α
  deriving DecidableEq, Repr

namespace HandOver

open Slot (Request Action)

variable {α : Type}

/-- Who does something next. -/
inductive Move where
  /-- The controlling party with this number takes its next action. -/
  | control (party : Nat)
  /-- The processing party polls while others hold these locks or do not. -/
  | poll (pendingHeld retiredHeld : Bool)
  deriving DecidableEq, Repr

/-- Controlling parties that are about to make these calls at an empty slot. -/
def start (calls : List (List (Request α))) (initial : Option α) : HandOver α :=
  ⟨.empty, initial, calls.map (·.flatMap Request.actions), [], [], []⟩

/-- All values that are published by some party. -/
def published (calls : List (List (Request α))) : List α :=
  calls.flatten.filterMap Request.value?

/-- One action. -/
def act (h : HandOver α) (a : Action α) : HandOver α :=
  { h with
    slot := (h.slot.act a).2
    offered := h.offered ++ a.value?.toList
    dropped := h.dropped ++ (h.slot.act a).1.toList }

/-- One poll. -/
def poll (h : HandOver α) (pendingHeld retiredHeld : Bool) : HandOver α :=
  let (changed, current, slot) := h.slot.tryPoll h.current pendingHeld retiredHeld
  { h with slot, current, adopted := if changed then h.adopted ++ current.toList else h.adopted }

/-- One move. A party whose calls are all done does nothing. -/
def move (h : HandOver α) : Move → HandOver α
  | .control party =>
    match h.ahead[party]? with
    | some (a :: rest) => { h with ahead := h.ahead.set party rest }.act a
    | _ => h
  | .poll pendingHeld retiredHeld => h.poll pendingHeld retiredHeld

/-- Some moves, in whatever order the parties come. -/
def after (h : HandOver α) (moves : List Move) : HandOver α := moves.foldl move h

/-- Where a value may be, in the order of its life. -/
inductive Place where
  /-- In the pending cell. -/
  | pending
  /-- With the processing party. -/
  | current
  /-- In the retired cell. -/
  | retired
  /-- Dropped. -/
  | dropped
  deriving DecidableEq, Repr

/-- How far a place is in the life of a value. -/
def Place.rank : Place → Nat
  | .pending => 0
  | .current => 1
  | .retired => 2
  | .dropped => 3

/-- All places. -/
def Place.all : List Place := [.pending, .retired, .current, .dropped]

/-- The list of places is complete, so what is said of its members is said of every place. -/
theorem Place.mem_all (p : Place) : p ∈ Place.all := by
  cases p <;> decide

/-- The values at a place. -/
def valuesAt (h : HandOver α) : Place → List α
  | .pending => h.slot.pending.toList
  | .current => h.current.toList
  | .retired => h.slot.retired.toList
  | .dropped => h.dropped

/-- The values that are not dropped. -/
def held (h : HandOver α) : List α := h.slot.values ++ h.current.toList

/-- The places together show each value that is there as often as it is there: held or dropped. -/
theorem flatMap_valuesAt (h : HandOver α) :
    Place.all.flatMap h.valuesAt = h.held ++ h.dropped := by
  simp [Place.all, valuesAt, held, Slot.values]

/-- Everything that a move may do: the next action of a party, a poll that swaps, or nothing. -/
theorem move_cases (h : HandOver α) (m : Move) :
    (∃ party a rest, h.ahead[party]? = some (a :: rest) ∧
        h.move m = { h with ahead := h.ahead.set party rest }.act a) ∨
      (∃ v, h.slot = ⟨some v, none⟩ ∧ h.move m =
        { h with
          slot := ⟨none, h.current⟩
          current := some v
          adopted := h.adopted ++ [v] }) ∨
      h.move m = h := by
  cases m with
  | control party =>
    cases hp : h.ahead[party]? with
    | none =>
      right
      right
      simp only [move, hp]
    | some actions =>
      cases actions with
      | nil =>
        right
        right
        simp only [move, hp]
      | cons a rest =>
        left
        refine ⟨party, a, rest, hp, ?_⟩
        simp only [move, hp]
  | poll pendingHeld retiredHeld =>
    right
    rcases h.slot.tryPoll_cases h.current pendingHeld retiredHeld with ⟨v, hs, hp⟩ | hp
    · left
      refine ⟨v, hs, ?_⟩
      simp only [move, poll, hp, if_true, Option.toList_some]
    · right
      simp only [move, poll, hp, Bool.false_eq_true, if_false]

/-- A poll that returns false changes nothing, whether nothing was pending or a cell was taken. -/
theorem poll_of_not_changed {h : HandOver α} {pendingHeld retiredHeld : Bool}
    (hf : (h.slot.tryPoll h.current pendingHeld retiredHeld).1 = false) :
    h.poll pendingHeld retiredHeld = h := by
  unfold poll
  rcases h.slot.tryPoll_cases h.current pendingHeld retiredHeld with ⟨v, _, hp⟩ | hp
  · rw [hp] at hf
    cases hf
  · rw [hp]
    rfl

section Accounts

/-- An action that a party takes is no longer before it, and all the others still are. -/
theorem flatten_set {β : Type} {lists : List (List β)} {i : Nat} {a : β} {rest : List β}
    (hi : lists[i]? = some (a :: rest)) :
    lists.flatten.Perm (a :: (lists.set i rest).flatten) := by
  induction lists generalizing i with
  | nil => simp at hi
  | cons list lists ih =>
    cases i with
    | zero =>
      obtain rfl : list = a :: rest := by simpa using hi
      rfl
    | succ i =>
      rw [List.set_cons_succ, List.flatten_cons, List.flatten_cons]
      exact ((ih (by simpa using hi)).append_left list).trans List.perm_middle

/-- The actions of some calls offer what the calls publish, each value once and in their order. -/
theorem filterMap_actions (calls : List (Request α)) :
    (calls.flatMap Request.actions).filterMap Action.value? = calls.filterMap Request.value? := by
  induction calls with
  | nil => rfl
  | cons call calls ih =>
    rw [List.flatMap_cons, List.filterMap_append, ih]
    cases call <;> rfl

/-- Every value is accounted for. -/
structure Accounts (calls : List (List (Request α))) (initial : Option α) (h : HandOver α) :
    Prop where
  /-- The values that were offered or will be are those that are published. -/
  budget : (h.offered ++ h.ahead.flatten.filterMap Action.value?).Perm (published calls)
  /-- The values that came are held or dropped. -/
  conserved : (h.held ++ h.dropped).Perm (initial.toList ++ h.offered)
  /-- Values become current in the order in which they were offered, and the pending value
  was offered after them. -/
  ordered : (h.adopted ++ h.slot.pending.toList).Sublist h.offered
  /-- The current value is the one that was adopted last. -/
  latest : h.current = h.adopted.getLast?.or initial

variable {calls : List (List (Request α))} {initial : Option α} {h : HandOver α}

/-- At the beginning every value is still ahead of the party that publishes it, and the initial one
is in use. -/
theorem accounts_start (calls : List (List (Request α))) (initial : Option α) :
    Accounts calls initial (start calls initial) where
  budget := by
    have hlists : (calls.map (·.flatMap Request.actions)).flatten =
        calls.flatten.flatMap Request.actions := by
      simp only [List.flatMap_def, List.map_flatten, List.flatten_flatten, List.map_map]
      rfl
    simp only [start, List.nil_append, published, hlists, filterMap_actions, List.Perm.refl]
  conserved := by simp [held, start, Slot.values, Slot.empty]
  ordered := List.Sublist.refl []
  latest := rfl

/-- The account is kept by the next action of any party, because the action moves values from one
place to another. -/
theorem Accounts.act (ha : Accounts calls initial h) {party : Nat} {a : Action α}
    {rest : List (Action α)} (hp : h.ahead[party]? = some (a :: rest)) :
    Accounts calls initial ({ h with ahead := h.ahead.set party rest }.act a) where
  budget := by
    have hrest := (flatten_set hp).filterMap Action.value?
    refine List.Perm.trans ?_ ha.budget
    change ((h.offered ++ a.value?.toList) ++ _).Perm _
    rw [List.append_assoc]
    refine (List.Perm.trans ?_ hrest.symm).append_left h.offered
    cases a <;> rfl
  conserved := by
    classical
    have hvalues := h.slot.values_act a
    have hold := ha.conserved
    rw [List.perm_iff_count] at hvalues hold ⊢
    intro v
    have hv := hvalues v
    have ho := hold v
    simp only [held, HandOver.act, List.count_append] at hv ho ⊢
    omega
  ordered := by
    have hadopted : h.adopted.Sublist h.offered :=
      (List.sublist_append_left _ _).trans ha.ordered
    cases a with
    | emptyRetired => simpa [HandOver.act, Slot.act, Slot.takeRetired, Action.value?]
        using ha.ordered
    | emptyPending => simpa [HandOver.act, Slot.act, Slot.takePending, Action.value?]
        using hadopted
    | offer v => exact hadopted.append_right [v]
  latest := ha.latest

/-- A poll that changes the current value keeps the accounts: one value goes into use, the old one
to the retired cell. -/
theorem Accounts.adopt (ha : Accounts calls initial h) {v : α} (hs : h.slot = ⟨some v, none⟩) :
    Accounts calls initial
      { h with slot := ⟨none, h.current⟩, current := some v, adopted := h.adopted ++ [v] } where
  budget := ha.budget
  conserved := by
    refine List.Perm.trans ?_ ha.conserved
    refine List.Perm.append_right _ ?_
    simp [held, Slot.values, hs]
  ordered := by
    have hold := ha.ordered
    rw [hs] at hold
    simpa using hold
  latest := by simp

/-- Every move keeps the account: an action of a party, a poll, and a poll that finds a cell taken
and does nothing. -/
theorem Accounts.move (ha : Accounts calls initial h) (m : Move) :
    Accounts calls initial (h.move m) := by
  rcases h.move_cases m with ⟨party, a, rest, hp, hm⟩ | ⟨v, hs, hm⟩ | hm
  · rw [hm]
    exact ha.act hp
  · rw [hm]
    exact ha.adopt hs
  · rw [hm]
    exact ha

/-- The account is kept by all moves in any order, so what one party does in between another's
halves loses nothing. -/
theorem Accounts.after (ha : Accounts calls initial h) (moves : List Move) :
    Accounts calls initial (h.after moves) := by
  induction moves generalizing h with
  | nil => exact ha
  | cons m moves ih => exact ih (ha.move m)

/-- If all values are distinct, none came twice: what was offered is a part of what the calls
publish. -/
theorem Accounts.nodup (ha : Accounts calls initial h)
    (hd : (initial.toList ++ published calls).Nodup) : (initial.toList ++ h.offered).Nodup := by
  have hall := (ha.budget.append_left initial.toList).nodup_iff.mpr hd
  rw [← List.append_assoc] at hall
  exact hall.of_append_left

/-- If all values are distinct, each of them is at one place only. -/
theorem Accounts.place_unique (ha : Accounts calls initial h)
    (hd : (initial.toList ++ published calls).Nodup) {v : α} {p q : Place}
    (hp : v ∈ h.valuesAt p) (hq : v ∈ h.valuesAt q) : p = q := by
  have hplaces := ha.conserved.nodup_iff.mpr (ha.nodup hd)
  rw [← flatMap_valuesAt, List.nodup_flatMap] at hplaces
  by_contra hne
  have hsymm : Std.Symm (Function.onFun List.Disjoint h.valuesAt) :=
    ⟨fun _ _ hdisjoint => List.disjoint_symm hdisjoint⟩
  exact hplaces.2.forall p.mem_all q.mem_all hne hp hq

/-- Every value that came is somewhere: pending, in use, retired or dropped. -/
theorem Accounts.exists_place (ha : Accounts calls initial h) {v : α}
    (hv : v ∈ initial.toList ++ h.offered) : ∃ p, v ∈ h.valuesAt p := by
  have hmem := ha.conserved.mem_iff.mpr hv
  rw [← flatMap_valuesAt] at hmem
  obtain ⟨p, _, hp⟩ := List.mem_flatMap.mp hmem
  exact ⟨p, hp⟩

end Accounts

/-- A value stays where it is or moves forward when a party acts: from pending to dropped, or from
retired to dropped. -/
theorem exists_place_act {h : HandOver α} {v : α} {p : Place} (hv : v ∈ h.valuesAt p)
    (a : Action α) : ∃ q, p.rank ≤ q.rank ∧ v ∈ (h.act a).valuesAt q := by
  -- whatever an action takes out of a cell is dropped by it
  have hdropped : v ∈ (h.slot.act a).1.toList → v ∈ (h.act a).valuesAt .dropped :=
    fun hout => List.mem_append_right _ hout
  cases p with
  | current => exact ⟨.current, Nat.le_refl _, hv⟩
  | dropped => exact ⟨.dropped, Nat.le_refl _, List.mem_append_left _ hv⟩
  | pending =>
    cases a with
    | emptyRetired => exact ⟨.pending, Nat.le_refl _, hv⟩
    | offer w => exact ⟨.dropped, by decide, hdropped hv⟩
    | emptyPending => exact ⟨.dropped, by decide, hdropped hv⟩
  | retired =>
    cases a with
    | emptyRetired => exact ⟨.dropped, by decide, hdropped hv⟩
    | offer w => exact ⟨.retired, Nat.le_refl _, hv⟩
    | emptyPending => exact ⟨.retired, Nat.le_refl _, hv⟩

/-- A value that is somewhere is somewhere after one move, and never at a place that comes earlier
in its life. -/
theorem exists_place_move {h : HandOver α} {v : α} {p : Place} (hv : v ∈ h.valuesAt p) (m : Move) :
    ∃ q, p.rank ≤ q.rank ∧ v ∈ (h.move m).valuesAt q := by
  rcases h.move_cases m with ⟨party, a, rest, _, hm⟩ | ⟨w, hs, hm⟩ | hm
  · rw [hm]
    have hset : v ∈ ({ h with ahead := h.ahead.set party rest } : HandOver α).valuesAt p := by
      cases p <;> exact hv
    exact exists_place_act hset a
  · rw [hm]
    cases p with
    | pending =>
      have hpending : v ∈ h.slot.pending.toList := hv
      rw [hs] at hpending
      exact ⟨.current, by decide, hpending⟩
    | current => exact ⟨.retired, by decide, hv⟩
    | retired =>
      have hretired : v ∈ h.slot.retired.toList := hv
      rw [hs] at hretired
      cases hretired
    | dropped => exact ⟨.dropped, Nat.le_refl _, hv⟩
  · rw [hm]
    exact ⟨p, Nat.le_refl _, hv⟩

/-- A value that is somewhere never disappears and never goes back, whatever moves are made. -/
theorem exists_place_after {h : HandOver α} {v : α} {p : Place} (hv : v ∈ h.valuesAt p)
    (moves : List Move) : ∃ q, p.rank ≤ q.rank ∧ v ∈ (h.after moves).valuesAt q := by
  induction moves generalizing h p with
  | nil => exact ⟨p, Nat.le_refl _, hv⟩
  | cons m moves ih =>
    obtain ⟨q, hpq, hq⟩ := exists_place_move hv m
    obtain ⟨r, hqr, hr⟩ := ih hq
    exact ⟨r, Nat.le_trans hpq hqr, hr⟩

/-- If all values are distinct, no value moves back, however the halves of the calls and the polls
fall. -/
theorem Accounts.rank_le {calls : List (List (Request α))} {initial : Option α} {h : HandOver α}
    (ha : Accounts calls initial h) (hd : (initial.toList ++ published calls).Nodup)
    {moves : List Move} {v : α} {p q : Place} (hp : v ∈ h.valuesAt p)
    (hq : v ∈ (h.after moves).valuesAt q) : p.rank ≤ q.rank := by
  obtain ⟨r, hpr, hr⟩ := exists_place_after hp moves
  rw [(ha.after moves).place_unique hd hq hr]
  exact hpr

/-- Whatever order the actions and polls of the parties come in, if all values are distinct: each
value that was offered, or was there at the beginning, is at one place only and was not dropped
twice; a poll leaves the values that are not dropped the same, and one that returns false changes
nothing; values become current in the order in which they were offered; and neither a value that
is retired or dropped nor one that was replaced, while pending or current, becomes current again.
The actions of a call that nothing comes between are the call itself. -/
theorem nothing_is_lost_or_repeated (calls : List (List (Request α))) (initial : Option α)
    (hd : (initial.toList ++ published calls).Nodup) (moves : List Move) :
    let h := (start calls initial).after moves
    (∀ v ∈ initial.toList ++ h.offered, ∃! p, v ∈ h.valuesAt p) ∧
      h.dropped.Nodup ∧
      (∀ pendingHeld retiredHeld,
        (h.poll pendingHeld retiredHeld).held.Perm h.held ∧
        (h.poll pendingHeld retiredHeld).dropped = h.dropped ∧
        ((h.slot.tryPoll h.current pendingHeld retiredHeld).1 = false →
          h.poll pendingHeld retiredHeld = h)) ∧
      h.current = h.adopted.getLast?.or initial ∧
      h.adopted.Sublist h.offered ∧
      (∀ later v, h.slot.retired = some v ∨ v ∈ h.dropped →
        (h.after later).current ≠ some v) ∧
      (∀ between later v, h.slot.pending = some v ∨ h.current = some v →
        (h.after between).slot.pending ≠ some v → (h.after between).current ≠ some v →
          ((h.after between).after later).current ≠ some v) ∧
      (∀ r : Request α, h.slot.actAll r.actions = h.slot.answer r) := by
  intro h
  have ha : Accounts calls initial h := (accounts_start calls initial).after moves
  have hgone {g : HandOver α} (hg : Accounts calls initial g) {v : α} {p : Place}
      (hp : v ∈ g.valuesAt p) (hrank : 2 ≤ p.rank) (later : List Move) :
      (g.after later).current ≠ some v := by
    intro hc
    have hnow : v ∈ (g.after later).valuesAt .current := by simp [valuesAt, hc]
    have hle := hg.rank_le hd hp hnow
    exact absurd (Nat.le_trans hrank hle) (by decide : ¬2 ≤ Place.current.rank)
  refine ⟨?_, ?_, ?_, ha.latest, (List.sublist_append_left _ _).trans ha.ordered, ?_, ?_,
    h.slot.actAll_actions⟩
  · intro v hv
    obtain ⟨p, hp⟩ := ha.exists_place hv
    exact ⟨p, hp, fun q hq => ha.place_unique hd hq hp⟩
  · exact (ha.conserved.nodup_iff.mpr (ha.nodup hd)).of_append_right
  · intro pendingHeld retiredHeld
    exact ⟨h.slot.values_tryPoll h.current pendingHeld retiredHeld, rfl, poll_of_not_changed⟩
  · intro later v hv
    rcases hv with hr | hdropped
    · exact hgone ha (p := .retired) (by simp [valuesAt, hr]) (Nat.le_refl _) later
    · exact hgone ha (p := .dropped) hdropped (by decide) later
  · intro between later v hv hpending hcurrent
    have hstart : ∃ p, v ∈ h.valuesAt p := by
      rcases hv with hp | hc
      · exact ⟨.pending, by simp [valuesAt, hp]⟩
      · exact ⟨.current, by simp [valuesAt, hc]⟩
    obtain ⟨p, hp⟩ := hstart
    obtain ⟨q, _, hq⟩ := exists_place_after hp between
    have hrank : 2 ≤ q.rank := by
      cases q with
      | pending => exact absurd (Option.mem_toList.mp hq) hpending
      | current => exact absurd (Option.mem_toList.mp hq) hcurrent
      | retired => exact Nat.le_refl _
      | dropped => decide
    exact hgone (ha.after between) hq hrank later

/-- Two parties publish at the same time, and a poll comes between their actions: both cells are
full, and the value that was offered last waits until the old one is collected. -/
theorem nothing_is_lost_between_two_publishers :
    let calls : List (List (Request Nat)) := [[.publish 2, .collect], [.publish 3]]
    let moves : List Move := [.control 0, .control 1, .control 0, .poll false false, .control 1]
    let h := (start calls (some 1)).after moves
    ((some 1).toList ++ published calls).Nodup ∧
      h.slot = ⟨some 3, some 1⟩ ∧ h.current = some 2 ∧
      h.poll false false = h ∧
      (h.after [.control 0, .poll false false]).current = some 3 ∧
      (∀ later, (h.after later).current ≠ some 1) := by
  intro calls moves h
  have hd : ((some 1).toList ++ published calls).Nodup := by decide
  obtain ⟨_, _, hpolls, _, _, hgone, _⟩ := nothing_is_lost_or_repeated calls (some 1) hd moves
  exact ⟨hd, by decide, by decide, (hpolls false false).2.2 (by decide), by decide,
    fun later => hgone later 1 (.inl (by decide))⟩

end HandOver

end VariableBridge
