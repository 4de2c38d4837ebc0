import Mathlib.Data.List.Induction
import VariableBridge.Bridge.Slot

/-!
# Delivery through a slot

The two sides of a slot make their calls one after the other, each of them complete
before the next begins. Main statements: the pending and the retired cell are never full
at once, so that a poll never has to wait for a value to be collected; a poll takes the
value that was published last, if one was published since the last poll or clear; and
every call drops what it is to drop, and nothing else is lost.
-/

namespace VariableBridge

/-- A slot, and the value that the processing side uses. -/
structure Delivery (α : Type) where
  /-- The slot. -/
  slot : Slot α
  /-- The value in use. -/
  current : Option α
  deriving DecidableEq, Repr

namespace Delivery

variable {α : Type}

/-- A complete call of one of the sides. -/
inductive Call (α : Type) where
  /-- Offer a value. -/
  | publish (v : α)
  /-- The processing side looks for a new value. -/
  | poll
  /-- Drop the retired value. -/
  | collect
  /-- Drop all values of the slot. -/
  | clear
  /-- The processing side drops the value that it uses. -/
  | dropCurrent
  deriving DecidableEq, Repr

/-- The value that a call offers, if it does. -/
def Call.value? : Call α → Option α
  | .publish v => some v
  | _ => none

/-- Does a call empty the pending cell? -/
def Call.empties : Call α → Bool
  | .poll => true
  | .clear => true
  | _ => false

/-- What a call drops, in order, and what it leaves. -/
def perform (d : Delivery α) : Call α → List α × Delivery α
  | .publish v => ((d.slot.publish v).1, ⟨(d.slot.publish v).2, d.current⟩)
  | .poll => ([], ⟨(d.slot.poll d.current).2.2, (d.slot.poll d.current).2.1⟩)
  | .collect => (d.slot.collect.1.toList, ⟨d.slot.collect.2, d.current⟩)
  | .clear => (d.slot.clear.1, ⟨d.slot.clear.2, d.current⟩)
  | .dropCurrent => (d.current.toList, ⟨d.slot, none⟩)

/-- What some calls leave. -/
def after (d : Delivery α) (calls : List (Call α)) : Delivery α :=
  calls.foldl (fun d c => (d.perform c).2) d

/-- An empty slot beside a value in use. -/
def start (current : Option α) : Delivery α := ⟨.empty, current⟩

/-- The values that are not dropped. -/
def held (d : Delivery α) : List α := d.slot.values ++ d.current.toList

/-- The values that some calls offer, in order. -/
def published (calls : List (Call α)) : List α := calls.filterMap Call.value?

/-- The calls after the last one that emptied the pending cell. -/
def sinceEmptied (calls : List (Call α)) : List (Call α) :=
  (calls.reverse.takeWhile (!·.empties)).reverse

/-- After one call more the state is that of the last call, made in the state that the calls before
it have left. -/
theorem after_concat (d : Delivery α) (calls : List (Call α)) (c : Call α) :
    d.after (calls ++ [c]) = ((d.after calls).perform c).2 := by
  simp only [after, List.foldl_append, List.foldl_cons, List.foldl_nil]

/-- A call that empties the pending cell begins a new stretch, any other one lengthens it. -/
theorem sinceEmptied_concat (calls : List (Call α)) (c : Call α) :
    sinceEmptied (calls ++ [c]) = if c.empties then [] else sinceEmptied calls ++ [c] := by
  unfold sinceEmptied
  rw [List.reverse_append, List.reverse_singleton, List.singleton_append, List.takeWhile_cons]
  cases c.empties <;> simp

/-- One call more publishes at most one value more, which comes last. All other calls publish
nothing. -/
theorem published_concat (calls : List (Call α)) (c : Call α) :
    published (calls ++ [c]) = published calls ++ c.value?.toList := by
  simp only [published, List.filterMap_append]
  cases c <;> rfl

/-- What was published in the last stretch was published at the end. -/
theorem published_sinceEmptied_suffix (calls : List (Call α)) :
    published (sinceEmptied calls) <:+ published calls := by
  refine List.IsSuffix.filterMap Call.value? ?_
  have hfront : calls.reverse.takeWhile (!·.empties) <+: calls.reverse :=
    List.takeWhile_prefix _
  have hback := List.reverse_suffix.mpr hfront
  rwa [List.reverse_reverse] at hback

/-- How the slot stands after some calls. -/
structure Follows (calls : List (Call α)) (d : Delivery α) : Prop where
  /-- The pending value is the last one of those published since the cell was emptied. -/
  pending : d.slot.pending = (published (sinceEmptied calls)).getLast?
  /-- The two cells are not both full. -/
  exclusive : d.slot.pending = none ∨ d.slot.retired = none

/-- At the beginning nothing was published and both cells are empty, whatever the processing side
begins with. -/
theorem follows_start (current : Option α) : Follows [] (start current) := ⟨rfl, .inl rfl⟩

/-- A poll takes the value that is pending, unless a retired one is in the way. -/
theorem poll_of_pending {d : Delivery α} {v : α} (hp : d.slot.pending = some v)
    (hr : d.slot.retired = none) : d.slot.poll d.current = (true, some v, ⟨none, d.current⟩) := by
  unfold Slot.poll
  rw [hp, hr]

/-- A poll does nothing if no value is pending: it says so and keeps the value that is in use. -/
theorem poll_of_not_pending {d : Delivery α} (hp : d.slot.pending = none) :
    d.slot.poll d.current = (false, d.current, d.slot) := by
  unfold Slot.poll
  rw [hp]

/-- Everything that a poll may do while the cells are not both full. -/
theorem Follows.poll_cases {calls : List (Call α)} {d : Delivery α} (h : Follows calls d) :
    (∃ v, d.slot.pending = some v ∧
        d.slot.poll d.current = (true, some v, ⟨none, d.current⟩)) ∨
      (d.slot.pending = none ∧ d.slot.poll d.current = (false, d.current, d.slot)) := by
  cases hp : d.slot.pending with
  | none => exact .inr ⟨rfl, poll_of_not_pending hp⟩
  | some v =>
    have hr : d.slot.retired = none := by
      rcases h.exclusive with hnone | hr
      · rw [hp] at hnone
        cases hnone
      · exact hr
    exact .inl ⟨v, rfl, poll_of_pending hp hr⟩

/-- Every call keeps the account of the pending value and never fills both cells. Publishing
does so because it empties the retired cell first, polling because it empties the pending one. -/
theorem Follows.perform {calls : List (Call α)} {d : Delivery α} (h : Follows calls d)
    (c : Call α) : Follows (calls ++ [c]) (d.perform c).2 := by
  have hpending := h.pending
  cases c with
  | publish v =>
    refine ⟨?_, .inr rfl⟩
    rw [sinceEmptied_concat]
    simp only [Call.empties, Bool.false_eq_true, if_false, published_concat, Call.value?,
      Option.toList_some, List.getLast?_concat]
    rfl
  | poll =>
    have hempty : (published (sinceEmptied (calls ++ [Call.poll]))).getLast? = none := by
      rw [sinceEmptied_concat]
      rfl
    have hcleared : (d.perform .poll).2.slot.pending = none := by
      rcases h.poll_cases with ⟨v, _, hpoll⟩ | ⟨hp, hpoll⟩
      · simp only [Delivery.perform, hpoll]
      · simp only [Delivery.perform, hpoll, hp]
    exact ⟨hcleared.trans hempty.symm, .inl hcleared⟩
  | collect =>
    refine ⟨?_, .inr rfl⟩
    rw [sinceEmptied_concat]
    simp only [Call.empties, Bool.false_eq_true, if_false, published_concat, Call.value?,
      Option.toList_none, List.append_nil]
    exact hpending
  | clear =>
    refine ⟨?_, .inl rfl⟩
    rw [sinceEmptied_concat]
    rfl
  | dropCurrent =>
    refine ⟨?_, h.exclusive⟩
    rw [sinceEmptied_concat]
    simp only [Call.empties, Bool.false_eq_true, if_false, published_concat, Call.value?,
      Option.toList_none, List.append_nil]
    exact hpending

/-- After any number of calls the pending value is the last one published since the cell was
emptied. -/
theorem follows_after (current : Option α) (calls : List (Call α)) :
    Follows calls ((start current).after calls) := by
  induction calls using List.reverseRecOn with
  | nil => exact follows_start current
  | append_singleton calls c ih =>
    rw [after_concat]
    exact ih.perform c

/-- What was held and what is offered is held or dropped after a call. -/
theorem held_perform (d : Delivery α) (c : Call α) :
    ((d.perform c).2.held ++ (d.perform c).1).Perm (d.held ++ c.value?.toList) := by
  obtain ⟨⟨pending, retired⟩, current⟩ := d
  -- the values in the order in which `held` lists them
  let ps := pending.toList
  let rs := retired.toList
  let cs := current.toList
  cases c with
  | publish v =>
    change ((v :: cs) ++ (rs ++ ps)).Perm ((ps ++ rs ++ cs) ++ [v])
    have hswap : (cs ++ (rs ++ ps)).Perm (ps ++ rs ++ cs) :=
      (List.perm_append_comm.append_left cs).trans List.perm_append_comm
    exact (hswap.cons v).trans (List.perm_append_singleton v _).symm
  | poll =>
    cases pending with
    | none => rfl
    | some v =>
      cases retired with
      | some old => rfl
      | none =>
        change ((cs ++ [v]) ++ []).Perm (([v] ++ [] ++ cs) ++ [])
        rw [List.append_nil, List.append_nil, List.append_nil]
        exact List.perm_append_comm
  | collect =>
    change ((ps ++ [] ++ cs) ++ rs).Perm ((ps ++ rs ++ cs) ++ [])
    rw [List.append_nil, List.append_nil, List.append_assoc, List.append_assoc]
    exact List.perm_append_comm.append_left ps
  | clear =>
    change (cs ++ (ps ++ rs)).Perm ((ps ++ rs ++ cs) ++ [])
    rw [List.append_nil]
    exact List.perm_append_comm
  | dropCurrent =>
    change (((ps ++ rs) ++ []) ++ cs).Perm ((ps ++ rs ++ cs) ++ [])
    rw [List.append_nil, List.append_nil]

/-- After any number of complete calls the two cells are not both full, so that a poll takes
whatever is pending. It does so exactly if a value was published since the last poll or clear,
and then the value published last is the current one. A poll drops nothing, collecting drops
the retired value, publishing drops the retired and then the pending value, clearing the pending
and then the retired one; all other values are kept. -/
theorem next_poll_takes_last_published (current : Option α) (calls : List (Call α)) :
    let d := (start current).after calls
    (d.slot.pending = none ∨ d.slot.retired = none) ∧
      (d.slot.poll d.current).1 = d.slot.hasPending ∧
      ((d.slot.poll d.current).1 = true ↔ published (sinceEmptied calls) ≠ []) ∧
      ((d.slot.poll d.current).1 = true →
        ∃ v, (published calls).getLast? = some v ∧ (d.slot.poll d.current).2.1 = some v) ∧
      (d.perform .poll).1 = [] ∧
      (d.perform .collect).1 = d.slot.retired.toList ∧
      (∀ v, (d.perform (.publish v)).1 = d.slot.retired.toList ++ d.slot.pending.toList) ∧
      (d.perform .clear).1 = d.slot.pending.toList ++ d.slot.retired.toList ∧
      ∀ c, ((d.perform c).2.held ++ (d.perform c).1).Perm (d.held ++ c.value?.toList) := by
  intro d
  have h : Follows calls d := follows_after current calls
  have hlast := h.pending
  refine ⟨h.exclusive, ?_, ?_, ?_, rfl, rfl, fun _ => rfl, rfl, d.held_perform⟩
  · rcases h.poll_cases with ⟨v, hp, hpoll⟩ | ⟨hp, hpoll⟩
    · rw [hpoll, Slot.hasPending, hp, Option.isSome_some]
    · rw [hpoll, Slot.hasPending, hp, Option.isSome_none]
  · rcases h.poll_cases with ⟨v, hp, hpoll⟩ | ⟨hp, hpoll⟩
    · rw [hp] at hlast
      have hne : published (sinceEmptied calls) ≠ [] := by
        intro hnil
        rw [hnil] at hlast
        cases hlast
      exact iff_of_true (by rw [hpoll]) hne
    · rw [hp] at hlast
      have hnil := List.getLast?_eq_none_iff.mp hlast.symm
      rw [hpoll, hnil]
      simp
  · intro htaken
    rcases h.poll_cases with ⟨v, hp, hpoll⟩ | ⟨hp, hpoll⟩
    · rw [hp] at hlast
      obtain ⟨before, hsplit⟩ := published_sinceEmptied_suffix calls
      refine ⟨v, ?_, by rw [hpoll]⟩
      rw [← hsplit, List.getLast?_append, ← hlast]
      rfl
    · rw [hpoll] at htaken
      cases htaken

end Delivery

end VariableBridge
