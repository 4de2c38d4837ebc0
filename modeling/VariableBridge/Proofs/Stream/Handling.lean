import VariableBridge.Proofs.Stream.Lifeline

/-!
# Handling outlets

A program handles the outlets it holds by opening streams, sending samples and
closing streams. Some names may be kept: a stream with such a name is closed
only while another outlet with that name is held. Every message is one step, so
what holds after each step holds at each prefix of the log. The main statement
is that a kept name has an open stream at every prefix.
-/

namespace VariableBridge

/-- Is each of these names the name of an outlet? -/
def Carries (os : List Outlet) (kept : List String) : Prop :=
  ∀ x ∈ kept, ∃ o ∈ os, o.info.name = x

/-- More outlets carry the names that fewer of them carry, so that to open a stream breaks
nothing. -/
theorem Carries.mono {os os' : List Outlet} {kept : List String} (h : Carries os kept)
    (hs : os ⊆ os') : Carries os' kept := by
  intro x hx
  obtain ⟨o, ho, hn⟩ := h x hx
  exact ⟨o, hs ho, hn⟩

/-- Any outlets carry no names at all, which is what is asked of a bus without a registry. -/
theorem carries_nil (os : List Outlet) : Carries os [] := by
  intro x hx
  cases hx

/-- One message of a program that holds these outlets before and after it. -/
inductive Handles (kept : List String) : List Outlet → Bus → List Outlet → Bus → Prop where
  /-- A stream is opened. -/
  | opened (os : List Outlet) (b : Bus) (info : StreamInfo) :
    Handles kept os b ((b.announce info).1 :: os) (b.announce info).2
  /-- A sample is sent. -/
  | sent (o : Outlet) (os : List Outlet) (b : Bus) (values : SampleValues) :
    Handles kept (o :: os) b ((b.push o values).1 :: os) (b.push o values).2
  /-- A stream is closed; if its name is kept, another outlet has the same name. -/
  | closed (o : Outlet) (os : List Outlet) (b : Bus)
    (h : o.info.name ∈ kept → ∃ p ∈ os, p.info.name = o.info.name) :
    Handles kept (o :: os) b os (b.close o)

/-- Any number of messages of a program that holds these outlets before and after them. -/
inductive Handling (kept : List String) (os : List Outlet) (b : Bus) :
    List Outlet → Bus → Prop where
  /-- Nothing was done. -/
  | idle : Handling kept os b os b
  /-- The order of the outlets does not matter. -/
  | perm {os₁ os₂ : List Outlet} {b₁ : Bus} (h : Handling kept os b os₁ b₁)
    (hp : os₁.Perm os₂) : Handling kept os b os₂ b₁
  /-- Time passes. -/
  | wait {os₁ : List Outlet} {b₁ : Bus} (h : Handling kept os b os₁ b₁) (now : Time.Instant) :
    Handling kept os b os₁ { b₁ with now }
  /-- One more message. -/
  | step {os₁ os₂ : List Outlet} {b₁ b₂ : Bus} (h : Handling kept os b os₁ b₁)
    (hs : Handles kept os₁ b₁ os₂ b₂) : Handling kept os b os₂ b₂

variable {kept : List String} {os os' os₁ : List Outlet} {b b' b₁ : Bus}

/-- Each step publishes exactly one message at the end of the log: an announcement, a sample or an
end. -/
theorem Handles.log (h : Handles kept os b os' b') :
    ∃ m, b'.log.toList = b.log.toList ++ [m] := by
  cases h with
  | opened => exact ⟨_, Array.toList_push⟩
  | sent => exact ⟨_, Array.toList_push⟩
  | closed => exact ⟨_, Array.toList_push⟩

/-- One thing that is done to outlets takes a bus that holds the old ones to a bus that holds the
new ones. -/
theorem Handles.holds (h : Handles kept os b os' b') (hb : b.Holds os) : b'.Holds os' := by
  cases h with
  | opened => exact hb.announce _
  | sent => exact hb.push _
  | closed => exact hb.close

/-- One thing that is done to outlets leaves each kept name with an outlet that carries it. -/
theorem Handles.carries (h : Handles kept os b os' b') (hc : Carries os kept) :
    Carries os' kept := by
  intro x hx
  obtain ⟨o, ho, hn⟩ := hc x hx
  cases h with
  | opened => exact ⟨o, List.mem_cons_of_mem _ ho, hn⟩
  | sent =>
    rcases List.mem_cons.mp ho with rfl | ho
    · exact ⟨_, List.mem_cons_self, hn⟩
    · exact ⟨o, List.mem_cons_of_mem _ ho, hn⟩
  | closed _ _ _ hp =>
    rcases List.mem_cons.mp ho with rfl | ho
    · obtain ⟨q, hq, hqn⟩ := hp (hn ▸ hx)
      exact ⟨q, hq, hqn.trans hn⟩
    · exact ⟨o, ho, hn⟩

/-- Outlets that are left alone may be held besides those that are handled. -/
theorem Handles.frame (h : Handles kept os b os' b') (rest : List Outlet) :
    Handles kept (os ++ rest) b (os' ++ rest) b' := by
  cases h with
  | opened => exact .opened _ _ _
  | sent => exact .sent _ _ _ _
  | closed _ _ _ h =>
    refine .closed _ _ _ ?_
    intro hk
    obtain ⟨p, hp, hn⟩ := h hk
    exact ⟨p, List.mem_append_left _ hp, hn⟩

/-- What keeps some names keeps fewer of them, too, so that steps may be looked at by a caller that
asks for less. -/
theorem Handles.weaken (h : Handles kept os b os' b') {kept' : List String} (hk : kept' ⊆ kept) :
    Handles kept' os b os' b' := by
  cases h with
  | opened => exact .opened _ _ _
  | sent => exact .sent _ _ _ _
  | closed _ _ _ h => exact .closed _ _ _ fun hn => h (hk hn)

namespace Handling

/-- Handling outlets twice is handling them, and each kept name is carried all the time. -/
theorem trans (h : Handling kept os b os₁ b₁) (h' : Handling kept os₁ b₁ os' b') :
    Handling kept os b os' b' := by
  induction h' with
  | idle => exact h
  | perm _ hp ih => exact ih.perm hp
  | wait _ now ih => exact ih.wait now
  | step _ hs ih => exact ih.step hs

/-- Outlets of others are not touched when some are handled: they stand behind the handled ones as
before. -/
theorem frame (h : Handling kept os b os' b') (rest : List Outlet) :
    Handling kept (os ++ rest) b (os' ++ rest) b' := by
  induction h with
  | idle => exact .idle
  | perm _ hp ih => exact ih.perm (hp.append_right rest)
  | wait _ now ih => exact ih.wait now
  | step _ hs ih => exact ih.step (hs.frame rest)

/-- Fewer names may be kept, since it is no fault to keep more streams open than was asked. -/
theorem weaken (h : Handling kept os b os' b') {kept' : List String} (hk : kept' ⊆ kept) :
    Handling kept' os b os' b' := by
  induction h with
  | idle => exact .idle
  | perm _ hp ih => exact ih.perm hp
  | wait _ now ih => exact ih.wait now
  | step _ hs ih => exact ih.step (hs.weaken hk)

/-- What is done with some of the outlets, whatever their place in the list. -/
theorem of_perm (h : Handling kept os b os' b') {before after : List Outlet}
    (hb : before.Perm os) (ha : os'.Perm after) : Handling kept before b after b' :=
  ((perm .idle hb).trans h).perm ha

/-- However outlets are handled, a bus that held them before holds those that are left and new
ones. -/
theorem holds (h : Handling kept os b os' b') (hb : b.Holds os) : b'.Holds os' := by
  induction h with
  | idle => exact hb
  | perm _ hp ih => exact ih.perm hp
  | wait _ now ih => exact ih.at_time now
  | step _ hs ih => exact hs.holds ih

/-- However outlets are handled, the kept names are carried afterwards if they were before. -/
theorem carries (h : Handling kept os b os' b') (hc : Carries os kept) : Carries os' kept := by
  induction h with
  | idle => exact hc
  | perm _ hp ih =>
    intro x hx
    obtain ⟨o, ho, hn⟩ := ih x hx
    exact ⟨o, hp.mem_iff.mp ho, hn⟩
  | wait _ now ih => exact ih
  | step _ hs ih => exact hs.carries ih

/-- The log only grows, so what was announced, sent or closed before stays so. -/
theorem log_prefix (h : Handling kept os b os' b') : b.log.toList <+: b'.log.toList := by
  induction h with
  | idle => exact List.prefix_refl _
  | perm _ _ ih => exact ih
  | wait _ _ ih => exact ih
  | step _ hs ih =>
    obtain ⟨m, hm⟩ := hs.log
    rw [hm]
    exact ih.trans (List.prefix_append _ _)

/-- Every prefix of the log that is not shorter than the log before is the log at some
moment on the way. -/
theorem at_prefix (h : Handling kept os b os' b') {n : Nat} (hl : b.log.size ≤ n)
    (hu : n ≤ b'.log.size) :
    ∃ os₁ b₁, Handling kept os b os₁ b₁ ∧ b₁.log.toList = b'.log.toList.take n := by
  induction h with
  | idle =>
    refine ⟨os, b, .idle, ?_⟩
    rw [List.take_of_length_le (by simpa using hl)]
  | perm h hp ih => exact ih hu
  | wait h now ih => exact ih hu
  | @step os₁ os₂ b₁ b₂ h hs ih =>
    obtain ⟨m, hm⟩ := hs.log
    by_cases hn : n ≤ b₁.log.size
    · obtain ⟨osₙ, bₙ, hp, hlog⟩ := ih hn
      refine ⟨osₙ, bₙ, hp, ?_⟩
      rw [hlog, hm, List.take_append_of_le_length (by simpa using hn)]
    · refine ⟨os₂, b₂, h.step hs, ?_⟩
      have hsize : b₂.log.size = b₁.log.size + 1 := by
        simpa using congrArg List.length hm
      rw [List.take_of_length_le (by rw [Array.length_toList]; omega)]

/-- A kept name has an open stream at every prefix of the log: the new one opens before the old one
closes. -/
theorem openIn_take (h : Handling kept os b os' b') (hb : b.Holds os) (hc : Carries os kept)
    {n : Nat} (hl : b.log.size ≤ n) (hu : n ≤ b'.log.size) {x : String} (hx : x ∈ kept) :
    ∃ i info, OpenIn (b'.log.toList.take n) i info ∧ info.name = x := by
  obtain ⟨os₁, b₁, h₁, hlog⟩ := h.at_prefix hl hu
  obtain ⟨o, ho, hn⟩ := h₁.carries hc x hx
  refine ⟨o.id, o.info, ?_, hn⟩
  rw [← hlog]
  exact (h₁.holds hb).openIn_iff.mpr ⟨o, ho, rfl, rfl⟩

end Handling

end VariableBridge
