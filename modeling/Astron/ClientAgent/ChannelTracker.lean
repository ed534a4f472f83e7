import Mathlib.Algebra.Group.Nat.Basic
import Mathlib.Data.List.Perm.Basic

set_option autoImplicit false

/- `ChannelTracker` (src/clientagent/ClientAgent.cpp), which hands a client agent's clients the
channels of the range `ClientAgent::ClientAgent` reads from `channels.min` and `channels.max`.
`alloc_channel` counts `m_next` up to `m_max`, then reuses freed channels in the order they were
freed, and returns 0 when it has none. `channel_t` is a `uint64_t` (core/types.h), so
`m_next++` wraps to 0 past `CHANNEL_MAX`; the values here are `Nat`s below `2 ^ 64` and the
increment is taken modulo `2 ^ 64`. Which channels a client holds is not part of the tracker:
`Session.held` records them, and `free_channel` is only called on a held channel. -/

namespace Astron.ClientAgent

/-- `CHANNEL_MAX`, the largest `channel_t`. -/
def channelMax : Nat := 2 ^ 64 - 1

/-- A `ChannelTracker`: `m_next`, `m_max`, and `m_unused_channels` from front to back. -/
structure ChannelTracker where
  next : Nat
  max : Nat
  unusedChannels : List Nat
deriving DecidableEq, Repr

/-- `ChannelTracker(min, max)`. -/
def ChannelTracker.create (min max : Nat) : ChannelTracker := ⟨min, max, []⟩

/-- `ChannelTracker::alloc_channel`: the channel it returns and the tracker after. -/
def allocChannel (ct : ChannelTracker) : Nat × ChannelTracker :=
  if ct.next ≤ ct.max then (ct.next, { ct with next := (ct.next + 1) % 2 ^ 64 })
  else
    match ct.unusedChannels with
    | c :: rest => (c, { ct with unusedChannels := rest })
    | [] => (0, ct)

/-- `ChannelTracker::free_channel`. -/
def freeChannel (ct : ChannelTracker) (channel : Nat) : ChannelTracker :=
  { ct with unusedChannels := ct.unusedChannels ++ [channel] }

/-- The tracker and the channels handed out and not freed since. -/
structure Session where
  tracker : ChannelTracker
  held : List Nat
deriving DecidableEq, Repr

/-- A call on the tracker. -/
inductive Event where
  | alloc
  | free (channel : Nat)
deriving DecidableEq, Repr

/-- One call; `free_channel` only of a held channel. -/
def Session.step (s : Session) : Event → Option Session
  | .alloc =>
    let allocated := allocChannel s.tracker
    some ⟨allocated.2, allocated.1 :: s.held⟩
  | .free channel =>
    if channel ∈ s.held then some ⟨freeChannel s.tracker channel, s.held.erase channel⟩
    else none

/-- Run calls in order from a session. -/
def Session.run (s : Session) : List Event → Option Session
  | [] => some s
  | e :: events => (s.step e).bind fun next => next.run events

/-- The sessions some sequence of calls leads to from `ChannelTracker(min, max)`. -/
inductive Reachable (min max : Nat) : Session → Prop
  | initial : Reachable min max ⟨ChannelTracker.create min max, []⟩
  | step {s s' : Session} (e : Event) : Reachable min max s → s.step e = some s' →
      Reachable min max s'

theorem Reachable.run {min max : Nat} {s s' : Session} {events : List Event}
    (reach : Reachable min max s) (ran : s.run events = some s') : Reachable min max s' := by
  induction events generalizing s with
  | nil => exact Option.some.inj ran ▸ reach
  | cons e events ih =>
    simp only [Session.run, Option.bind_eq_some] at ran
    obtain ⟨next, stepped, rest⟩ := ran
    exact ih (reach.step e stepped) rest

/-- With the range `[CHANNEL_MAX, CHANNEL_MAX]`, the first `alloc_channel` returns
`CHANNEL_MAX` and wraps `m_next` to 0, which is still `<= m_max`: the second returns 0 and
the third returns channel 1, outside the range. -/
theorem allocChannel_wraps_past_channelMax :
    ∃ s, Reachable channelMax channelMax s ∧ s.held = [0, channelMax] ∧
      (allocChannel s.tracker).1 = 1 :=
  ⟨_, Reachable.initial.run (show Session.run ⟨ChannelTracker.create channelMax channelMax, []⟩
    [.alloc, .alloc] = some ⟨⟨1, channelMax, []⟩, [0, channelMax]⟩ from rfl), rfl, rfl⟩

section Fresh

variable {min max : Nat}

/-- The channels a session owns, held or waiting in `m_unused_channels`. -/
def Session.owned (s : Session) : List Nat := s.held ++ s.tracker.unusedChannels

/-- What every session reachable from `ChannelTracker(min, max)` satisfies: the nonzero
channels it owns are distinct, in the range, and below `m_next`. -/
structure TrackerInv (min max : Nat) (s : Session) : Prop where
  maxEq : s.tracker.max = max
  nextGe : min ≤ s.tracker.next
  inRange : ∀ c ∈ s.owned, c ≠ 0 → min ≤ c ∧ c ≤ max ∧ c < s.tracker.next
  nodup : (s.owned.filter (· ≠ 0)).Nodup

theorem TrackerInv.of_perm {s s' : Session} (inv : TrackerInv min max s)
    (perm : s'.owned.Perm s.owned) (same : s'.tracker.next = s.tracker.next)
    (sameMax : s'.tracker.max = s.tracker.max) : TrackerInv min max s' :=
  ⟨sameMax.trans inv.maxEq, same ▸ inv.nextGe,
    fun c mem nonzero => same ▸ inv.inRange c (perm.subset mem) nonzero,
    ((perm.filter _).nodup_iff).mpr inv.nodup⟩

theorem TrackerInv.alloc (below : max < channelMax) {s : Session} (inv : TrackerInv min max s) :
    TrackerInv min max ⟨(allocChannel s.tracker).2, (allocChannel s.tracker).1 :: s.held⟩ := by
  have least := inv.nextGe
  unfold allocChannel
  split_ifs with fits
  · have next : (s.tracker.next + 1) % 2 ^ 64 = s.tracker.next + 1 := by
      rw [inv.maxEq] at fits
      unfold channelMax at below
      exact Nat.mod_eq_of_lt (by omega)
    refine ⟨inv.maxEq, by simp only [next]; omega, fun c mem nonzero => ?_, ?_⟩
    · simp only [Session.owned, List.cons_append, List.mem_cons, next] at mem ⊢
      rcases mem with rfl | mem
      · exact ⟨least, inv.maxEq ▸ fits, by omega⟩
      · have old := inv.inRange c mem nonzero
        exact ⟨old.1, old.2.1, by omega⟩
    · simp only [Session.owned, List.cons_append, List.filter_cons]
      split
      · refine List.nodup_cons.mpr ⟨fun mem => ?_, inv.nodup⟩
        obtain ⟨owned, nonzero⟩ := List.mem_filter.mp mem
        exact absurd (inv.inRange _ owned (by simpa using nonzero)).2.2 (Nat.lt_irrefl _)
      · exact inv.nodup
  · split
    · rename_i c rest unused
      refine inv.of_perm ?_ rfl rfl
      simp only [Session.owned, unused, List.cons_append]
      exact List.perm_middle.symm
    · refine ⟨inv.maxEq, least, fun c mem nonzero => ?_, ?_⟩
      · simp only [Session.owned, List.cons_append, List.mem_cons] at mem
        rcases mem with rfl | mem
        · exact absurd rfl nonzero
        · exact inv.inRange c mem nonzero
      · simpa only [Session.owned, List.cons_append, List.filter_cons, ne_eq,
          not_true_eq_false, decide_False, Bool.false_eq_true, if_false] using inv.nodup

theorem TrackerInv.free {s : Session} (inv : TrackerInv min max s) {channel : Nat}
    (held : channel ∈ s.held) :
    TrackerInv min max ⟨freeChannel s.tracker channel, s.held.erase channel⟩ := by
  refine inv.of_perm ?_ rfl rfl
  simp only [Session.owned, freeChannel, ← List.append_assoc]
  exact (List.perm_append_singleton _ _).trans ((List.perm_cons_erase held).symm.append_right _)

theorem TrackerInv.step (below : max < channelMax) {s s' : Session} (inv : TrackerInv min max s)
    {e : Event} (stepped : s.step e = some s') : TrackerInv min max s' := by
  cases e with
  | alloc => exact Option.some.inj stepped ▸ inv.alloc below
  | free channel =>
    simp only [Session.step] at stepped
    split_ifs at stepped with held
    exact Option.some.inj stepped ▸ inv.free held

theorem Reachable.trackerInv (below : max < channelMax) {s : Session}
    (reach : Reachable min max s) : TrackerInv min max s := by
  induction reach with
  | initial =>
    exact ⟨rfl, le_refl _, fun _ mem => by simp [Session.owned, ChannelTracker.create] at mem,
      List.nodup_nil⟩
  | step _ _ stepped ih => exact ih.step below stepped

/-- When the range ends below `CHANNEL_MAX`, every nonzero channel `alloc_channel` returns, in
any sequence of allocations and frees of held channels, lies in the range and is held by no
one. -/
theorem allocChannel_fresh (below : max < channelMax) {s : Session}
    (reach : Reachable min max s) (nonzero : (allocChannel s.tracker).1 ≠ 0) :
    min ≤ (allocChannel s.tracker).1 ∧ (allocChannel s.tracker).1 ≤ max ∧
      (allocChannel s.tracker).1 ∉ s.held := by
  have inv := reach.trackerInv below
  have after := inv.alloc below
  have range := after.inRange _ (by simp [Session.owned]) nonzero
  refine ⟨range.1, range.2.1, fun mem => ?_⟩
  have dup := after.nodup
  simp only [Session.owned, List.cons_append, List.filter_cons, ne_eq, nonzero,
    not_false_eq_true, decide_True, if_true, List.nodup_cons] at dup
  exact dup.1 (List.mem_filter.mpr ⟨List.mem_append_left _ mem, by simpa using nonzero⟩)

/-- In the range `[5, 6]`, after two allocations and a free of 5, the next allocation reuses
5, which no one holds. -/
theorem allocChannel_fresh_reuse :
    ∃ s, Reachable 5 6 s ∧ s.held = [6] ∧ (allocChannel s.tracker).1 = 5 ∧
      5 ≤ (allocChannel s.tracker).1 ∧ (allocChannel s.tracker).1 ≤ 6 ∧
      (allocChannel s.tracker).1 ∉ s.held :=
  let reach := Reachable.initial.run (show Session.run ⟨ChannelTracker.create 5 6, []⟩
    [.alloc, .alloc, .free 5] = some ⟨⟨7, 6, [5]⟩, [6]⟩ from rfl)
  ⟨_, reach, rfl, rfl, allocChannel_fresh (by decide) reach (by decide)⟩

end Fresh

end Astron.ClientAgent
