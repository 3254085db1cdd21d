import Workflow.Proofs.Sessions
/-!
# Which clicks confirm

A double click remembers one click; whether the next one confirms it is a matter of the whole history of clicks, moments
and resets.  `Confirms` tells it by the history alone: the earlier click was left pending, it was on the same edge, and
nothing came in between but moments within its window.  The click that is remembered is the one that waits in this
sense (`pending_after_iff`), event by event, so the answers are those of the history, and no click has a part in two
confirmations.
-/
namespace Workflow.DoubleClick

inductive Event where
  | click (e : Edge) (time : Int)
  | expire (time : Int)
  | reset

def step (d : DoubleClick) : Event → DoubleClick
  | .click e time => (d.click e time).2
  | .expire time => d.expire time
  | .reset => d.reset

def after (d : DoubleClick) (events : List Event) : DoubleClick := events.foldl step d

/-- What the click at some place of a trace answers. -/
def answer? (d : DoubleClick) (events : List Event) (i : Nat) : Option Click :=
  match events[i]? with
  | some (.click e time) => some ((d.after (events.take i)).click e time).1
  | _ => none

/-- The click at place `i`, on an edge at some moment, still waits at place `j`: it was left pending, and all that came
since were moments within its window. -/
structure Waits (window : Nat) (events : List Event) (i j : Nat) (e : Edge) (since : Int) : Prop where
  earlier : i < j
  clicked : events[i]? = some (.click e since)
  pending : (ofWindow window).answer? events i = some .pending
  quiet : ∀ k, i < k → k < j → ∃ t, events[k]? = some (.expire t) ∧ elapsed since t ≤ window

/-- The click at place `j` is the second one that the click at place `i` waits for. -/
def Confirms (window : Nat) (events : List Event) (i j : Nat) : Prop :=
  ∃ e since now, events[j]? = some (.click e now) ∧ Waits window events i j e since ∧ elapsed since now ≤ window

/-! ## One event -/

section

variable (d : DoubleClick)

theorem pending_expire_iff (now : Int) (p : PendingClick) :
    (d.expire now).pending = some p ↔ d.pending = some p ∧ elapsed p.time now ≤ d.window := by
  rw [expire]
  split
  · next empty => simp [empty]
  · next held waits =>
    rw [waits]
    split
    · next late =>
      constructor
      · intro none
        cases none
      · rintro ⟨same, within⟩
        rw [Option.some.inj same] at late
        exact absurd within (Nat.not_le.2 late)
    · next within =>
      rw [waits]
      refine ⟨fun same => ⟨same, ?_⟩, (·.1)⟩
      rw [← Option.some.inj same]
      exact Nat.le_of_not_lt within

/-- **A click is confirmed by the click that is remembered**, on the same edge and within the window. -/
theorem confirmed_iff (e : Edge) (now : Int) :
    (d.click e now).1 = .confirmed ↔ ∃ since, d.pending = some ⟨e, since⟩ ∧ elapsed since now ≤ d.window := by
  have held : (d.click e now).1 = .confirmed ↔ (d.expire now).edge? = some e := by
    rw [click]
    split
    · next same => exact ⟨fun _ => same, fun _ => rfl⟩
    · next other =>
      refine ⟨fun second => ?_, fun same => absurd same other⟩
      cases second
  rw [held, edge?, Option.map_eq_some_iff]
  constructor
  · rintro ⟨⟨edge, since⟩, waits, rfl⟩
    exact ⟨since, (d.pending_expire_iff now _).1 waits⟩
  · rintro ⟨since, waits⟩
    exact ⟨⟨e, since⟩, (d.pending_expire_iff now _).2 waits, rfl⟩

theorem click_of_confirmed {e : Edge} {now : Int} (second : (d.click e now).1 = .confirmed) :
    (d.click e now).2.pending = none := by
  rcases d.click_cases e now with first | ⟨-, done⟩
  · rw [first] at second
    cases second
  · rw [done]
    rfl

theorem click_of_not_confirmed {e : Edge} {now : Int} (first : (d.click e now).1 ≠ .confirmed) :
    (d.click e now).1 = .pending ∧ (d.click e now).2.pending = some ⟨e, now⟩ := by
  rcases d.click_cases e now with done | ⟨-, second⟩
  · rw [done]
    exact ⟨rfl, rfl⟩
  · rw [second] at first
    exact absurd rfl first

/-- **The click that is remembered after an event** is that event, or was remembered before and the event was a moment
within its window. -/
theorem pending_step_iff (ev : Event) (p : PendingClick) : (d.step ev).pending = some p ↔
    ev = .click p.edge p.time ∧ (d.click p.edge p.time).1 = .pending ∨
      (∃ t, ev = .expire t ∧ elapsed p.time t ≤ d.window) ∧ d.pending = some p := by
  cases ev with
  | click e now =>
    show (d.click e now).2.pending = some p ↔ _
    by_cases second : (d.click e now).1 = .confirmed
    · rw [d.click_of_confirmed second]
      refine ⟨nofun, ?_⟩
      rintro (⟨same, first⟩ | ⟨⟨t, same, -⟩, -⟩)
      · cases same
        rw [second] at first
        cases first
      · cases same
    · obtain ⟨first, held⟩ := d.click_of_not_confirmed second
      rw [held]
      constructor
      · intro same
        cases same
        exact .inl ⟨rfl, first⟩
      · rintro (⟨same, -⟩ | ⟨⟨t, same, -⟩, -⟩)
        · cases same
          rfl
        · cases same
  | expire now =>
    show (d.expire now).pending = some p ↔ _
    simp [pending_expire_iff, and_comm]
  | reset =>
    show d.reset.pending = some p ↔ _
    simp [reset]

theorem window_step (ev : Event) : (d.step ev).window = d.window := by
  cases ev with
  | click e now =>
    rcases d.click_cases e now with done | ⟨-, done⟩
    · rw [step, done]
    · rw [step, done]
      rfl
  | expire now => exact d.window_expire now
  | reset => exact d.window_reset

theorem window_after (events : List Event) : (d.after events).window = d.window := by
  induction events generalizing d with
  | nil => rfl
  | cons ev events ih => exact (ih (d.step ev)).trans (d.window_step ev)

theorem after_take_succ {events : List Event} {j : Nat} {ev : Event} (next : events[j]? = some ev) :
    d.after (events.take (j + 1)) = (d.after (events.take j)).step ev := by
  rw [after, List.take_add_one, next, Option.toList_some, List.foldl_append]
  rfl

theorem answer?_click {events : List Event} {j : Nat} {e : Edge} {now : Int}
    (clicked : events[j]? = some (.click e now)) :
    d.answer? events j = some ((d.after (events.take j)).click e now).1 := by
  rw [answer?, clicked]

end

/-! ## Histories -/

variable {window : Nat} {events : List Event}

/-- Waiting until after an event: from the event itself, or through it. -/
theorem waits_succ_iff {i j : Nat} {e : Edge} {since : Int} : Waits window events i (j + 1) e since ↔
    i = j ∧ events[j]? = some (.click e since) ∧ (ofWindow window).answer? events j = some .pending ∨
      Waits window events i j e since ∧ ∃ t, events[j]? = some (.expire t) ∧ elapsed since t ≤ window := by
  constructor
  · intro waits
    rcases Nat.lt_succ_iff_lt_or_eq.1 waits.earlier with less | rfl
    · have before : Waits window events i j e since :=
        ⟨less, waits.clicked, waits.pending, fun k after before => waits.quiet k after (Nat.lt_succ_of_lt before)⟩
      exact .inr ⟨before, waits.quiet j less (Nat.lt_succ_self j)⟩
    · exact .inl ⟨rfl, waits.clicked, waits.pending⟩
  · rintro (⟨rfl, clicked, pending⟩ | ⟨waits, moment⟩)
    · refine ⟨Nat.lt_succ_self i, clicked, pending, fun k after before => ?_⟩
      exact absurd after (Nat.not_lt_of_le (Nat.le_of_lt_succ before))
    · refine ⟨Nat.lt_succ_of_lt waits.earlier, waits.clicked, waits.pending, fun k after before => ?_⟩
      rcases Nat.lt_succ_iff_lt_or_eq.1 before with before | rfl
      · exact waits.quiet k after before
      · exact moment

/-- **The click that is remembered is the one that waits.** -/
theorem pending_after_iff {j : Nat} (within : j ≤ events.length) (e : Edge) (since : Int) :
    ((ofWindow window).after (events.take j)).pending = some ⟨e, since⟩ ↔ ∃ i, Waits window events i j e since := by
  induction j with
  | zero => exact ⟨nofun, fun ⟨i, waits⟩ => absurd waits.earlier (Nat.not_lt_zero i)⟩
  | succ j ih =>
    have next : events[j]? = some events[j] := List.getElem?_eq_getElem within
    rw [after_take_succ _ next, pending_step_iff, window_after, ih (Nat.le_of_succ_le within)]
    simp only [waits_succ_iff, next, Option.some.injEq]
    constructor
    · rintro (⟨clicked, pending⟩ | ⟨moment, i, waits⟩)
      · rw [clicked] at next
        exact ⟨j, .inl ⟨rfl, clicked, by rw [answer?_click _ next, pending]⟩⟩
      · exact ⟨i, .inr ⟨waits, moment⟩⟩
    · rintro ⟨i, ⟨rfl, clicked, pending⟩ | ⟨waits, moment⟩⟩
      · rw [clicked] at next
        rw [answer?_click _ next, Option.some.injEq] at pending
        exact .inl ⟨clicked, pending⟩
      · exact .inr ⟨moment, i, waits⟩

theorem answer?_confirmed_iff {j : Nat} {e : Edge} {now : Int} (clicked : events[j]? = some (.click e now)) :
    (ofWindow window).answer? events j = some .confirmed ↔ ∃ i, Confirms window events i j := by
  have within : j ≤ events.length := Nat.le_of_lt (List.getElem?_eq_some_iff.1 clicked).1
  rw [answer?_click _ clicked, Option.some.injEq, confirmed_iff, window_after]
  simp only [pending_after_iff within]
  constructor
  · rintro ⟨since, ⟨i, waits⟩, inTime⟩
    exact ⟨i, e, since, now, clicked, waits, inTime⟩
  · rintro ⟨i, e', since, now', clicked', waits, inTime⟩
    rw [clicked] at clicked'
    cases clicked'
    exact ⟨since, ⟨i, waits⟩, inTime⟩

theorem Confirms.answer {i j : Nat} (h : Confirms window events i j) :
    (ofWindow window).answer? events j = some .confirmed := by
  have ⟨_, _, _, clicked, _⟩ := h
  exact (answer?_confirmed_iff clicked).2 ⟨i, h⟩

end Workflow.DoubleClick
