/-
This file proves when the header of a terminal tells how many complete lines
wait. The header has one byte for the number of delimiters in the raw queue. The
byte goes up with each delimiter that arrives, and down with each line that is
taken for a reader; it stops at either end of its range.

Stopping at 255 loses the delimiters above that number, and the byte does not get
them back: the first line that is taken while more than 255 wait makes it one too
low, although there are still as many lines as it can show. Up to that moment it
is right, and it is never too high. In raw mode it is always zero.
-/

import SixthEdition.Proofs.InputLines

namespace SixthEdition.Terminal

/-! ### The delimiters in a queue -/

/-- The newlines and the ends of text in a queue. -/
def delimiterCount (queue : Bytes) : Nat :=
  queue.countP fun byte => byte = 10 ∨ byte = 4

theorem countP_isDelimiter (queue : Bytes) : queue.countP isDelimiter = delimiterCount queue := by
  refine List.countP_congr fun byte _ => ?_
  rw [isDelimiter_iff, decide_eq_true_iff]

theorem delimiterCount_append (queue more : Bytes) :
    delimiterCount (queue ++ more) = delimiterCount queue + delimiterCount more :=
  List.countP_append

/-- Each complete line has one delimiter. -/
theorem length_lines (queue : Bytes) : (cut queue).1.length = delimiterCount queue := by
  induction queue with
  | nil => rfl
  | cons byte rest inductionHypothesis =>
    rw [cut, delimiterCount, List.countP_cons, ← delimiterCount, ← inductionHypothesis]
    by_cases ends : byte = 10 ∨ byte = 4
    · rw [if_pos ends, if_pos (decide_eq_true ends), List.length_cons]
    · rw [if_neg ends, if_neg (by simpa using ends)]
      obtain ⟨lines, unfinished⟩ := cut rest
      cases lines <;> rfl

theorem delimiterCount_of_firstLine? (queue : Bytes) :
    delimiterCount queue =
      match firstLine? queue with
      | none => 0
      | some (_, rest) => delimiterCount rest + 1 := by
  rw [← length_lines, cut_eq_of_firstLine?]
  cases firstLine? queue with
  | none => rfl
  | some found =>
    obtain ⟨line, rest⟩ := found
    exact congrArg (· + 1) (length_lines rest)

/-! ### The count in the header -/

/-- The number that the header has to show: none in raw mode, and 255 for any higher number. -/
def dueCount (terminal : Terminal) : Nat :=
  if terminal.header.modes.has .raw then 0 else min 255 (delimiterCount terminal.raw)

/-- The header shows what it has to. -/
def ShowsDelimiters (terminal : Terminal) : Prop :=
  terminal.header.delimiters.toNat = terminal.dueCount

theorem has_raw_fresh (device : DeviceNumber) : (fresh device).header.modes.has .raw = false := by
  show (Modes.echo.adding .mapReturn).has .raw = false
  decide

theorem showsDelimiters_fresh (device : DeviceNumber) : (fresh device).ShowsDelimiters := by
  rw [ShowsDelimiters, dueCount, has_raw_fresh]
  rfl

/-- Whether an action takes a line from the raw queue. -/
def TakesLine (terminal : Terminal) : Action → Prop
  | .read _ =>
    terminal.header.modes.has .raw = false ∧ terminal.canonical = [] ∧
      0 < delimiterCount terminal.raw
  | _ => False

/-- What an action can do to the count in the header, and to what it has to show. -/
inductive CountStep (before : Terminal) (action : Action) (after : Terminal) : Prop where
  /-- All input is forgotten. -/
  | forgotten (other : ¬ before.TakesLine action) (shown : after.header.delimiters.toNat = 0)
      (due : delimiterCount after.raw = 0)
  /-- The line stays in raw mode, where nothing is counted. -/
  | uncounted (other : ¬ before.TakesLine action) (wasRaw : before.header.modes.has .raw = true)
      (isRaw : after.header.modes.has .raw = true)
      (shown : after.header.delimiters = before.header.delimiters)
  /-- Some delimiters, or none, arrive. -/
  | arrived (more : Nat) (other : ¬ before.TakesLine action)
      (wasCooked : before.header.modes.has .raw = false)
      (isCooked : after.header.modes.has .raw = false)
      (shown : after.header.delimiters.toNat = min 255 (before.header.delimiters.toNat + more))
      (due : delimiterCount after.raw = delimiterCount before.raw + more)
  | taken (takes : before.TakesLine action) (wasCooked : before.header.modes.has .raw = false)
      (isCooked : after.header.modes.has .raw = false)
      (shown : after.header.delimiters.toNat = before.header.delimiters.toNat - 1)
      (due : delimiterCount before.raw = delimiterCount after.raw + 1)

namespace CountStep

variable {before after : Terminal} {action : Action}

/-- An action that changes none of what the count depends on. -/
theorem quiet (other : ¬ before.TakesLine action) (rawEq : after.raw = before.raw)
    (shownEq : after.header.delimiters = before.header.delimiters)
    (modesEq : after.header.modes = before.header.modes) : CountStep before action after := by
  cases mode : before.header.modes.has .raw with
  | true => exact .uncounted other mode (modesEq ▸ mode) shownEq
  | false =>
    refine .arrived 0 other mode (modesEq ▸ mode) ?_ (by rw [rawEq, Nat.add_zero])
    have small := before.header.delimiters.toNat_lt
    rw [shownEq]
    omega

/-- The count is never too high. -/
theorem le_dueCount (step : CountStep before action after)
    (low : before.header.delimiters.toNat ≤ before.dueCount) :
    after.header.delimiters.toNat ≤ after.dueCount := by
  cases step with
  | forgotten other shown due =>
    rw [shown]
    exact Nat.zero_le _
  | uncounted other wasRaw isRaw shown =>
    rw [dueCount, if_pos wasRaw] at low
    rw [shown, dueCount, if_pos isRaw]
    exact low
  | arrived more other wasCooked isCooked shown due =>
    rw [dueCount, if_neg (Bool.eq_false_iff.mp wasCooked)] at low
    rw [shown, dueCount, if_neg (Bool.eq_false_iff.mp isCooked), due]
    omega
  | taken takes wasCooked isCooked shown due =>
    rw [dueCount, if_neg (Bool.eq_false_iff.mp wasCooked)] at low
    rw [shown, dueCount, if_neg (Bool.eq_false_iff.mp isCooked)]
    omega

/-- A count that is right stays right, unless a line is taken while more than 255 delimiters
wait. -/
theorem showsDelimiters_iff (step : CountStep before action after)
    (right : before.ShowsDelimiters) :
    after.ShowsDelimiters ↔ (before.TakesLine action → delimiterCount before.raw ≤ 255) := by
  rw [ShowsDelimiters] at right ⊢
  cases step with
  | forgotten other shown due =>
    have zero : after.dueCount = 0 := by
      rw [dueCount, due]
      exact ite_self 0
    exact iff_of_true (shown.trans zero.symm) fun takes => absurd takes other
  | uncounted other wasRaw isRaw shown =>
    rw [dueCount, if_pos wasRaw] at right
    refine iff_of_true ?_ fun takes => absurd takes other
    rw [shown, right, dueCount, if_pos isRaw]
  | arrived more other wasCooked isCooked shown due =>
    rw [dueCount, if_neg (Bool.eq_false_iff.mp wasCooked)] at right
    refine iff_of_true ?_ fun takes => absurd takes other
    rw [shown, dueCount, if_neg (Bool.eq_false_iff.mp isCooked), due]
    omega
  | taken takes wasCooked isCooked shown due =>
    rw [dueCount, if_neg (Bool.eq_false_iff.mp wasCooked)] at right
    rw [shown, dueCount, if_neg (Bool.eq_false_iff.mp isCooked)]
    constructor
    · intro same _
      omega
    · intro few
      have bounded := few takes
      omega

end CountStep

/-! ### What each action does -/

theorem countStep_receive (terminal : Terminal) (bytes : Bytes) :
    CountStep terminal (.receive bytes) (terminal.receive bytes) := by
  have side := inputSide_receive terminal bytes
  have rawEq : (terminal.receive bytes).raw = terminal.raw ++ _ := congrArg InputSide.raw side
  have shown : (terminal.receive bytes).header.delimiters = _ := congrArg InputSide.delimiters side
  have modesEq : (terminal.receive bytes).header.modes = terminal.header.modes :=
    congrArg InputSide.modes side
  cases mode : terminal.header.modes.has .raw with
  | true =>
    rw [mode, if_pos rfl] at shown
    exact .uncounted id mode (modesEq ▸ mode) shown
  | false =>
    rw [mode, if_neg Bool.false_ne_true, countP_isDelimiter] at shown
    refine .arrived (delimiterCount (bytes.map terminal.header.modes.inputByte)) id mode
      (modesEq ▸ mode) ?_ ?_
    · rw [shown, toNat_countUp]
    · rw [rawEq, delimiterCount_append]

theorem countStep_read (terminal : Terminal) (room : Nat) :
    CountStep terminal (.read room) (terminal.read room).2 := by
  cases mode : terminal.header.modes.has .raw with
  | true =>
    have notTaken : ¬ terminal.TakesLine (.read room) := fun takes => by
      rw [TakesLine, mode] at takes
      cases takes.1
    have readEq : (terminal.read room).2 =
        { terminal with raw := terminal.raw.drop room }.refreshCounts := by
      rw [read, if_pos mode]
    rw [readEq]
    exact .uncounted notTaken mode mode rfl
  | false =>
    have readEq : (terminal.read room).2 =
        let ready := if terminal.canonical.isEmpty then terminal.canonicalize else terminal
        { ready with canonical := ready.canonical.drop room }.refreshCounts := by
      rw [read, mode, if_neg Bool.false_ne_true]
    rw [readEq]
    by_cases empty : terminal.canonical = []
    · have waiting := delimiterCount_of_firstLine? terminal.raw
      rw [if_pos (List.isEmpty_iff.mpr empty), canonicalize]
      cases first : firstLine? terminal.raw with
      | none =>
        rw [first] at waiting
        exact .quiet (fun takes => Nat.ne_of_gt takes.2.2 waiting) rfl rfl rfl
      | some found =>
        obtain ⟨line, rest⟩ := found
        rw [first] at waiting
        exact .taken ⟨mode, empty, waiting ▸ Nat.succ_pos _⟩ mode mode (toNat_countDown _) waiting
    · rw [if_neg (mt List.isEmpty_iff.mp empty)]
      exact .quiet (fun takes => empty takes.2.1) rfl rfl rfl

theorem countStep_perform (terminal : Terminal) (action : Action) :
    CountStep terminal action (terminal.perform action).2 := by
  cases action with
  | receive bytes => exact countStep_receive terminal bytes
  | read room => exact countStep_read terminal room
  | takeOutput | write bytes | closeLine => exact .quiet id rfl rfl rfl
  | openLine =>
    -- Only the editing characters may change, and the state.
    cases opened : terminal.isOpen <;>
      refine .quiet id rfl ?_ ?_ <;> simp only [Terminal.perform, openLine, opened] <;> rfl
  | configure settings => exact .forgotten id rfl rfl

/-! ### Runs -/

theorem delimiters_le_dueCount {terminal : Terminal}
    (low : terminal.header.delimiters.toNat ≤ terminal.dueCount) (actions : List Action) :
    (run actions terminal).2.header.delimiters.toNat ≤ (run actions terminal).2.dueCount :=
  @run_induction (fun _ => True)
    (fun _ reached => reached.header.delimiters.toNat ≤ reached.dueCount)
    (fun action _ => (countStep_perform _ action).le_dueCount) actions (fun _ _ => trivial)
    [] terminal low

/-- From a count that is right, the count is right all along a run exactly if no line is taken in
it while more than 255 delimiters wait. -/
theorem forall_prefix_showsDelimiters_iff {terminal : Terminal}
    (right : terminal.ShowsDelimiters) (actions : List Action) :
    (∀ past, past <+: actions → (run past terminal).2.ShowsDelimiters) ↔
      ∀ past action, past ++ [action] <+: actions → (run past terminal).2.TakesLine action →
        delimiterCount (run past terminal).2.raw ≤ 255 := by
  induction actions generalizing terminal with
  | nil =>
    refine iff_of_true ?_ ?_
    · intro past within
      rw [List.prefix_nil.mp within]
      exact right
    · intro past action within
      exact absurd (List.prefix_nil.mp within) (List.append_ne_nil_of_right_ne_nil _ nofun)
  | cons first rest inductionHypothesis =>
    have step := (countStep_perform terminal first).showsDelimiters_iff right
    constructor
    · intro shown past action within takes
      have next : (terminal.perform first).2.ShowsDelimiters := shown [first] ⟨rest, rfl⟩
      cases past with
      | nil =>
        obtain ⟨rfl, -⟩ := List.cons_prefix_cons.mp within
        exact step.mp next takes
      | cons head past =>
        obtain ⟨rfl, later⟩ := List.cons_prefix_cons.mp within
        refine (inductionHypothesis next).mp ?_ past action later takes
        intro middle inside
        exact shown (head :: middle) (List.cons_prefix_cons.mpr ⟨rfl, inside⟩)
    · intro bounded past within
      cases past with
      | nil => exact right
      | cons head past =>
        obtain ⟨rfl, later⟩ := List.cons_prefix_cons.mp within
        have next := step.mpr fun takes => bounded [] head ⟨rest, rfl⟩ takes
        refine (inductionHypothesis next).mpr ?_ past later
        intro middle action inside takes
        exact bounded (head :: middle) action (List.cons_prefix_cons.mpr ⟨rfl, inside⟩) takes

/-- Where the count is right, it is zero just when no complete line waits. -/
theorem ShowsDelimiters.eq_zero_iff {terminal : Terminal} (right : terminal.ShowsDelimiters)
    (cooked : terminal.header.modes.has .raw = false) :
    terminal.header.delimiters = 0 ↔ (cut terminal.raw).1 = [] := by
  rw [ShowsDelimiters, dueCount, if_neg (Bool.eq_false_iff.mp cooked), ← length_lines] at right
  rw [← UInt8.toNat_inj, right, ← List.length_eq_zero_iff]
  show min 255 _ = 0 ↔ _
  omega

/-- On a line that starts fresh, the count of delimiters in the header is never too high: it is at
most the number that wait in the raw queue and at most 255, and it is zero in raw mode. It is just
that number, or 255 for any higher one, in every state of a run exactly if no line is taken in the
run while more than 255 delimiters wait; and where it is, it is zero just when no complete line
waits. -/
theorem run_shows_delimiters_iff (device : DeviceNumber) (actions : List Action) :
    let reached := fun past : List Action => (run past (.fresh device)).2
    (reached actions).header.delimiters.toNat ≤ (reached actions).dueCount ∧
    ((∀ past, past <+: actions → (reached past).ShowsDelimiters) ↔
      ∀ past room, past ++ [.read room] <+: actions →
        (reached past).header.modes.has .raw = false → (reached past).canonical = [] →
        delimiterCount (reached past).raw ≤ 255) ∧
    ((reached actions).ShowsDelimiters → (reached actions).header.modes.has .raw = false →
      ((reached actions).header.delimiters = 0 ↔ (cut (reached actions).raw).1 = [])) := by
  intro reached
  have right : (fresh device).ShowsDelimiters := showsDelimiters_fresh device
  refine ⟨delimiters_le_dueCount (Nat.le_of_eq right) actions, ?_, ShowsDelimiters.eq_zero_iff⟩
  rw [forall_prefix_showsDelimiters_iff right]
  constructor
  · intro bounded past room within cooked empty
    by_cases waits : 0 < delimiterCount (reached past).raw
    · exact bounded past (.read room) within ⟨cooked, empty, waits⟩
    · omega
  · intro bounded past action within takes
    cases action with
    | read room => exact bounded past room within takes.1 takes.2.1
    | _ => cases takes

/-- After 256 lines have arrived and one has been read the count is 254, and 255 lines wait. When
254 more have been read it is zero, and a line still waits. -/
theorem delimiters_too_low_after_full_queue :
    let lines : Action := .receive (List.replicate 256 10)
    let reached := fun reads => (run (lines :: List.replicate reads (.read 1)) (.fresh ⟨4, 0⟩)).2
    ((reached 1).header.modes.has .raw = false ∧ (reached 1).header.delimiters = 254 ∧
      delimiterCount (reached 1).raw = 255) ∧
    (reached 255).header.modes.has .raw = false ∧ (reached 255).header.delimiters = 0 ∧
      delimiterCount (reached 255).raw = 1 := by
  decide +kernel

end SixthEdition.Terminal
