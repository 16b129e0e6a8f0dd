/-
This file proves what a line in raw mode delivers. Nothing is lost, repeated or
reordered there, and nothing is edited: reads take what was typed straight from
the raw queue, however many bytes they have room for.

But raw mode only changes how a line is read. A byte is mapped when it arrives,
before the mode is looked at, so that a line which also maps carriage returns or
folds capitals does so in raw mode too. What was typed comes through as it was
exactly when no byte of it is one that these two change.
-/

import SixthEdition.Proofs.OutputMap

namespace SixthEdition.Terminal

/-! ### Bytes that come through -/

/-- A line with these modes maps a typed byte to another character: it maps carriage returns and
this is one, or it folds capitals and this is one. -/
def Modes.Changes (modes : Modes) (byte : UInt8) : Prop :=
  modes.has .mapReturn ∧ lowSeven byte = 13 ∨
    modes.has .foldCase ∧ 65 ≤ lowSeven byte ∧ lowSeven byte ≤ 90

instance (modes : Modes) (byte : UInt8) : Decidable (modes.Changes byte) :=
  inferInstanceAs (Decidable (_ ∨ _))

/-- A small letter is another character than its capital. -/
theorem add_thirtyTwo_ne (character : UInt8) : character + 32 ≠ character := by
  intro same
  have equal : (character.toNat + 32) % 256 = character.toNat := congrArg UInt8.toNat same
  have bounded := character.toNat_lt
  omega

theorem typedCharacter_eq_lowSeven_iff (modes : Modes) (byte : UInt8) :
    typedCharacter modes byte = lowSeven byte ↔ ¬ modes.Changes byte := by
  rw [typedCharacter, Modes.Changes, lowSeven]
  generalize UInt8.ofNat (byte.toNat % 128) = seven
  by_cases returned : modes.has .mapReturn ∧ seven = 13
  · have newlineKept : ¬ (modes.has .foldCase ∧ 65 ≤ (10 : UInt8) ∧ (10 : UInt8) ≤ 90) :=
      fun capital => absurd capital.2.1 (by decide)
    have different : (10 : UInt8) ≠ seven := by
      rw [returned.2]
      decide
    simp only [if_pos returned, if_neg newlineKept]
    exact iff_of_false different fun unchanged => unchanged (.inl returned)
  · by_cases capital : modes.has .foldCase ∧ 65 ≤ seven ∧ seven ≤ 90
    · simp only [if_neg returned, if_pos capital]
      exact iff_of_false (add_thirtyTwo_ne seven) fun unchanged => unchanged (.inr capital)
    · simp only [if_neg returned, if_neg capital, true_iff]
      exact fun changes => changes.elim returned capital

/-- Typed bytes come through as they were exactly when the line changes none of them. -/
theorem map_typedCharacter_eq_iff (modes : Modes) (bytes : Bytes) :
    bytes.map (typedCharacter modes) = bytes.map lowSeven ↔
      ∀ byte ∈ bytes, ¬ modes.Changes byte := by
  rw [List.map_inj_left]
  exact forall₂_congr fun byte _ => typedCharacter_eq_lowSeven_iff modes byte

/-! ### The account -/

/-- On a line with given modes, the bytes delivered so far and those in the raw queue are together
all that was typed, each as the character that it counts as. -/
structure PassedOn (modes : Modes) (past : List (Action × Bytes)) (terminal : Terminal) :
    Prop where
  modes_eq : terminal.header.modes = modes
  conserved :
    delivered past ++ terminal.raw = (typed (past.map Prod.fst)).map (typedCharacter modes)

section Frame

variable (terminal : Terminal)

theorem raw_receive (bytes : Bytes) :
    (terminal.receive bytes).raw =
      terminal.raw ++ bytes.map (typedCharacter terminal.header.modes) := by
  rw [← inputByte_eq]
  exact congrArg InputSide.raw (inputSide_receive terminal bytes)

theorem modes_receive (bytes : Bytes) :
    (terminal.receive bytes).header.modes = terminal.header.modes :=
  congrArg InputSide.modes (inputSide_receive terminal bytes)

theorem read_of_raw (raw : terminal.header.modes.has .raw) (room : Nat) :
    terminal.read room =
      (terminal.raw.take room, { terminal with raw := terminal.raw.drop room }.refreshCounts) :=
  if_pos raw

theorem modes_openLine : terminal.openLine.header.modes = terminal.header.modes :=
  congrArg OutputSide.modes (outputSide_openLine terminal)

end Frame

namespace PassedOn

variable {modes : Modes} {past : List (Action × Bytes)} {terminal : Terminal}

/-- An action keeps the account if what it delivers, with the raw queue behind it, is the queue of
before with what it types behind that. -/
theorem extend {action : Action} {given : Bytes} {after : Terminal}
    (passed : PassedOn modes past terminal) (kept : after.header.modes = modes)
    (same : Action.delivered (action, given) ++ after.raw =
      terminal.raw ++ action.typed.map (typedCharacter modes)) :
    PassedOn modes (past ++ [(action, given)]) after := by
  refine ⟨kept, ?_⟩
  rw [delivered_append, List.map_append, typed_append, List.map_append, ← passed.conserved,
    List.append_assoc (delivered past) terminal.raw]
  simpa only [delivered, typed, List.map_cons, List.map_nil, List.flatMap_singleton,
    List.append_assoc, List.append_cancel_left_eq] using same

theorem perform (raw : modes.has .raw) (action : Action) (keeps : action.keepsModes)
    (passed : PassedOn modes past terminal) :
    PassedOn modes (past ++ [(action, (terminal.perform action).1)])
      (terminal.perform action).2 := by
  have settled : terminal.header.modes = modes := passed.modes_eq
  cases action with
  | receive bytes =>
    refine passed.extend ((modes_receive terminal bytes).trans settled) ?_
    show (terminal.receive bytes).raw = terminal.raw ++ bytes.map (typedCharacter modes)
    rw [raw_receive, settled]
  | read room =>
    rw [Terminal.perform, read_of_raw terminal (settled ▸ raw)]
    refine passed.extend settled ?_
    show terminal.raw.take room ++ terminal.raw.drop room = terminal.raw ++ []
    rw [List.take_append_drop, List.append_nil]
  | openLine =>
    exact passed.extend ((modes_openLine terminal).trans settled) (List.append_nil _).symm
  | takeOutput | write bytes | closeLine =>
    exact passed.extend settled (List.append_nil _).symm
  | configure settings => cases keeps

end PassedOn

/-- On a line in raw mode on which nothing waits to be read, readers get what was typed and nothing
else, each byte as the character that it counts as: after any run that leaves the modes alone, what
has been delivered, with the raw queue behind it, is that. This is what was typed with only the high
bits taken off exactly when the line changes no byte of it, that is, when no carriage return is
typed on a line that maps it and no capital on a line that folds it. -/
theorem run_passes_raw_input_iff (terminal : Terminal) (raw : terminal.header.modes.has .raw)
    (noRaw : terminal.raw = []) (actions : List Action)
    (keep : ∀ action ∈ actions, action.keepsModes) :
    let modes := terminal.header.modes
    let (trace, final) := run actions terminal
    delivered trace ++ final.raw = (typed actions).map (typedCharacter modes) ∧
    (delivered trace ++ final.raw = (typed actions).map lowSeven ↔
      ∀ byte ∈ typed actions, ¬ modes.Changes byte) := by
  have start : PassedOn terminal.header.modes [] terminal := ⟨rfl, noRaw⟩
  have passed := run_induction (fun action => action.keepsModes)
    (PassedOn terminal.header.modes) (PassedOn.perform raw) actions keep start
  have conserved := passed.conserved
  rw [List.nil_append, map_fst_run] at conserved
  refine ⟨conserved, ?_⟩
  rw [conserved]
  exact map_typedCharacter_eq_iff terminal.header.modes (typed actions)

/-- Erase characters, ends of text and small letters come through a line that maps and folds. -/
theorem run_passes_raw_input_read_in_pieces :
    let terminal : Terminal := { header := { Header.fresh ⟨4, 0⟩ with modes := ⟨0o74⟩ } }
    let actions : List Action :=
      [.receive [225, 35], .read 1, .receive [4, 10], .closeLine, .read 0, .read 2]
    let (trace, final) := run actions terminal
    terminal.header.modes.has .raw ∧ terminal.raw = [] ∧
    (∀ action ∈ actions, action.keepsModes) ∧
    delivered trace ++ final.raw = [97, 35, 4, 10] := by
  intro terminal actions
  have raw : terminal.header.modes.has .raw := by decide
  have keep : ∀ action ∈ actions, action.keepsModes := by decide
  have unchanged : ∀ byte ∈ typed actions, ¬ terminal.header.modes.Changes byte := by
    decide +kernel
  obtain ⟨-, transparent⟩ := run_passes_raw_input_iff terminal raw rfl actions keep
  exact ⟨raw, rfl, keep, transparent.mpr unchanged⟩

/-- Typed on a line in raw mode that maps carriage returns, one of them is read as a newline. -/
theorem raw_input_changed_by_return_mapping :
    let terminal : Terminal := { header := { Header.fresh ⟨4, 0⟩ with modes := ⟨0o60⟩ } }
    let actions : List Action := [.receive [13], .read 1]
    let (trace, final) := run actions terminal
    terminal.header.modes.has .raw ∧
    terminal.raw = [] ∧ terminal.canonical = [] ∧ terminal.output = [] ∧
    delivered trace ++ final.raw = [10] ∧
    delivered trace ++ final.raw ≠ (typed actions).map lowSeven := by
  decide

end SixthEdition.Terminal
